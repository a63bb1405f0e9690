import CoreBanking.Base.DoubleEntry
import CoreBanking.Ledger.Book
import Mathlib.Algebra.Order.Group.Int

/-!
# What posting and reversing do to a book

One specification for each operation of a `Book`; later proofs cite these and
never unfold the operations.

- `Accepts`: the six conditions under which `PostTransaction` takes a request;
- `postTransaction_eq_ok` / `postTransaction_eq_error`: it succeeds exactly
  under these, recording `newTransaction`, and a refusal changes nothing;
- `reverseTransaction_eq_ok` / `reverseTransaction_eq_error`: likewise;
- `computeBookBalance_record`: a record adds the effect of its entries to every
  balance.
-/

namespace CoreBanking.Ledger

open DoubleEntry

section Effects

variable {Amount : Type} [AddCommGroup Amount]

/-! ## Entries as postings -/

/-- An entry as a signed amount on an account. -/
def Entry.leg (e : Entry Amount) : AccountID × Amount :=
  (e.accountID, if e.direction = .debit then e.amount else -e.amount)

/-- The posting made of the legs of the entries. -/
def legs (entries : List (Entry Amount)) : Posting AccountID Amount :=
  entries.map Entry.leg

@[simp] theorem legs_nil : legs ([] : List (Entry Amount)) = [] := rfl

@[simp] theorem legs_cons (e : Entry Amount) (es : List (Entry Amount)) :
    legs (e :: es) = e.leg :: legs es := rfl

@[simp] theorem effect_nil (normal : Direction) (a : AccountID) :
    effect normal a ([] : List (Entry Amount)) = 0 := rfl

@[simp] theorem effect_cons (normal : Direction) (a : AccountID)
    (e : Entry Amount) (es : List (Entry Amount)) :
    effect normal a (e :: es) = e.effect normal a + effect normal a es := by
  simp [effect]

/-- Amounts in no declared direction, which `validateBalance` counts as credits and the
replay takes off every balance. -/
def undeclaredOn (a : AccountID) (entries : List (Entry Amount)) : Amount :=
  (entries.map fun e => if e.accountID = a ∧ ¬e.direction.Declared then e.amount else 0).sum

@[simp] theorem undeclaredOn_cons (a : AccountID) (e : Entry Amount) (es : List (Entry Amount)) :
    undeclaredOn a (e :: es)
      = (if e.accountID = a ∧ ¬e.direction.Declared then e.amount else 0)
        + undeclaredOn a es := by
  simp [undeclaredOn]

theorem undeclaredOn_eq_zero {a : AccountID} {entries : List (Entry Amount)}
    (h : ∀ e ∈ entries, e.accountID = a → e.direction.Declared) : undeclaredOn a entries = 0 := by
  refine List.sum_eq_zero fun x hx => ?_
  obtain ⟨e, he, rfl⟩ := List.mem_map.mp hx
  exact if_neg fun hundeclared => hundeclared.2 (h e he hundeclared.1)

/-- What entries do to an account whose balance grows with debits is the net movement of
their legs. -/
theorem effect_debit_eq_net (a : AccountID) (entries : List (Entry Amount)) :
    effect .debit a entries = net a (legs entries) := by
  induction entries with
  | nil => simp
  | cons e es ih =>
    rw [effect_cons, ih, legs_cons, net_cons]
    by_cases ha : e.accountID = a
    · simp [Entry.effect, Entry.leg, ha]
    · simp [Entry.effect, Entry.leg, ha]

/-- An account whose balance grows with credits loses what is in no declared direction,
where the legs have it as a credit. -/
theorem effect_credit_eq_net (a : AccountID) (entries : List (Entry Amount)) :
    effect .credit a entries
      = -net a (legs entries) - (undeclaredOn a entries + undeclaredOn a entries) := by
  induction entries with
  | nil => simp [undeclaredOn]
  | cons e es ih =>
    rw [effect_cons, ih, legs_cons, net_cons, undeclaredOn_cons]
    by_cases ha : e.accountID = a
    · cases hd : e.direction <;> simp [Entry.effect, Entry.leg, Direction.Declared, ha, hd] <;> abel
    · simp [Entry.effect, Entry.leg, ha]

@[simp] theorem legs_reversed (entries : List (Entry Amount)) :
    legs (entries.map Entry.reversed) = reverse (legs entries) := by
  simp only [legs, reverse, List.map_map]
  refine List.map_congr_left fun e _ => ?_
  cases hd : e.direction <;>
    simp [Entry.leg, Entry.reversed, Direction.opposite, hd]

theorem undeclaredOn_reversed (a : AccountID) (entries : List (Entry Amount)) :
    undeclaredOn a (entries.map Entry.reversed) = 0 := by
  refine undeclaredOn_eq_zero fun e he _ => ?_
  obtain ⟨e₀, -, rfl⟩ := List.mem_map.mp he
  exact e₀.direction.declared_opposite

/-- What the balance of an account of the type misses of the credits less the debits that
`validateBalance` sees: an amount it should add, and subtracts. -/
def undercount (type : AccountType) (a : AccountID) (entries : List (Entry Amount)) : Amount :=
  if type.normalBalance = .debit then 0 else undeclaredOn a entries + undeclaredOn a entries

theorem undercount_reversed (type : AccountType) (a : AccountID)
    (entries : List (Entry Amount)) : undercount type a (entries.map Entry.reversed) = 0 := by
  rw [undercount, undeclaredOn_reversed, add_zero, ite_self]

theorem effect_eq_net (type : AccountType) (a : AccountID) (entries : List (Entry Amount)) :
    effect type.normalBalance a entries
      = (if type.normalBalance = .debit then net a (legs entries) else -net a (legs entries))
        - undercount type a entries := by
  rcases type.normalBalance_eq with hn | hn
  · simp [undercount, hn, effect_debit_eq_net]
  · simp [undercount, hn, effect_credit_eq_net]

/-- The reversal of an entry in no declared direction is a debit, so that an account whose
balance grows with credits loses the amount once more. -/
theorem effect_reversed (type : AccountType) (a : AccountID) (entries : List (Entry Amount)) :
    effect type.normalBalance a (entries.map Entry.reversed)
      = -effect type.normalBalance a entries - undercount type a entries := by
  rw [effect_eq_net, effect_eq_net, legs_reversed, net_reverse, undercount_reversed]
  split <;> abel

/-- Entries do not affect an account they do not mention. -/
theorem effect_eq_zero {normal : Direction} {a : AccountID}
    {entries : List (Entry Amount)} (h : ∀ e ∈ entries, e.accountID ≠ a) :
    effect normal a entries = 0 := by
  refine List.sum_eq_zero fun x hx => ?_
  obtain ⟨e, he, rfl⟩ := List.mem_map.mp hx
  exact if_pos (h e he)

/-- Entries on an account of the type that its balance reads as they are meant: none of them
is in no declared direction, or the account is debit-normal. -/
def Faithful (type : AccountType) (a : AccountID) (entries : List (Entry Amount)) : Prop :=
  type.normalBalance = .debit ∨ ∀ e ∈ entries, e.accountID = a → e.direction.Declared

theorem Faithful.undercount_eq_zero {type : AccountType} {a : AccountID}
    {entries : List (Entry Amount)} (h : Faithful type a entries) :
    undercount type a entries = 0 := by
  rcases h with hn | hdeclared
  · exact if_pos hn
  · rw [undercount, undeclaredOn_eq_zero hdeclared, add_zero, ite_self]

theorem undercount_nonneg {type : AccountType} {a : AccountID} {entries : List (Entry ℤ)}
    (hpos : ∀ e ∈ entries, 0 < e.amount) : 0 ≤ undercount type a entries := by
  have hsum : 0 ≤ undeclaredOn a entries := by
    refine List.sum_nonneg fun x hx => ?_
    obtain ⟨e, he, rfl⟩ := List.mem_map.mp hx
    have := hpos e he
    split <;> omega
  rw [undercount]
  split <;> omega

/-- Positive amounts leave something where they are not read as meant. -/
theorem faithful_iff {type : AccountType} {a : AccountID} {entries : List (Entry ℤ)}
    (hpos : ∀ e ∈ entries, 0 < e.amount) :
    Faithful type a entries ↔ undercount type a entries = 0 := by
  refine ⟨Faithful.undercount_eq_zero, fun hzero => or_iff_not_imp_left.mpr ?_⟩
  intro hcredit e he ha
  by_contra hundeclared
  have hle : e.amount ≤ undeclaredOn a entries := by
    refine List.single_le_sum (fun x hx => ?_) _
      (List.mem_map.mpr ⟨e, he, if_pos ⟨ha, hundeclared⟩⟩)
    obtain ⟨e', he', rfl⟩ := List.mem_map.mp hx
    have := hpos e' he'
    split <;> omega
  rw [undercount, if_neg hcredit] at hzero
  have := hpos e he
  omega

theorem foldl_addToTotals (entries : List (Entry Amount))
    (totals : Amount × Amount) :
    (entries.foldl addToTotals totals).1 - (entries.foldl addToTotals totals).2
      = totals.1 - totals.2 + total (legs entries) := by
  induction entries generalizing totals with
  | nil => simp
  | cons e es ih =>
    rw [List.foldl_cons, ih, legs_cons, total_cons]
    cases hd : e.direction <;> simp [addToTotals, Entry.leg, hd] <;> abel

/-- `validateBalance` accepts exactly the balanced postings. -/
theorem validateBalance_iff (entries : List (Entry Amount)) :
    ValidateBalance entries ↔ DoubleEntry.Balanced (legs entries) := by
  have h := foldl_addToTotals entries (0, 0)
  rw [sub_self, zero_add] at h
  rw [ValidateBalance, DoubleEntry.Balanced, ← h, sub_eq_zero]

/-! ## Entries in another order -/

theorem effect_perm (normal : Direction) (a : AccountID) {es es' : List (Entry Amount)}
    (h : es.Perm es') : effect normal a es = effect normal a es' :=
  (h.map _).sum_eq

theorem validateBalance_perm {es es' : List (Entry Amount)} (h : es.Perm es')
    (hbalanced : ValidateBalance es) : ValidateBalance es' := by
  rw [validateBalance_iff, DoubleEntry.Balanced] at hbalanced ⊢
  exact ((h.map Entry.leg).map Prod.snd).sum_eq.symm.trans hbalanced

end Effects

/-! ## Entry ids -/

section EntryIDs

variable {Amount : Type}

/-- Assigning ids changes nothing else of the entries. -/
theorem map_assignIDs {β : Type} (f : Entry Amount → β)
    (hf : ∀ e id, f { e with id := id } = f e) (entries : List (Entry Amount))
    (n : Nat) : (Book.assignIDs n entries).map f = entries.map f := by
  induction entries generalizing n with
  | nil => rfl
  | cons e es ih => simp [Book.assignIDs, hf, ih]

@[simp] theorem length_assignIDs (entries : List (Entry Amount)) (n : Nat) :
    (Book.assignIDs n entries).length = entries.length := by
  have h := congrArg List.length
    (map_assignIDs Entry.amount (fun _ _ => rfl) entries n)
  simpa using h

theorem mem_assignIDs {entries : List (Entry Amount)} {n : Nat}
    {e : Entry Amount} (h : e ∈ Book.assignIDs n entries) :
    ∃ e' ∈ entries, e.accountID = e'.accountID ∧ e.amount = e'.amount ∧
      e.direction = e'.direction := by
  induction entries generalizing n with
  | nil => cases h
  | cons e' es ih =>
    rcases List.mem_cons.mp h with rfl | h
    · exact ⟨e', List.mem_cons_self, rfl, rfl, rfl⟩
    · obtain ⟨e'', hmem, heq⟩ := ih h
      exact ⟨e'', List.mem_cons_of_mem _ hmem, heq⟩

variable [AddCommGroup Amount]

@[simp] theorem effect_assignIDs (normal : Direction) (a : AccountID)
    (entries : List (Entry Amount)) (n : Nat) :
    effect normal a (Book.assignIDs n entries) = effect normal a entries := by
  rw [effect, effect, map_assignIDs _ fun _ _ => rfl]

@[simp] theorem undeclaredOn_assignIDs (a : AccountID) (entries : List (Entry Amount))
    (n : Nat) : undeclaredOn a (Book.assignIDs n entries) = undeclaredOn a entries := by
  rw [undeclaredOn, undeclaredOn, map_assignIDs _ fun _ _ => rfl]

@[simp] theorem legs_assignIDs (entries : List (Entry Amount)) (n : Nat) :
    legs (Book.assignIDs n entries) = legs entries :=
  map_assignIDs _ (fun _ _ => rfl) entries n

end EntryIDs

namespace Book

variable {Amount : Type}

/-! ## Recording a transaction -/

/-- Add a transaction under its id, index its key, and log `ev`. -/
def record (s : Book Amount) (now : Time) (tx : Transaction Amount) : Book Amount :=
  { s with
    transactions := s.transactions.insert tx.id tx
    idempotencyIndex :=
      if tx.idempotencyKey = "" then s.idempotencyIndex
      else s.idempotencyIndex.insert tx.idempotencyKey tx.id
    auditLog := s.auditLog ++
      [⟨ident "evt" (s.idCounter + tx.entries.length + 2), now,
        .transactionPosted, tx.id.val, .transaction tx.id⟩]
    idCounter := s.idCounter + tx.entries.length + 2 }

/-- The transaction `PostTransaction` builds from a request. -/
def newTransaction (s : Book Amount) (now : Time)
    (req : PostTransactionRequest Amount) : Transaction Amount :=
  let bookingDate := if req.bookingDate.IsZero then now else req.bookingDate
  { id := ⟨ident "tx" (s.idCounter + req.entries.length + 1)⟩
    idempotencyKey := req.idempotencyKey
    entries := assignIDs s.idCounter req.entries
    bookingDate := bookingDate
    valueDate := if req.valueDate.IsZero then bookingDate else req.valueDate
    status := .posted
    description := req.description
    metadata := req.metadata
    createdAt := now
    reversalOf := none }

/-- The transaction `ReverseTransaction` builds from the original. -/
def newReversal (s : Book Amount) (now : Time) (original : Transaction Amount)
    (description : String) : Transaction Amount :=
  { id := ⟨ident "tx" (s.idCounter + original.entries.length + 1)⟩
    idempotencyKey := ""
    entries := assignIDs s.idCounter (original.entries.map Entry.reversed)
    bookingDate := now
    valueDate := original.valueDate
    status := .posted
    description := description
    metadata := ∅
    createdAt := now
    reversalOf := some original.id }

/-- The book after a reversal: the original marked, the counter-transaction
added, both ids logged. -/
def recordReversal (s : Book Amount) (now : Time) (txID : TransactionID)
    (original : Transaction Amount) (description : String) : Book Amount :=
  let reversal := s.newReversal now original description
  { s with
    transactions := (s.transactions.insert txID
      { original with status := .reversed }).insert reversal.id reversal
    auditLog := s.auditLog ++
      [⟨ident "evt" (s.idCounter + original.entries.length + 2), now,
        .transactionReversed, original.id.val,
        .reversal original.id reversal.id⟩]
    idCounter := s.idCounter + original.entries.length + 2 }

/-! ## Creating ledgers, subledgers and accounts -/

/-- The book with a new ledger, subledger or account, and the event logged. -/
def addLedger (s : Book Amount) (now : Time) (l : Ledger) : Book Amount :=
  { s with
    ledgers := s.ledgers.insert l.id l
    auditLog := s.auditLog ++ [⟨ident "evt" (s.idCounter + 2), now,
      .ledgerCreated, l.id.val, .ledger l.id⟩]
    idCounter := s.idCounter + 2 }

@[inherit_doc addLedger]
def addSubledger (s : Book Amount) (now : Time) (sl : Subledger) : Book Amount :=
  { s with
    subledgers := s.subledgers.insert sl.id sl
    auditLog := s.auditLog ++ [⟨ident "evt" (s.idCounter + 2), now,
      .subledgerCreated, sl.id.val, .subledger sl.id⟩]
    idCounter := s.idCounter + 2 }

@[inherit_doc addLedger]
def addAccount (s : Book Amount) (now : Time) (acct : Account) : Book Amount :=
  { s with
    accounts := s.accounts.insert acct.id acct
    auditLog := s.auditLog ++ [⟨ident "evt" (s.idCounter + 2), now,
      .accountCreated, acct.id.val, .account acct.id⟩]
    idCounter := s.idCounter + 2 }

/-- The record `CreateLedger` makes. -/
def newLedger (s : Book Amount) (now : Time) (name : String) : Ledger :=
  ⟨⟨ident "ldg" (s.idCounter + 1)⟩, name, now⟩

/-- The record `CreateSubledger` makes. -/
def newSubledger (s : Book Amount) (now : Time) (ledgerID : LedgerID)
    (name : String) : Subledger :=
  ⟨⟨ident "sub" (s.idCounter + 1)⟩, ledgerID, name, now⟩

/-- The record `CreateAccount` makes. -/
def newAccount (s : Book Amount) (now : Time) (subledgerID : SubledgerID)
    (name : String) (accountType : AccountType) : Account :=
  ⟨⟨ident "acct" (s.idCounter + 1)⟩, subledgerID, name, accountType, now⟩

theorem createLedger_eq (s : Book Amount) (now : Time) (name : String) :
    createLedger now name s
      = .ok (s.newLedger now name) (s.addLedger now (s.newLedger now name)) := rfl

theorem createSubledger_eq (s : Book Amount) (now : Time) (ledgerID : LedgerID)
    (name : String) :
    createSubledger now ledgerID name s =
      match s.ledgers.lookup ledgerID with
      | none => .error .ledgerNotFound s
      | some _ => .ok (s.newSubledger now ledgerID name)
          (s.addSubledger now (s.newSubledger now ledgerID name)) := by
  simp only [createSubledger, Call.get_bind]
  cases s.ledgers.lookup ledgerID <;> rfl

theorem createAccount_eq (s : Book Amount) (now : Time)
    (subledgerID : SubledgerID) (name : String) (accountType : AccountType) :
    createAccount now subledgerID name accountType s =
      match s.subledgers.lookup subledgerID with
      | none => .error .subledgerNotFound s
      | some _ => .ok (s.newAccount now subledgerID name accountType)
          (s.addAccount now (s.newAccount now subledgerID name accountType)) := by
  simp only [createAccount, Call.get_bind]
  cases s.subledgers.lookup subledgerID <;> rfl

/-! ## The balance check -/

section Specs

variable [AddCommGroup Amount] [LinearOrder Amount]

/-- The entries take no Asset or Expense account below zero. -/
def Sufficient (s : Book Amount) (entries : List (Entry Amount)) : Prop :=
  ∀ a acct, s.accounts.lookup a = some acct →
    acct.type = .asset ∨ acct.type = .expense →
    effect acct.type.normalBalance a entries < 0 →
    ¬s.computeBookBalance a acct.type
      + effect acct.type.normalBalance a entries < 0

omit [LinearOrder Amount] in
/-- The impact map, account by account: an account mentioned so far has the
effect of the entries added to what it had, and no other account is in it. -/
theorem foldlM_addImpact {s : Book Amount} {entries : List (Entry Amount)}
    (haccounts : ∀ e ∈ entries, (s.accounts.lookup e.accountID).isSome)
    (impact : GoMap AccountID Amount) :
    ∃ impact', entries.foldlM s.addImpact impact = .ok impact' ∧
      (∀ a, a ∈ impact' ↔ a ∈ impact ∨ ∃ e ∈ entries, e.accountID = a) ∧
      ∀ a acct, s.accounts.lookup a = some acct →
        (impact'.lookup a).getD 0 = (impact.lookup a).getD 0
          + effect acct.type.normalBalance a entries := by
  induction entries generalizing impact with
  | nil => exact ⟨impact, rfl, by simp, by simp⟩
  | cons e es ih =>
    obtain ⟨acct, hacct⟩ :=
      Option.isSome_iff_exists.mp (haccounts e List.mem_cons_self)
    have hstep : s.addImpact impact e = .ok (impact.insert e.accountID
        ((impact.lookup e.accountID).getD 0
          + e.effect acct.type.normalBalance e.accountID)) := by
      simp only [addImpact, hacct, Entry.effect]
      by_cases hd : e.direction = acct.type.normalBalance <;>
        simp [hd, sub_eq_add_neg]
    obtain ⟨impact', hfold, hmem, hval⟩ := ih
      (fun e' h' => haccounts e' (List.mem_cons_of_mem _ h'))
      (impact.insert e.accountID ((impact.lookup e.accountID).getD 0
        + e.effect acct.type.normalBalance e.accountID))
    refine ⟨impact', ?_, fun a => ?_, fun a acct' hacct' => ?_⟩
    · rw [List.foldlM_cons, hstep]
      exact hfold
    · rw [hmem, Finmap.mem_insert]
      constructor
      · rintro ((rfl | h) | ⟨e', he', rfl⟩)
        · exact .inr ⟨e, List.mem_cons_self, rfl⟩
        · exact .inl h
        · exact .inr ⟨e', List.mem_cons_of_mem _ he', rfl⟩
      · rintro (h | ⟨e', he', rfl⟩)
        · exact .inl (.inr h)
        · rcases List.mem_cons.mp he' with rfl | he'
          · exact .inl (.inl rfl)
          · exact .inr ⟨e', he', rfl⟩
    · rw [hval a acct' hacct', Finmap.lookup_insert_ite, effect_cons]
      by_cases ha : a = e.accountID
      · subst ha
        cases hacct.symm.trans hacct'
        rw [if_pos rfl, Option.getD_some, add_assoc]
      · have hzero : e.effect acct'.type.normalBalance a = 0 := by
          simp [Entry.effect, Ne.symm ha]
        rw [if_neg ha, hzero, zero_add]

/-- On existing accounts, the balance check is `Sufficient`. -/
theorem checkSufficientBalance_eq {s : Book Amount}
    {entries : List (Entry Amount)}
    (haccounts : ∀ e ∈ entries, (s.accounts.lookup e.accountID).isSome) :
    (s.Sufficient entries → checkSufficientBalance entries s = .ok () s) ∧
      (¬s.Sufficient entries →
        checkSufficientBalance entries s = .error .insufficientBalance s) := by
  obtain ⟨impact, hfold, hmem, hval⟩ := foldlM_addImpact haccounts ∅
  have hover : s.Overdrawn impact ↔ ¬s.Sufficient entries := by
    constructor
    · rintro ⟨⟨a, delta⟩, hpair, acct, hacct, htype, hneg, hbelow⟩ hsuff
      have hlook := Finmap.mem_pairs.mp hpair
      have hdelta := hval a acct hacct
      rw [hlook, Finmap.lookup_empty, Option.getD_some, Option.getD_none,
        zero_add] at hdelta
      dsimp only at hneg hbelow
      rw [hdelta] at hneg hbelow
      exact hsuff a acct hacct htype hneg hbelow
    · intro hns
      rw [Sufficient] at hns
      push Not at hns
      obtain ⟨a, acct, hacct, htype, hneg, hbelow⟩ := hns
      -- an account with an effect is mentioned by an entry
      have ha : a ∈ impact := by
        rw [hmem]
        by_contra hno
        have : ∀ e ∈ entries, e.accountID ≠ a := fun e he heq =>
          hno (.inr ⟨e, he, heq⟩)
        rw [effect_eq_zero this] at hneg
        exact lt_irrefl _ hneg
      obtain ⟨delta, hlook⟩ := Finmap.mem_iff.mp ha
      have hdelta := hval a acct hacct
      rw [hlook, Finmap.lookup_empty, Option.getD_some, Option.getD_none,
        zero_add] at hdelta
      refine ⟨(a, delta), Finmap.mem_pairs.mpr hlook, acct, hacct, htype, ?_, ?_⟩
      · rwa [hdelta]
      · rwa [hdelta]
  simp only [checkSufficientBalance, Call.get_bind, hfold]
  constructor
  · intro h
    have hno : ¬s.Overdrawn impact := fun ho => hover.mp ho h
    exact require_of hno _ _
  · intro h
    have hno : ¬¬s.Overdrawn impact := not_not.mpr (hover.mpr h)
    exact require_of_not hno _ _

/-! ## Posting -/

/-- The conditions under which `PostTransaction` takes a request. -/
structure Accepts (s : Book Amount) (req : PostTransactionRequest Amount) :
    Prop where
  nonempty : req.entries ≠ []
  positive : ∀ e ∈ req.entries, 0 < e.amount
  accounts : ∀ e ∈ req.entries, (s.accounts.lookup e.accountID).isSome
  key : req.idempotencyKey = "" ∨
    s.idempotencyIndex.lookup req.idempotencyKey = none
  balanced : ValidateBalance req.entries
  sufficient : s.Sufficient req.entries

theorem postTransaction_of_accepts {s : Book Amount}
    {req : PostTransactionRequest Amount} (h : s.Accepts req) (now : Time) :
    postTransaction now req s
      = .ok (s.newTransaction now req) (s.record now (s.newTransaction now req)) := by
  simp only [postTransaction, Call.get_bind]
  rw [require_bind_of h.nonempty, require_bind_of h.positive,
    require_bind_of h.accounts, require_bind_of h.key,
    require_bind_of h.balanced,
    Call.bind_of_ok ((checkSufficientBalance_eq h.accounts).1 h.sufficient)]
  simp [record, newTransaction]
  rfl

/-- The order of the entries does not matter. -/
theorem Accepts.perm {s : Book Amount} {req req' : PostTransactionRequest Amount}
    (h : s.Accepts req) (hentries : req.entries.Perm req'.entries)
    (hkey : req'.idempotencyKey = req.idempotencyKey) : s.Accepts req' where
  nonempty heq := h.nonempty (List.perm_nil.mp (heq ▸ hentries))
  positive e he := h.positive e (hentries.mem_iff.mpr he)
  accounts e he := h.accounts e (hentries.mem_iff.mpr he)
  key := by
    rw [hkey]
    exact h.key
  balanced := validateBalance_perm hentries h.balanced
  sufficient a acct hacct htype := by
    rw [← effect_perm _ a hentries]
    exact h.sufficient a acct hacct htype

/-- A refused request leaves the book as it was. -/
theorem postTransaction_of_not_accepts {s : Book Amount}
    {req : PostTransactionRequest Amount} (h : ¬s.Accepts req) (now : Time) :
    ∃ e, postTransaction now req s = .error e s ∧ e ≠ .nilDereference := by
  simp only [postTransaction, Call.get_bind]
  -- the checks in the order of the code: the first that fails ends the call
  by_cases h1 : req.entries ≠ []
  swap
  · exact ⟨_, require_bind_of_not h1 .., by decide⟩
  rw [require_bind_of h1]
  by_cases h2 : ∀ e ∈ req.entries, 0 < e.amount
  swap
  · exact ⟨_, require_bind_of_not h2 .., by decide⟩
  rw [require_bind_of h2]
  by_cases h3 : ∀ e ∈ req.entries, (s.accounts.lookup e.accountID).isSome
  swap
  · exact ⟨_, require_bind_of_not h3 .., by decide⟩
  rw [require_bind_of h3]
  by_cases h4 : req.idempotencyKey = "" ∨
      s.idempotencyIndex.lookup req.idempotencyKey = none
  swap
  · exact ⟨_, require_bind_of_not h4 .., by decide⟩
  rw [require_bind_of h4]
  by_cases h5 : ValidateBalance req.entries
  swap
  · exact ⟨_, require_bind_of_not h5 .., by decide⟩
  rw [require_bind_of h5]
  have h6 : ¬s.Sufficient req.entries := fun h6 => h ⟨h1, h2, h3, h4, h5, h6⟩
  exact ⟨_, Call.bind_of_error ((checkSufficientBalance_eq h3).2 h6) _, by decide⟩

/-- A request under a key that is in use is refused as a duplicate. -/
theorem postTransaction_duplicate {s : Book Amount}
    {req : PostTransactionRequest Amount} (hnonempty : req.entries ≠ [])
    (hpositive : ∀ e ∈ req.entries, 0 < e.amount)
    (haccounts : ∀ e ∈ req.entries, (s.accounts.lookup e.accountID).isSome)
    (hkey : ¬(req.idempotencyKey = "" ∨
      s.idempotencyIndex.lookup req.idempotencyKey = none)) (now : Time) :
    postTransaction now req s = .error .duplicateIdempotencyKey s := by
  simp only [postTransaction, Call.get_bind]
  rw [require_bind_of hnonempty, require_bind_of hpositive,
    require_bind_of haccounts, require_bind_of_not hkey]

/-- A request that passes all checks but the last is refused for want of
balance. -/
theorem postTransaction_insufficient {s : Book Amount}
    {req : PostTransactionRequest Amount} (hnonempty : req.entries ≠ [])
    (hpositive : ∀ e ∈ req.entries, 0 < e.amount)
    (haccounts : ∀ e ∈ req.entries, (s.accounts.lookup e.accountID).isSome)
    (hkey : req.idempotencyKey = "" ∨
      s.idempotencyIndex.lookup req.idempotencyKey = none)
    (hbalanced : ValidateBalance req.entries) (hshort : ¬s.Sufficient req.entries)
    (now : Time) : postTransaction now req s = .error .insufficientBalance s := by
  simp only [postTransaction, Call.get_bind]
  rw [require_bind_of hnonempty, require_bind_of hpositive,
    require_bind_of haccounts, require_bind_of hkey, require_bind_of hbalanced]
  exact Call.bind_of_error ((checkSufficientBalance_eq haccounts).2 hshort) _

theorem postTransaction_eq_ok {s s' : Book Amount} {now : Time}
    {req : PostTransactionRequest Amount} {tx : Transaction Amount} :
    postTransaction now req s = .ok tx s' ↔
      s.Accepts req ∧ tx = s.newTransaction now req ∧ s' = s.record now tx := by
  by_cases h : s.Accepts req
  · rw [postTransaction_of_accepts h]
    constructor
    · intro heq
      cases heq
      exact ⟨h, rfl, rfl⟩
    · rintro ⟨-, rfl, rfl⟩
      rfl
  · obtain ⟨e, he, -⟩ := postTransaction_of_not_accepts h now
    simp [he, h]

theorem postTransaction_eq_error {s s' : Book Amount} {now : Time}
    {req : PostTransactionRequest Amount} {e : Err}
    (h : postTransaction now req s = .error e s') :
    s' = s ∧ ¬s.Accepts req := by
  by_cases hacc : s.Accepts req
  · rw [postTransaction_of_accepts hacc] at h
    cases h
  · obtain ⟨e', he, -⟩ := postTransaction_of_not_accepts hacc now
    rw [he] at h
    cases h
    exact ⟨rfl, hacc⟩

end Specs

/-! ## Reversing -/

theorem reverseTransaction_of_posted {s : Book Amount} {txID : TransactionID}
    {original : Transaction Amount}
    (hlook : s.transactions.lookup txID = some original)
    (hstatus : original.status ≠ .reversed) (now : Time) (description : String) :
    reverseTransaction now txID description s
      = .ok (s.newReversal now original description)
          (s.recordReversal now txID original description) := by
  simp only [reverseTransaction, Call.get_bind, hlook, orThrow_some_bind]
  rw [require_bind_of hstatus]
  simp [recordReversal, newReversal, nextEntryIDs]
  rfl

theorem reverseTransaction_eq_ok {s s' : Book Amount} {now : Time}
    {txID : TransactionID} {description : String} {tx : Transaction Amount} :
    reverseTransaction now txID description s = .ok tx s' ↔
      ∃ original, s.transactions.lookup txID = some original ∧
        original.status ≠ .reversed ∧
        tx = s.newReversal now original description ∧
        s' = s.recordReversal now txID original description := by
  cases hlook : s.transactions.lookup txID with
  | none => simp [reverseTransaction, hlook]
  | some original =>
    by_cases hstatus : original.status = .reversed
    · simp only [reverseTransaction, Call.get_bind, hlook, orThrow_some_bind]
      rw [require_bind_of_not (not_not.mpr hstatus)]
      simp [hstatus]
    · rw [reverseTransaction_of_posted hlook hstatus]
      constructor
      · intro h
        cases h
        exact ⟨original, rfl, hstatus, rfl, rfl⟩
      · rintro ⟨_, heq, -, rfl, rfl⟩
        cases heq
        rfl

/-- A refused reversal leaves the book as it was. -/
theorem reverseTransaction_eq_error {s s' : Book Amount} {now : Time}
    {txID : TransactionID} {description : String} {e : Err}
    (h : reverseTransaction now txID description s = .error e s') :
    s' = s ∧ ∀ original, s.transactions.lookup txID = some original →
      original.status = .reversed := by
  cases hlook : s.transactions.lookup txID with
  | none =>
    simp [reverseTransaction, hlook] at h
    exact ⟨h.2.symm, by simp⟩
  | some original =>
    by_cases hstatus : original.status = .reversed
    · simp only [reverseTransaction, Call.get_bind, hlook, orThrow_some_bind] at h
      rw [require_bind_of_not (not_not.mpr hstatus)] at h
      cases h
      exact ⟨rfl, by simp [hstatus]⟩
    · rw [reverseTransaction_of_posted hlook hstatus] at h
      cases h

end Book

end CoreBanking.Ledger
