import CoreBanking.Ledger.Invariant

/-!
# Balances and the accounting equation

Asset and expense accounts together hold what the other classes together hold, as
long as directions and account types are the declared ones. Nothing in a book asks for
that, and a transaction that is not so moves the two sides apart.

- `Book.WF.totalBalance_sub`: the sides differ by what the stored transactions move
  them apart by; this is the abstract trial balance of `DoubleEntry`, read in the
  normal direction of each account;
- `Book.WF.trialBalance`: nothing, in a book where all is declared;
- `Book.accounting_equation_iff`: a run keeps the equation exactly if each of its
  postings and reversals does.
-/

namespace CoreBanking.Ledger

open DoubleEntry

variable {Amount : Type} [AddCommGroup Amount]

namespace Book

/-- What `BookBalance` answers, and 0 where it finds no account. -/
def balance (s : Book Amount) (a : AccountID) : Amount :=
  match s.bookBalance a with
  | .ok b => b
  | .error _ => 0

theorem balance_of_lookup {s : Book Amount} {a : AccountID} {acct : Account}
    (h : s.accounts.lookup a = some acct) :
    s.balance a = s.computeBookBalance a acct.type := by
  simp only [balance, bookBalance, h]

theorem bookBalance_of_lookup {s : Book Amount} {a : AccountID} {acct : Account}
    (h : s.accounts.lookup a = some acct) : s.bookBalance a = .ok (s.balance a) := by
  rw [balance_of_lookup h, bookBalance, h]

/-- The sum of `BookBalance` over all accounts of the given types. -/
def totalBalance (s : Book Amount) (types : List AccountType) : Amount :=
  s.accounts.sum fun a acct => if acct.type ∈ types then s.balance a else 0

/-- What entries on an account take the two sides of the accounting equation apart by:
where credits count, twice what is in no declared direction, and all that is on an account
of no class, which is on neither side. -/
def apartOn (type : AccountType) (a : AccountID) (entries : List (Entry Amount)) : Amount :=
  match type with
  | .asset | .expense => 0
  | .liability | .equity | .revenue => undeclaredOn a entries + undeclaredOn a entries
  | .other _ => -net a (legs entries)

/-- The same over the accounts of a book. -/
def apart (s : Book Amount) (entries : List (Entry Amount)) : Amount :=
  s.accounts.sum fun a acct => apartOn acct.type a entries

theorem apartOn_eq_zero {type : AccountType} {a : AccountID} {entries : List (Entry Amount)}
    (h : ∀ e ∈ entries, e.accountID ≠ a) : apartOn type a entries = 0 := by
  have hnet : net a (legs entries) = 0 := by
    rw [← effect_debit_eq_net, effect_eq_zero h]
  have hundeclared : undeclaredOn a entries = 0 :=
    undeclaredOn_eq_zero fun e he heq => absurd heq (h e he)
  cases type <;> simp [apartOn, hnet, hundeclared]

@[simp] theorem apart_assignIDs (s : Book Amount) (n : ℕ) (entries : List (Entry Amount)) :
    s.apart (assignIDs n entries) = s.apart entries := by
  refine Finmap.sum_congr fun a acct _ => ?_
  cases acct.type <;> simp [apartOn]

/-- How a balance counts in the debit side less the credit side. -/
def side (type : AccountType) : Amount →+ Amount :=
  match type with
  | .asset | .expense => AddMonoidHom.id Amount
  | .liability | .equity | .revenue => -AddMonoidHom.id Amount
  | .other _ => 0

theorem side_effect (type : AccountType) (a : AccountID) (entries : List (Entry Amount)) :
    side type (effect type.normalBalance a entries)
      = net a (legs entries) + apartOn type a entries := by
  cases type with
  | asset => simp [side, apartOn, AccountType.normalBalance, effect_debit_eq_net]
  | expense => simp [side, apartOn, AccountType.normalBalance, effect_debit_eq_net]
  | other code => simp [side, apartOn]
  | liability | equity | revenue =>
    simp [side, apartOn, AccountType.normalBalance, effect_credit_eq_net]
    abel

/-- The two sides of the accounting equation, one less the other. -/
theorem totalBalance_sub (s : Book Amount) :
    s.totalBalance [.asset, .expense] - s.totalBalance [.liability, .equity, .revenue]
      = s.accounts.sum fun a acct => side acct.type (s.balance a) := by
  rw [totalBalance, totalBalance, ← Finmap.sum_sub]
  refine Finmap.sum_congr fun a acct _ => ?_
  cases acct.type <;> simp [side]

/-- Balances depend on the stored transactions. -/
theorem balance_congr {s s' : Book Amount} {a : AccountID} {acct : Account}
    (h : s.accounts.lookup a = some acct) (h' : s'.accounts.lookup a = some acct)
    (htx : s'.transactions = s.transactions) : s'.balance a = s.balance a := by
  rw [balance_of_lookup h, balance_of_lookup h', computeBookBalance, htx]
  rfl

variable [LinearOrder Amount]

section Changes

variable {s : Book Amount} {a : AccountID}

/-- Stored transactions do not touch an account that does not exist yet. -/
theorem WF.computeBookBalance_fresh (h : s.WF) (ha : s.accounts.lookup a = none)
    (ty : AccountType) : s.computeBookBalance a ty = 0 := by
  refine Finmap.sum_eq_zero fun k t hk => effect_eq_zero fun e he heq => ?_
  have hmem := h.accounts k t hk e he
  rw [heq] at hmem
  exact Finmap.lookup_eq_none.mp ha hmem

/-- A new account holds nothing. -/
theorem WF.balance_fresh (h : s.WF) (ha : s.accounts.lookup a = none)
    {s' : Book Amount} (htx : s'.transactions = s.transactions) :
    s'.balance a = 0 := by
  cases hacct : s'.accounts.lookup a with
  | none => simp only [balance, bookBalance, hacct]
  | some acct =>
    rw [balance_of_lookup hacct, computeBookBalance, htx]
    exact h.computeBookBalance_fresh ha acct.type

/-- An accepted posting adds the effect of its entries. -/
theorem WF.balance_record (h : s.WF) {acct : Account}
    (hacct : s.accounts.lookup a = some acct) (now : Time)
    (req : PostTransactionRequest Amount) :
    (s.record now (s.newTransaction now req)).balance a
      = s.balance a + effect acct.type.normalBalance a req.entries := by
  have hacct' : (s.record now (s.newTransaction now req)).accounts.lookup a
    = some acct := hacct
  rw [balance_of_lookup hacct, balance_of_lookup hacct',
    computeBookBalance_record (h.fresh_newTransaction now req), newTransaction,
    effect_assignIDs]

/-- Postings of the same entries in another order lead to the same balances. -/
theorem WF.bookBalance_perm (h : s.WF) (now : Time) {req req' : PostTransactionRequest Amount}
    (hentries : req.entries.Perm req'.entries) (a : AccountID) :
    (s.record now (s.newTransaction now req')).bookBalance a
      = (s.record now (s.newTransaction now req)).bookBalance a := by
  cases ha : s.accounts.lookup a with
  | none =>
    have hnone : ∀ req : PostTransactionRequest Amount,
        (s.record now (s.newTransaction now req)).accounts.lookup a = none := fun _ => ha
    simp only [bookBalance, hnone]
  | some acct =>
    have hsome : ∀ req : PostTransactionRequest Amount,
        (s.record now (s.newTransaction now req)).accounts.lookup a = some acct := fun _ => ha
    rw [bookBalance_of_lookup (hsome req), bookBalance_of_lookup (hsome req'),
      h.balance_record ha, h.balance_record ha, effect_perm _ a hentries]

/-- A reversal adds the effect of the opposite entries. -/
theorem WF.balance_recordReversal (h : s.WF) {acct : Account}
    (hacct : s.accounts.lookup a = some acct) (now : Time) {txID : TransactionID}
    {original : Transaction Amount} (description : String)
    (hstored : s.transactions.lookup txID = some original) :
    (s.recordReversal now txID original description).balance a = s.balance a
      + effect acct.type.normalBalance a (original.entries.map Entry.reversed) := by
  have hacct' : (s.recordReversal now txID original description).accounts.lookup a
    = some acct := hacct
  rw [balance_of_lookup hacct, balance_of_lookup hacct',
    computeBookBalance_recordReversal hstored
      (h.fresh_newReversal now original description)]

/-- The entries that a call posts if it goes through. -/
def Op.posted (s : Book Amount) : Op Amount → List (Entry Amount)
  | .postTransaction req => req.entries
  | .reverseTransaction txID _ =>
    ((s.transactions.lookup txID).map fun t => t.entries.map Entry.reversed).getD []
  | _ => []

/-- The balance of an account after a call: as before, or with the effect of the posted
entries, whose amounts are positive. -/
theorem Change.balance {now : Time} {op : Op Amount} {s s' : Book Amount}
    (hc : Change now s op s') (h : s.WF) {acct : Account}
    (hacct : s.accounts.lookup a = some acct) :
    s'.balance a = s.balance a ∨
      (s'.balance a = s.balance a + effect acct.type.normalBalance a (op.posted s) ∧
        ∀ e ∈ op.posted s, 0 < e.amount) := by
  have hkept := hc.accounts_kept h hacct
  cases hc with
  | refused => exact .inl rfl
  | ledger => exact .inl rfl
  | subledger => exact .inl rfl
  | account =>
    exact .inl (balance_congr hacct hkept rfl)
  | post req hacc => exact .inr ⟨h.balance_record hacct now req, hacc.positive⟩
  | reverse txID description original hstored hstatus =>
    right
    rw [Op.posted, hstored, Option.map_some, Option.getD_some]
    refine ⟨h.balance_recordReversal hacct now description hstored, fun e he => ?_⟩
    obtain ⟨e₀, he₀, rfl⟩ := List.mem_map.mp he
    exact h.positive txID original hstored e₀ he₀

/-- A call that posts nothing on an account keeps its balance. -/
theorem Change.bookBalance_kept {now : Time} {op : Op Amount} {s s' : Book Amount}
    (hc : Change now s op s') (h : s.WF) {acct : Account}
    (hacct : s.accounts.lookup a = some acct)
    (hposted : ∀ normal, effect normal a (op.posted s) = 0) :
    s'.bookBalance a = s.bookBalance a := by
  rw [bookBalance_of_lookup hacct, bookBalance_of_lookup (hc.accounts_kept h hacct)]
  rcases hc.balance h hacct with hsame | ⟨hadded, -⟩
  · rw [hsame]
  · rw [hadded, hposted, add_zero]

/-- A new account changes no balance. -/
theorem WF.balance_createAccount (h : s.WF) (now : Time) (subledgerID : SubledgerID)
    (name : String) (accountType : AccountType) (a : AccountID) :
    (exec (now, .createAccount subledgerID name accountType) s).balance a = s.balance a := by
  have hc := exec_change now (.createAccount subledgerID name accountType) s
  have htx : (exec (now, .createAccount subledgerID name accountType) s).transactions
      = s.transactions := by
    generalize hop : Op.createAccount subledgerID name accountType = op at hc
    generalize exec (now, op) s = s' at hc
    cases hc with
    | refused => rfl
    | account => rfl
    | _ => cases hop
  cases ha : s.accounts.lookup a with
  | none =>
    have hold : s.balance a = 0 := h.balance_fresh ha rfl
    rw [hold, h.balance_fresh ha htx]
  | some acct => exact balance_congr ha (hc.accounts_kept h ha) htx

end Changes

/-! ## The accounting equation -/

/-- The two sides of the equation differ by what each stored transaction takes them apart
by: all else is the trial balance of the legs. -/
theorem WF.totalBalance_sub {s : Book Amount} (h : s.WF) :
    s.totalBalance [.asset, .expense] - s.totalBalance [.liability, .equity, .revenue]
      = s.transactions.sum fun _ tx => s.apart tx.entries := by
  have hzero : (s.accounts.sum fun a _ => s.transactions.sum fun _ tx => net a (legs tx.entries))
      = 0 :=
    trial_balance s.accounts s.transactions (fun tx => legs tx.entries) h.balanced (by
      intro k t hk l hl
      obtain ⟨e, he, rfl⟩ := List.mem_map.mp hl
      exact h.accounts k t hk e he)
  calc s.totalBalance [.asset, .expense] - s.totalBalance [.liability, .equity, .revenue]
      = s.accounts.sum fun a acct => s.transactions.sum fun _ tx =>
          net a (legs tx.entries) + apartOn acct.type a tx.entries := by
        rw [Book.totalBalance_sub]
        refine Finmap.sum_congr fun a acct hacct => ?_
        rw [balance_of_lookup hacct, computeBookBalance, Finmap.map_sum]
        exact Finmap.sum_congr fun _ tx _ => side_effect acct.type a tx.entries
    _ = s.accounts.sum fun a acct => s.transactions.sum fun _ tx =>
          apartOn acct.type a tx.entries := by
        simp only [Finmap.sum_add, hzero, zero_add]
    _ = s.transactions.sum fun _ tx => s.apart tx.entries := Finmap.sum_comm ..

/-- All of the book is declared: the directions of its entries and the types of its
accounts. -/
structure Declared (s : Book Amount) : Prop where
  direction : ∀ k t, s.transactions.lookup k = some t → ∀ e ∈ t.entries, e.direction.Declared
  type : ∀ a acct, s.accounts.lookup a = some acct → acct.type.Declared

omit [LinearOrder Amount] in
theorem Declared.apart {s : Book Amount} (h : s.Declared) {entries : List (Entry Amount)}
    (hentries : ∀ e ∈ entries, e.direction.Declared) : s.apart entries = 0 := by
  refine Finmap.sum_eq_zero fun a acct hacct => ?_
  have hundeclared : undeclaredOn a entries = 0 :=
    undeclaredOn_eq_zero fun e he _ => hentries e he
  have htype := h.type a acct hacct
  cases hty : acct.type with
  | other code => rw [hty] at htype; exact htype.elim
  | asset | expense => rfl
  | liability | equity | revenue => simp [apartOn, hundeclared]

/-- The trial balance of a book that keeps the invariant and in which all is declared. -/
theorem WF.trialBalance {s : Book Amount} (h : s.WF) (hdeclared : s.Declared) :
    s.totalBalance [.asset, .expense]
      = s.totalBalance [.liability, .equity, .revenue] := by
  rw [← sub_eq_zero, h.totalBalance_sub]
  exact Finmap.sum_eq_zero fun k t hk => hdeclared.apart (hdeclared.direction k t hk)

/-- What a call posts or creates is declared. -/
def Op.Declared : Op Amount → Prop
  | .createAccount _ _ accountType => accountType.Declared
  | .postTransaction req => ∀ e ∈ req.entries, e.direction.Declared
  | _ => True

omit [AddCommGroup Amount] [LinearOrder Amount] in
theorem declared_newBook : (newBook Amount).Declared where
  direction _ _ h := by simp [newBook] at h
  type _ _ h := by simp [newBook] at h

namespace Declared

variable {s : Book Amount}

omit [AddCommGroup Amount] [LinearOrder Amount] in
/-- Other transactions and accounts do not matter. -/
theorem congr {s' : Book Amount} (h : s.Declared) (htx : s'.transactions = s.transactions)
    (haccts : s'.accounts = s.accounts) : s'.Declared where
  direction := htx ▸ h.direction
  type := haccts ▸ h.type

theorem addAccount (h : s.Declared) (hwf : s.WF) (now : Time) (subledgerID : SubledgerID)
    (name : String) {accountType : AccountType} (htype : accountType.Declared) :
    (s.addAccount now (s.newAccount now subledgerID name accountType)).Declared := by
  refine ⟨h.direction, fun a acct hacct => ?_⟩
  have hfresh := hwf.fresh_newAccount now subledgerID name accountType
  rcases (Finmap.lookup_insert_fresh hfresh).mp hacct with ⟨-, rfl⟩ | hold
  · exact htype
  · exact h.type a acct hold

theorem record (h : s.Declared) (hwf : s.WF) (now : Time) {req : PostTransactionRequest Amount}
    (hentries : ∀ e ∈ req.entries, e.direction.Declared) :
    (s.record now (s.newTransaction now req)).Declared := by
  refine ⟨fun k t hk e he => ?_, h.type⟩
  rcases hwf.lookup_record.mp hk with ⟨-, rfl⟩ | hold
  · obtain ⟨e₀, he₀, -, -, hdir⟩ := mem_assignIDs he
    exact hdir ▸ hentries e₀ he₀
  · exact h.direction k t hold e he

/-- Reversals are declared, whatever they reverse. -/
theorem recordReversal (h : s.Declared) (hwf : s.WF) (now : Time) {txID : TransactionID}
    {original : Transaction Amount} (description : String)
    (hstored : s.transactions.lookup txID = some original) :
    (s.recordReversal now txID original description).Declared := by
  refine ⟨fun k t hk e he => ?_, h.type⟩
  rcases (hwf.lookup_recordReversal hstored).mp hk with ⟨-, rfl⟩ | ⟨t₀, ht₀, rfl⟩
  · obtain ⟨e₀, he₀, -, -, hdir⟩ := mem_assignIDs he
    obtain ⟨e₁, -, rfl⟩ := List.mem_map.mp he₀
    exact hdir ▸ e₁.direction.declared_opposite
  · rw [apply_ite Transaction.entries, ite_self] at he
    exact h.direction k t₀ ht₀ e he

end Declared

/-- Calls with declared arguments keep a book declared. -/
theorem Change.declared {now : Time} {op : Op Amount} {s s' : Book Amount}
    (hc : Change now s op s') (h : s.WF) (hs : s.Declared) (hop : op.Declared) :
    s'.Declared := by
  cases hc with
  | refused => exact hs
  | ledger | subledger => exact hs.congr rfl rfl
  | account subledgerID name accountType => exact hs.addAccount h now subledgerID name hop
  | post req hacc => exact hs.record h now hop
  | reverse txID description original hstored hstatus =>
    exact hs.recordReversal h now description hstored

/-- A posting or a reversal that goes through keeps the two sides of the accounting
equation together. -/
def Squares (s : Book Amount) (step : Time × Op Amount) : Prop :=
  match step.2 with
  | .postTransaction req => s.Accepts req → s.apart req.entries = 0
  | .reverseTransaction txID _ =>
    ∀ original, s.transactions.lookup txID = some original → original.status ≠ .reversed →
      s.apart (original.entries.map Entry.reversed) = 0
  | _ => True

section Squaring

variable {s : Book Amount}

/-- What the stored transactions take the two sides of the equation apart by. -/
def drift (s : Book Amount) : Amount := s.transactions.sum fun _ tx => s.apart tx.entries

theorem WF.drift_eq_zero_iff (h : s.WF) : s.drift = 0 ↔
    s.totalBalance [.asset, .expense] = s.totalBalance [.liability, .equity, .revenue] := by
  rw [drift, ← h.totalBalance_sub, sub_eq_zero]

/-- A new account is on neither side: nothing mentions it. -/
theorem WF.drift_addAccount (h : s.WF) (now : Time) (subledgerID : SubledgerID)
    (name : String) (accountType : AccountType) :
    (s.addAccount now (s.newAccount now subledgerID name accountType)).drift = s.drift := by
  have hfresh := h.fresh_newAccount now subledgerID name accountType
  refine Finmap.sum_congr fun k t hk => ?_
  have hzero : apartOn accountType (s.newAccount now subledgerID name accountType).id t.entries
      = 0 := by
    refine apartOn_eq_zero fun e he heq => Finmap.lookup_eq_none.mp hfresh ?_
    exact heq ▸ h.accounts k t hk e he
  rw [apart, Book.addAccount, Finmap.sum_insert _ hfresh]
  exact (congrArg (· + _) hzero).trans (zero_add _)

theorem WF.drift_record (h : s.WF) (now : Time) (req : PostTransactionRequest Amount) :
    (s.record now (s.newTransaction now req)).drift = s.drift + s.apart req.entries := by
  have hentries : s.apart (s.newTransaction now req).entries = s.apart req.entries :=
    s.apart_assignIDs s.idCounter req.entries
  rw [← hentries, add_comm]
  exact Finmap.sum_insert _ (h.fresh_newTransaction now req) _

/-- A reversal keeps the original and adds the opposite entries. -/
theorem WF.drift_recordReversal (h : s.WF) (now : Time) {txID : TransactionID}
    {original : Transaction Amount} (description : String)
    (hstored : s.transactions.lookup txID = some original) :
    (s.recordReversal now txID original description).drift
      = s.drift + s.apart (original.entries.map Entry.reversed) := by
  have hentries : s.apart (s.newReversal now original description).entries
      = s.apart (original.entries.map Entry.reversed) :=
    s.apart_assignIDs s.idCounter (original.entries.map Entry.reversed)
  have hfresh := Finmap.lookup_update_none hstored (h.fresh_newReversal now original description)
    { original with status := .reversed }
  have hmarked : ((s.transactions.insert txID { original with status := .reversed }).sum
      fun _ tx => s.apart tx.entries) = s.drift :=
    Finmap.sum_insert_same hstored rfl
  rw [← hentries, ← hmarked, add_comm]
  exact Finmap.sum_insert _ hfresh _

/-- Of the steps from a book in which the equation holds, those that square keep it. -/
theorem WF.drift_exec (h : s.WF) (hzero : s.drift = 0) (step : Time × Op Amount) :
    (exec step s).drift = 0 ↔ s.Squares step := by
  obtain ⟨now, op⟩ := step
  have hc := exec_change now op s
  generalize exec (now, op) s = s' at hc
  cases hc with
  | refused _ hrefuses =>
    refine iff_of_true hzero ?_
    cases op with
    | postTransaction req => exact fun hacc => absurd hacc hrefuses
    | reverseTransaction txID description =>
      exact fun original hstored hstatus => absurd (hrefuses original hstored) hstatus
    | _ => trivial
  | ledger => exact iff_of_true hzero trivial
  | subledger => exact iff_of_true hzero trivial
  | account subledgerID name accountType =>
    exact iff_of_true ((h.drift_addAccount now subledgerID name accountType).trans hzero) trivial
  | post req hacc =>
    rw [h.drift_record now req, hzero, zero_add]
    exact ⟨fun hsquares _ => hsquares, fun hsquares => hsquares hacc⟩
  | reverse txID description original hstored hstatus =>
    rw [h.drift_recordReversal now description hstored, hzero, zero_add]
    constructor
    · intro hsquares original' hstored' _
      cases hstored.symm.trans hstored'
      exact hsquares
    · exact fun hsquares => hsquares original hstored hstatus

end Squaring

/-- A step with declared arguments squares, in a book where all is declared. -/
theorem Declared.squares {s : Book Amount} (h : s.Declared) {step : Time × Op Amount}
    (hstep : step.2.Declared) : s.Squares step := by
  obtain ⟨now, op⟩ := step
  cases op with
  | postTransaction req => exact fun _ => h.apart hstep
  | reverseTransaction txID description =>
    refine fun original _ _ => h.apart fun e he => ?_
    obtain ⟨e₀, -, rfl⟩ := List.mem_map.mp he
    exact e₀.direction.declared_opposite
  | _ => trivial

theorem declared_run {s : Book Amount} (h : s.WF) (hs : s.Declared)
    {steps : List (Time × Op Amount)} (hsteps : ∀ step ∈ steps, step.2.Declared) :
    (run exec s steps).Declared :=
  Along.invariant_of exec_wf
    (fun step s h hs hstep => (exec_change step.1 step.2 s).declared h hs hstep) h hs
    (Along.of_forall hsteps s)

/-- **The accounting equation** holds throughout a run from `NewBook` exactly if its
postings and reversals square, and they do where all arguments are declared. -/
theorem accounting_equation_iff (steps : List (Time × Op ℤ)) :
    ((∀ pre, pre <+: steps → (reached pre : Book ℤ).totalBalance [.asset, .expense]
        = (reached pre : Book ℤ).totalBalance [.liability, .equity, .revenue]) ↔
      Along exec Squares (newBook ℤ) steps) ∧
    ((∀ step ∈ steps, step.2.Declared) → Along exec Squares (newBook ℤ) steps) := by
  let inv (s : Book ℤ) : Prop := s.WF ∧ s.drift = 0
  have hstep : ∀ step s, inv s → (inv (exec step s) ↔ s.Squares step) := fun step s hs => by
    rw [← hs.1.drift_exec hs.2 step]
    exact ⟨fun h => h.2, fun h => ⟨exec_wf step s hs.1, h⟩⟩
  constructor
  · rw [← along_iff_invariant hstep ⟨wf_newBook, rfl⟩ steps]
    refine forall₂_congr fun pre _ => ?_
    rw [← (wf_reached pre).drift_eq_zero_iff]
    exact ⟨fun h => ⟨wf_reached pre, h⟩, fun h => h.2⟩
  · intro hdeclared
    let declared (s : Book ℤ) : Prop := s.WF ∧ s.Declared
    have hkept : ∀ step s, declared s → step.2.Declared → declared (exec step s) :=
      fun step s hs hop =>
        ⟨exec_wf step s hs.1, (exec_change step.1 step.2 s).declared hs.1 hs.2 hop⟩
    exact Along.imp_of hkept (fun step s hs hop => hs.2.squares hop)
      ⟨wf_newBook, declared_newBook⟩ (Along.of_forall hdeclared _)

/-- Alice's 100 are posted in a direction that is neither `Debit` nor `Credit`. -/
def undeclaredPayment : List (Time × Op ℤ) :=
  [.createLedger "General Ledger",
    .createSubledger ⟨"ldg_1"⟩ "Main",
    .createAccount ⟨"sub_3"⟩ "Cash" .asset,
    .createAccount ⟨"sub_3"⟩ "Alice" .liability,
    .postTransaction
      { entries := [{ accountID := ⟨"acct_5"⟩, amount := 100, direction := .debit },
          { accountID := ⟨"acct_7"⟩, amount := 100, direction := .other 7 }] }].map
    fun op => (⟨1, 0⟩, op)

/-- The posting is accepted, and leaves 100 on one side and -100 on the other. -/
theorem undeclared_unbalances :
    ¬∀ steps, (reached steps : Book ℤ).totalBalance [.asset, .expense]
      = (reached steps : Book ℤ).totalBalance [.liability, .equity, .revenue] := by
  intro h
  have hdebit : (reached undeclaredPayment : Book ℤ).totalBalance [.asset, .expense] = 100 := by
    decide +kernel
  have hcredit : (reached undeclaredPayment : Book ℤ).totalBalance
      [.liability, .equity, .revenue] = -100 := by
    decide +kernel
  have heq := h undeclaredPayment
  omega

end Book

end CoreBanking.Ledger
