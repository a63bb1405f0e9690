import CoreBanking.Ledger.TrialBalance

/-!
# What `PostTransaction` accepts, and what it does

`postTransactionIn` is `PostTransaction` with its last check as the code has it: a loop
over the impact map in some order, which stops at the first account that would be
overdrawn. Every such refusal is the same error, so the order does not matter
(`postTransactionIn_eq`).

- `postTransactionIn_checked`: a request goes through exactly under six conditions. It then
  replays its entries on the balances and changes nothing else, and otherwise it fails with
  the error of the first condition that is violated;
- `postTransaction_exact_iff`: the replay adds what is in the normal direction of an account
  and subtracts the rest exactly if no entry on a credit-normal account is in a direction
  that is neither `Debit` nor `Credit`;
- `undeclared_subtracted`: a request that has such an entry goes through.
-/

namespace CoreBanking.Ledger

section Totals

variable {Amount : Type} [AddCommGroup Amount] {entries : List (Entry Amount)}

/-- The sum of the entries in one direction. What is not a debit counts as a credit, as it
does in `validateBalance`. -/
def totalIn (direction : Direction) (entries : List (Entry Amount)) : Amount :=
  ((entries.filter fun e => e.direction.counted = direction).map Entry.amount).sum

/-- The sum of the entries on an account in one direction. -/
def totalOn (a : AccountID) (direction : Direction) (entries : List (Entry Amount)) :
    Amount :=
  totalIn direction (entries.filter fun e => e.accountID = a)

theorem totalIn_cons (direction : Direction) (e : Entry Amount) :
    totalIn direction (e :: entries)
      = (if e.direction.counted = direction then e.amount else 0) + totalIn direction entries := by
  by_cases h : e.direction.counted = direction
  · simp [totalIn, h]
  · simp [totalIn, h]

theorem totalOn_cons (a : AccountID) (direction : Direction) (e : Entry Amount) :
    totalOn a direction (e :: entries)
      = (if e.accountID = a ∧ e.direction.counted = direction then e.amount else 0)
        + totalOn a direction entries := by
  by_cases h : e.accountID = a
  · simp [totalOn, h, totalIn_cons]
  · simp [totalOn, h]

theorem foldl_addToTotals_eq (totals : Amount × Amount) :
    entries.foldl addToTotals totals
      = (totals.1 + totalIn .debit entries, totals.2 + totalIn .credit entries) := by
  induction entries generalizing totals with
  | nil => simp [totalIn]
  | cons e es ih =>
    rw [List.foldl_cons, ih, totalIn_cons, totalIn_cons]
    cases hdir : e.direction <;> simp [addToTotals, Direction.counted, hdir, add_assoc]

/-- `validateBalance` compares the totals. -/
theorem validateBalance_iff_totals :
    ValidateBalance entries ↔ totalIn .debit entries = totalIn .credit entries := by
  rw [ValidateBalance, foldl_addToTotals_eq]
  simp

/-- The legs on an account: its debits, less its credits. -/
theorem net_eq_totals (a : AccountID) (entries : List (Entry Amount)) :
    DoubleEntry.net a (legs entries) = totalOn a .debit entries - totalOn a .credit entries := by
  induction entries with
  | nil => simp [totalOn, totalIn]
  | cons e es ih =>
    rw [legs_cons, DoubleEntry.net_cons, ih, totalOn_cons, totalOn_cons]
    by_cases ha : e.accountID = a
    · cases hdir : e.direction <;> simp [Entry.leg, Direction.counted, ha, hdir] <;> abel
    · simp [Entry.leg, ha]

/-- The effect of entries on an account: those in its normal direction, less the others and
what the balance misses of them. -/
theorem effect_eq_totals (type : AccountType) (a : AccountID) (entries : List (Entry Amount)) :
    effect type.normalBalance a entries
      = totalOn a type.normalBalance entries - totalOn a type.normalBalance.opposite entries
        - undercount type a entries := by
  rw [effect_eq_net, net_eq_totals]
  rcases type.normalBalance_eq with hn | hn
  · simp [hn, Direction.opposite]
  · simp [hn, Direction.opposite]

end Totals

namespace Book

variable {Amount : Type} [AddCommGroup Amount] [LinearOrder Amount]

/-! ## The balance check in some order -/

/-- The second loop of `checkSufficientBalance`, over the impacts in the order in which they
come. -/
def checkImpacts (s : Book Amount) : List (AccountID × Amount) → Except Err Unit
  | [] => .ok ()
  | (accountID, delta) :: rest =>
    match s.accounts.lookup accountID with
    | none => .error .nilDereference
    | some acct =>
      if acct.type ≠ .asset ∧ acct.type ≠ .expense then s.checkImpacts rest
      else if 0 ≤ delta then s.checkImpacts rest
      else if s.computeBookBalance accountID acct.type + delta < 0 then
        .error .insufficientBalance
      else s.checkImpacts rest

/-- `checkSufficientBalance`, where Go visits the impact map in the order `σ`. -/
def checkSufficientBalanceIn (σ : MapOrder AccountID Amount) (entries : List (Entry Amount)) :
    Call (Book Amount) Err Unit := do
  let s ← get
  match entries.foldlM s.addImpact ∅ with
  | .error e => throw e
  | .ok impact => Call.ofExcept (s.checkImpacts (σ.toList impact))

/-- `PostTransaction`, where Go visits the impact map in the order `σ`. -/
def postTransactionIn (σ : MapOrder AccountID Amount) (now : Time)
    (req : PostTransactionRequest Amount) : Call (Book Amount) Err (Transaction Amount) := do
  let s ← get
  require (req.entries ≠ []) .emptyTransaction
  require (∀ e ∈ req.entries, 0 < e.amount) .invalidAmount
  require (∀ e ∈ req.entries, (s.accounts.lookup e.accountID).isSome)
    .accountNotFound
  require (req.idempotencyKey = "" ∨
    s.idempotencyIndex.lookup req.idempotencyKey = none) .duplicateIdempotencyKey
  require (ValidateBalance req.entries) .unbalancedTransaction
  checkSufficientBalanceIn σ req.entries
  let bookingDate := if req.bookingDate.IsZero then now else req.bookingDate
  let valueDate := if req.valueDate.IsZero then bookingDate else req.valueDate
  let entries ← nextEntryIDs req.entries
  let id ← nextID "tx"
  let tx : Transaction Amount :=
    { id := ⟨id⟩
      idempotencyKey := req.idempotencyKey
      entries := entries
      bookingDate := bookingDate
      valueDate := valueDate
      status := .posted
      description := req.description
      metadata := req.metadata
      createdAt := now
      reversalOf := none }
  modify fun s => { s with
    transactions := s.transactions.insert tx.id tx
    idempotencyIndex :=
      if req.idempotencyKey = "" then s.idempotencyIndex
      else s.idempotencyIndex.insert req.idempotencyKey tx.id }
  appendAudit now .transactionPosted tx.id.val (.transaction tx.id)
  pure tx

variable {s : Book Amount} {entries : List (Entry Amount)}

/-- The loop refuses the impacts exactly if one of them overdraws its account. -/
theorem checkImpacts_eq {impacts : List (AccountID × Amount)}
    (haccounts : ∀ d ∈ impacts, (s.accounts.lookup d.1).isSome) :
    s.checkImpacts impacts
      = if ∃ d ∈ impacts, s.Overdraws d.1 d.2 then .error .insufficientBalance else .ok () := by
  induction impacts with
  | nil => simp [checkImpacts]
  | cons d rest ih =>
    obtain ⟨accountID, delta⟩ := d
    obtain ⟨hhead, hrest⟩ := List.forall_mem_cons.mp haccounts
    obtain ⟨acct, hacct⟩ := Option.isSome_iff_exists.mp hhead
    have hover : s.Overdraws accountID delta ↔
        (acct.type = .asset ∨ acct.type = .expense) ∧ delta < 0 ∧
          s.computeBookBalance accountID acct.type + delta < 0 := by
      simp only [Overdraws, hacct, Option.mem_some, exists_eq_left']
    simp only [checkImpacts, hacct, List.exists_mem_cons_iff, hover, ih hrest]
    split_ifs <;> grind

/-- On existing accounts, the order in which the impacts are visited does not matter. -/
theorem checkSufficientBalanceIn_eq (σ : MapOrder AccountID Amount)
    (haccounts : ∀ e ∈ entries, (s.accounts.lookup e.accountID).isSome) :
    checkSufficientBalanceIn σ entries s = checkSufficientBalance entries s := by
  obtain ⟨impact, hfold, hmem, -⟩ := foldlM_addImpact haccounts ∅
  have hknown : ∀ d ∈ σ.toList impact, (s.accounts.lookup d.1).isSome := by
    rintro ⟨a, delta⟩ hd
    have ha : a ∈ impact := Finmap.mem_iff.mpr ⟨delta, σ.mem_toList.mp hd⟩
    rcases (hmem a).mp ha with hno | ⟨e, he, rfl⟩
    · exact absurd hno Finmap.notMem_empty
    · exact haccounts e he
  have hover : (∃ d ∈ σ.toList impact, s.Overdraws d.1 d.2) ↔ s.Overdrawn impact := by
    rw [Overdrawn, ← σ.coe_toList]
    rfl
  simp only [checkSufficientBalanceIn, checkSufficientBalance, Call.get_bind, hfold]
  by_cases h : s.Overdrawn impact
  · rw [require_of_not (not_not.mpr h), checkImpacts_eq hknown, if_pos (hover.mpr h)]
    rfl
  · rw [require_of h, checkImpacts_eq hknown, if_neg fun hex => h (hover.mp hex)]
    rfl

/-- So it does not matter for a posting, which has checked the accounts by then. -/
theorem postTransactionIn_eq (σ : MapOrder AccountID Amount) (now : Time)
    (req : PostTransactionRequest Amount) (s : Book Amount) :
    postTransactionIn σ now req s = postTransaction now req s := by
  simp only [postTransactionIn, postTransaction, Call.get_bind]
  refine require_bind_congr fun _ => require_bind_congr fun _ =>
    require_bind_congr fun haccounts => require_bind_congr fun _ =>
      require_bind_congr fun _ => ?_
  exact Call.bind_congr_left (checkSufficientBalanceIn_eq σ haccounts) _

/-! ## The specification -/

/-- The conditions of `PostTransaction` on a request, in the order in which it checks them,
each with its error. -/
def conditions (s : Book Amount) (req : PostTransactionRequest Amount) : List (Prop × Err) :=
  [(req.entries ≠ [], .emptyTransaction),
    (∀ e ∈ req.entries, 0 < e.amount, .invalidAmount),
    (∀ e ∈ req.entries, e.accountID ∈ s.accounts, .accountNotFound),
    (req.idempotencyKey = "" ∨
      ∀ k t, s.transactions.lookup k = some t → t.idempotencyKey ≠ req.idempotencyKey,
      .duplicateIdempotencyKey),
    (totalIn .debit req.entries = totalIn .credit req.entries, .unbalancedTransaction),
    (∀ a acct, s.accounts.lookup a = some acct → acct.type = .asset ∨ acct.type = .expense →
      effect acct.type.normalBalance a req.entries < 0 →
        0 ≤ s.balance a + effect acct.type.normalBalance a req.entries, .insufficientBalance)]

/-- The balance check, in terms of balances. -/
theorem sufficient_iff : s.Sufficient entries ↔
    ∀ a acct, s.accounts.lookup a = some acct → acct.type = .asset ∨ acct.type = .expense →
      effect acct.type.normalBalance a entries < 0 →
        0 ≤ s.balance a + effect acct.type.normalBalance a entries := by
  rw [Sufficient]
  refine forall₃_congr fun a acct hacct => ?_
  rw [balance_of_lookup hacct, not_lt]

/-- A key is unused if no transaction carries it. -/
theorem WF.unused_iff (h : s.WF) {key : String} (hne : key ≠ "") :
    s.idempotencyIndex.lookup key = none ↔
      ∀ k t, s.transactions.lookup k = some t → t.idempotencyKey ≠ key := by
  rw [Option.eq_none_iff_forall_ne_some]
  constructor
  · intro hnone k t hk hkey
    exact hnone k ((h.index key k).mpr ⟨hne, t, hk, hkey⟩)
  · intro hall k hk
    obtain ⟨-, t, hk', hkey⟩ := (h.index key k).mp hk
    exact hall k t hk' hkey

/-- `PostTransaction` checks the conditions in their order before it does anything. -/
theorem WF.postTransaction_validates (h : s.WF) (now : Time)
    (req : PostTransactionRequest Amount) :
    Call.Validates (postTransaction now req) s (s.conditions req) := by
  have hkey : (req.idempotencyKey = "" ∨
      s.idempotencyIndex.lookup req.idempotencyKey = none) ↔ (req.idempotencyKey = "" ∨
        ∀ k t, s.transactions.lookup k = some t → t.idempotencyKey ≠ req.idempotencyKey) := by
    by_cases hne : req.idempotencyKey = ""
    · simp [hne]
    · rw [h.unused_iff hne]
  have hstored : (∀ e ∈ req.entries, (s.accounts.lookup e.accountID).isSome) ↔
      ∀ e ∈ req.entries, e.accountID ∈ s.accounts :=
    forall₂_congr fun _ _ => Finmap.lookup_isSome
  refine .congr (Call.get_bind _ s) (.require Iff.rfl fun _ => .require Iff.rfl fun _ =>
    .require hstored fun haccounts => .require hkey fun _ =>
      .require validateBalance_iff_totals fun _ => ?_)
  obtain ⟨hpass, hfail⟩ := checkSufficientBalance_eq haccounts
  rw [sufficient_iff] at hpass hfail
  exact .guard hpass hfail fun _ => .of_ok rfl

/-- Whatever order the impact map is visited in, a request on a reachable book goes through
exactly under the conditions, keeps all accounts and transactions, and replays its entries
on the balances. A request that is refused leaves the book as it is, with the error of the
first condition it violates. -/
theorem postTransactionIn_checked (steps : List (Time × Op Amount))
    (σ : MapOrder AccountID Amount) (now : Time) (req : PostTransactionRequest Amount) :
    let s : Book Amount := reached steps
    ((∃ tx s', postTransactionIn σ now req s = .ok tx s') ↔ ∀ c ∈ s.conditions req, c.1) ∧
    (∀ tx s', postTransactionIn σ now req s = .ok tx s' →
      s'.accounts = s.accounts ∧
      (∀ k t, s.transactions.lookup k = some t → s'.transactions.lookup k = some t) ∧
      ∀ a acct, s.accounts.lookup a = some acct →
        s'.bookBalance a
          = .ok (s.balance a + effect acct.type.normalBalance a req.entries)) ∧
    ∀ e s', postTransactionIn σ now req s = .error e s' →
      s' = s ∧ Call.FirstViolated (s.conditions req) e := by
  intro s
  have hwf : s.WF := wf_reached steps
  have hvalidates := hwf.postTransaction_validates now req
  rw [postTransactionIn_eq]
  refine ⟨hvalidates.ok_iff, fun tx s' hok => ?_, hvalidates.error⟩
  obtain ⟨hacc, rfl, rfl⟩ := postTransaction_eq_ok.mp hok
  refine ⟨rfl, fun k t hk => hwf.lookup_record.mpr (.inr hk), fun a acct hacct => ?_⟩
  have hacct' : (s.record now (s.newTransaction now req)).accounts.lookup a = some acct := hacct
  rw [bookBalance_of_lookup hacct', hwf.balance_record hacct]

/-- The specification of `PostTransaction`: when it succeeds, what it does to accounts,
transactions and balances, and what a failure does. -/
structure MeetsSpec (s : Book ℤ) (σ : MapOrder AccountID ℤ) (now : Time)
    (req : PostTransactionRequest ℤ) : Prop where
  accepts : (∃ tx s', postTransactionIn σ now req s = .ok tx s') ↔ ∀ c ∈ s.conditions req, c.1
  kept : ∀ tx s', postTransactionIn σ now req s = .ok tx s' →
    s'.accounts = s.accounts ∧
    ∀ k t, s.transactions.lookup k = some t → s'.transactions.lookup k = some t
  balances : ∀ tx s', postTransactionIn σ now req s = .ok tx s' →
    ∀ a acct, s.accounts.lookup a = some acct →
      s'.bookBalance a = .ok (s.balance a + totalOn a acct.type.normalBalance req.entries
        - totalOn a acct.type.normalBalance.opposite req.entries)
  refused : ∀ e s', postTransactionIn σ now req s = .error e s' →
    s' = s ∧ Call.FirstViolated (s.conditions req) e

/-- **`PostTransaction` is exact** for a request on a reachable book, whatever order the
impact map is visited in, unless the request goes through and has an entry on a
credit-normal account in no declared direction: it counts as a credit, but the balance of
the account goes down by it. -/
theorem postTransaction_exact_iff (steps : List (Time × Op ℤ)) (σ : MapOrder AccountID ℤ)
    (now : Time) (req : PostTransactionRequest ℤ) :
    (reached steps : Book ℤ).MeetsSpec σ now req ↔
      ((∀ c ∈ (reached steps : Book ℤ).conditions req, c.1) →
        ∀ a acct, (reached steps : Book ℤ).accounts.lookup a = some acct →
          Faithful acct.type a req.entries) := by
  obtain ⟨haccepts, hok, hrefused⟩ := postTransactionIn_checked steps σ now req
  have heffect : (∀ e ∈ req.entries, 0 < e.amount) → ∀ (type : AccountType) (a : AccountID)
      (balance : ℤ), balance + effect type.normalBalance a req.entries
        = balance + totalOn a type.normalBalance req.entries
          - totalOn a type.normalBalance.opposite req.entries ↔
      Faithful type a req.entries := by
    intro hpos type a balance
    rw [faithful_iff hpos, effect_eq_totals]
    omega
  constructor
  · intro hspec hconditions a acct hacct
    have hpos : ∀ e ∈ req.entries, 0 < e.amount :=
      hconditions (∀ e ∈ req.entries, 0 < e.amount, .invalidAmount) (by simp [conditions])
    obtain ⟨tx, s', hs'⟩ := haccepts.mpr hconditions
    have hbalance := ((hok tx s' hs').2.2 a acct hacct).symm.trans
      (hspec.balances tx s' hs' a acct hacct)
    exact (heffect hpos acct.type a _).mp (Except.ok.inj hbalance)
  · intro hfaithful
    refine ⟨haccepts, fun tx s' hs' => ⟨(hok tx s' hs').1, (hok tx s' hs').2.1⟩,
      fun tx s' hs' a acct hacct => ?_, hrefused⟩
    have hconditions := haccepts.mp ⟨tx, s', hs'⟩
    have hpos : ∀ e ∈ req.entries, 0 < e.amount :=
      hconditions (∀ e ∈ req.entries, 0 < e.amount, .invalidAmount) (by simp [conditions])
    rw [(hok tx s' hs').2.2 a acct hacct]
    exact congrArg Except.ok ((heffect hpos acct.type a _).mpr (hfaithful hconditions a acct hacct))

/-- The posting of `undeclaredPayment` goes through, and takes 100 from Alice, whom its
credit of 100 is for. -/
theorem undeclared_subtracted :
    ¬∀ (steps : List (Time × Op ℤ)) σ now req, (reached steps : Book ℤ).MeetsSpec σ now req := by
  intro h
  let chart := undeclaredPayment.take 4
  let req : PostTransactionRequest ℤ :=
    { entries := [{ accountID := ⟨"acct_5"⟩, amount := 100, direction := .debit },
        { accountID := ⟨"acct_7"⟩, amount := 100, direction := .other 7 }] }
  let σ : MapOrder AccountID ℤ := ⟨fun m => m.pairs.toList, fun m => Multiset.coe_toList m.pairs⟩
  have halice : (reached chart).accounts.lookup ⟨"acct_7"⟩
      = some ⟨⟨"acct_7"⟩, ⟨"sub_3"⟩, "Alice", .liability, ⟨1, 0⟩⟩ := by
    decide +kernel
  have hcounter : (exec (⟨1, 0⟩, .postTransaction req) (reached chart)).idCounter
      ≠ (reached chart).idCounter := by
    decide +kernel
  have hbalance : (exec (⟨1, 0⟩, .postTransaction req) (reached chart)).bookBalance ⟨"acct_7"⟩
      ≠ .ok ((reached chart).balance ⟨"acct_7"⟩ + totalOn ⟨"acct_7"⟩ .credit req.entries
        - totalOn ⟨"acct_7"⟩ .debit req.entries) := by
    decide +kernel
  rw [exec, call, Call.final_discard] at hcounter hbalance
  cases heq : postTransaction ⟨1, 0⟩ req (reached chart) with
  | error e s' =>
    rw [Call.final_of_error heq, (postTransaction_eq_error heq).1] at hcounter
    exact hcounter rfl
  | ok tx s' =>
    rw [Call.final_of_ok heq] at hbalance
    have hin := (postTransactionIn_eq σ ⟨1, 0⟩ req (reached chart)).trans heq
    exact hbalance ((h chart σ ⟨1, 0⟩ req).balances tx s' hin ⟨"acct_7"⟩ _ halice)

end Book

end CoreBanking.Ledger
