import CoreBanking.Ledger.TrialBalance

/-!
# Asset and Expense accounts below zero

`PostTransaction` refuses entries that take an Asset or Expense account below
zero. `ReverseTransaction` makes no such check, so reversing a transaction
whose funds have been used since overdraws the account.

- `reversal_overdraws`: a run in which this happens;
- `solvent_iff_reversals_covered`: it is the only way to happen. All Asset and
  Expense balances stay at zero or above throughout a run exactly if every
  reversal in it would have passed the check of `PostTransaction`.
-/

namespace CoreBanking.Ledger.Book

/-! ## Solvency -/

section Solvent

variable {Amount : Type} [AddCommGroup Amount] [LinearOrder Amount]

/-- The account types whose balances the balance check looks at. -/
def HardDecline (ty : AccountType) : Prop := ty = .asset ∨ ty = .expense

/-- No Asset or Expense account is below zero. -/
def Solvent (s : Book Amount) : Prop :=
  ∀ a acct, s.accounts.lookup a = some acct → HardDecline acct.type →
    0 ≤ s.balance a

/-- If the step reverses a posted transaction, the counter-entries pass the
balance check that a posting is subject to. -/
def ReversalCovered (s : Book Amount) (step : Time × Op Amount) : Prop :=
  match step.2 with
  | .reverseTransaction txID _ =>
    ∀ original, s.transactions.lookup txID = some original →
      original.status ≠ .reversed →
      s.Sufficient (original.entries.map Entry.reversed)
  | _ => True

end Solvent

theorem solvent_newBook : (newBook ℤ).Solvent := by
  intro a acct h
  simp [newBook] at h

/-- Entries keep a solvent book solvent exactly if they pass the check. -/
theorem Solvent.iff_sufficient {s : Book ℤ} (hs : s.Solvent)
    (entries : List (Entry ℤ)) :
    s.Sufficient entries ↔
      ∀ a acct, s.accounts.lookup a = some acct → HardDecline acct.type →
        0 ≤ s.balance a + effect acct.type.normalBalance a entries := by
  refine forall₄_congr fun a acct hacct htype => ?_
  have hbal := hs a acct hacct htype
  rw [balance_of_lookup hacct] at hbal ⊢
  omega

section Steps

variable {s : Book ℤ}

/-- A new account starts at zero, and the others stay as they are. -/
theorem Solvent.addAccount (hs : s.Solvent) (h : s.WF) (now : Time)
    (subledgerID : SubledgerID) (name : String) (accountType : AccountType) :
    (s.addAccount now
      (s.newAccount now subledgerID name accountType)).Solvent := by
  intro a acct hacct htype
  rcases Finmap.lookup_insert_eq_some.mp hacct with ⟨rfl, rfl⟩ | ⟨-, hold⟩
  · have hfresh := h.accountIDs.fresh (n := s.idCounter + 1)
      (fun _ _ => AccountID.mk.inj) (Nat.lt_succ_self _)
    have hzero : (s.addAccount now (s.newAccount now subledgerID name
        accountType)).balance ⟨ident "acct" (s.idCounter + 1)⟩ = 0 :=
      h.balance_fresh hfresh rfl
    exact hzero.ge
  · rw [balance_congr hold hacct rfl]
    exact hs a acct hold htype

/-- An accepted posting keeps the book solvent. -/
theorem Solvent.record (hs : s.Solvent) (h : s.WF) {now : Time}
    {req : PostTransactionRequest ℤ} (hacc : s.Accepts req) :
    (s.record now (s.newTransaction now req)).Solvent := by
  intro a acct hacct htype
  have hlook : s.accounts.lookup a = some acct := hacct
  rw [h.balance_record hlook]
  exact (hs.iff_sufficient _).mp hacc.sufficient a acct hlook htype

/-- A reversal keeps the book solvent exactly if it passes the check. -/
theorem Solvent.recordReversal_iff (hs : s.Solvent) (h : s.WF) {now : Time}
    {txID : TransactionID} {original : Transaction ℤ} {description : String}
    (hstored : s.transactions.lookup txID = some original) :
    (s.recordReversal now txID original description).Solvent ↔
      s.Sufficient (original.entries.map Entry.reversed) := by
  rw [hs.iff_sufficient]
  refine forall₄_congr fun a acct hacct htype => ?_
  have hlook : s.accounts.lookup a = some acct := hacct
  rw [h.balance_recordReversal hlook now description hstored, effect_reversed,
    sub_eq_add_neg]

/-- A step keeps a solvent book solvent exactly if it is a covered reversal or
no reversal. -/
theorem Solvent.exec_iff (hs : s.Solvent) (h : s.WF) (step : Time × Op ℤ) :
    (exec step s).Solvent ↔ s.ReversalCovered step := by
  obtain ⟨now, op⟩ := step
  have hc := exec_change now op s
  generalize exec (now, op) s = s' at hc
  cases hc with
  | refused _ hrefuses =>
    refine iff_of_true hs ?_
    cases op with
    | reverseTransaction txID description =>
      exact fun original hstored hstatus => absurd (hrefuses original hstored) hstatus
    | _ => trivial
  | ledger name => exact iff_of_true hs trivial
  | subledger ledgerID name => exact iff_of_true hs trivial
  | account subledgerID name accountType =>
    exact iff_of_true (hs.addAccount h now subledgerID name accountType) trivial
  | post req hacc => exact iff_of_true (hs.record h hacc) trivial
  | reverse txID description original hstored hstatus =>
    rw [hs.recordReversal_iff h hstored]
    constructor
    · intro hsuff original' hstored' _
      cases hstored.symm.trans hstored'
      exact hsuff
    · intro hcov
      exact hcov original hstored hstatus

end Steps

/-- **Asset and Expense balances** stay at zero or above throughout a run
exactly if every reversal in it would have passed the balance check. -/
theorem solvent_iff_reversals_covered (steps : List (Time × Op ℤ)) :
    (∀ pre, pre <+: steps → (reached pre).Solvent) ↔
      Along exec ReversalCovered (newBook ℤ) steps := by
  let inv (s : Book ℤ) : Prop := s.WF ∧ s.Solvent
  have hstep : ∀ step s, inv s → (inv (exec step s) ↔ s.ReversalCovered step) := by
    intro step s hs
    rw [← hs.2.exec_iff hs.1 step]
    exact ⟨fun h => h.2, fun h => ⟨exec_wf step s hs.1, h⟩⟩
  rw [← along_iff_invariant hstep ⟨wf_newBook, solvent_newBook⟩ steps]
  refine forall₂_congr fun pre _ => ?_
  exact ⟨fun h => ⟨wf_reached pre, h⟩, fun h => h.2⟩

/-- Alice pays 100 in, draws it out again, and then the payment in is
reversed. -/
def reversedAfterUse : List (Time × Op ℤ) :=
  let cash : AccountID := ⟨"acct_5"⟩
  let alice : AccountID := ⟨"acct_7"⟩
  [.createLedger "General Ledger",
    .createSubledger ⟨"ldg_1"⟩ "Main",
    .createAccount ⟨"sub_3"⟩ "Cash" .asset,
    .createAccount ⟨"sub_3"⟩ "Alice" .liability,
    .postTransaction
      { entries := [{ accountID := cash, amount := 100, direction := .debit },
          { accountID := alice, amount := 100, direction := .credit }] },
    .postTransaction
      { entries := [{ accountID := alice, amount := 100, direction := .debit },
          { accountID := cash, amount := 100, direction := .credit }] },
    .reverseTransaction ⟨"tx_11"⟩ "undo"].map fun op => (⟨1, 0⟩, op)

/-- The cash account ends at -100. -/
theorem reversal_overdraws : ¬∀ steps, (reached steps : Book ℤ).Solvent := by
  intro h
  have hcash : (reached reversedAfterUse).accounts.lookup ⟨"acct_5"⟩
      = some ⟨⟨"acct_5"⟩, ⟨"sub_3"⟩, "Cash", .asset, ⟨1, 0⟩⟩ := by
    decide +kernel
  have hbal : (reached reversedAfterUse).balance ⟨"acct_5"⟩ = -100 := by
    decide +kernel
  have := h reversedAfterUse ⟨"acct_5"⟩ _ hcash (.inl rfl)
  omega

end CoreBanking.Ledger.Book
