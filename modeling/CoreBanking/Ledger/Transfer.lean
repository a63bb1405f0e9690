import CoreBanking.Ledger.Invariant

/-!
# Two-legged postings, and books that only grow

Everything the layers above post is a transfer between two accounts.

- `effect_transfer_credit` / `effect_transfer_debit`: what a transfer does to a
  balance;
- `Accepts.transfer`: when a transfer is accepted;
- `Book.Extends`: a later book that keeps all accounts and transactions of an
  earlier one, as all operations but a reversal leave it.
-/

namespace CoreBanking.Ledger

section Effects

variable {Amount : Type} [AddCommGroup Amount]

/-! ## Effects -/

@[simp] theorem effect_transfer_credit (a debit credit : AccountID)
    (amount : Amount) :
    effect .credit a (transfer debit credit amount)
      = (if a = credit then amount else 0) - (if a = debit then amount else 0) := by
  simp only [eq_comm (a := a)]
  by_cases hc : credit = a <;> by_cases hd : debit = a <;>
    simp [transfer, Entry.effect, hc, hd]

@[simp] theorem effect_transfer_debit (a debit credit : AccountID)
    (amount : Amount) :
    effect .debit a (transfer debit credit amount)
      = (if a = debit then amount else 0) - (if a = credit then amount else 0) := by
  simp only [eq_comm (a := a)]
  by_cases hc : credit = a <;> by_cases hd : debit = a <;>
    simp [transfer, Entry.effect, hc, hd]

omit [AddCommGroup Amount] in
/-- Its directions are the two constants. -/
theorem declared_transfer (debit credit : AccountID) (amount : Amount) :
    ∀ e ∈ transfer debit credit amount, e.direction.Declared := by
  simp [transfer, Direction.Declared]

theorem balanced_transfer (debit credit : AccountID) (amount : Amount) :
    DoubleEntry.Balanced (legs (transfer debit credit amount)) := by
  simp [DoubleEntry.Balanced, transfer, legs, Entry.leg]

/-- Positive entries that only credit an account do not lower its credit balance. -/
theorem effect_credit_nonneg [LinearOrder Amount] [IsOrderedAddMonoid Amount]
    {a : AccountID} {entries : List (Entry Amount)}
    (hpos : ∀ e ∈ entries, 0 < e.amount)
    (hcredit : ∀ e ∈ entries, e.accountID = a → e.direction = .credit) :
    0 ≤ effect .credit a entries := by
  refine List.sum_nonneg fun x hx => ?_
  obtain ⟨e, he, rfl⟩ := List.mem_map.mp hx
  rw [Entry.effect]
  by_cases ha : e.accountID = a
  · simp [ha, hcredit e he ha, (hpos e he).le]
  · simp [ha]

end Effects

namespace Book

/-! ## Acceptance -/

section Accepts

variable {Amount : Type} [AddCommGroup Amount] [LinearOrder Amount]
  {s : Book Amount}

/-- Entries on accounts that are neither Asset nor Expense pass the balance
check. -/
theorem Sufficient.of_types {entries : List (Entry Amount)}
    (h : ∀ e ∈ entries, ∀ acct, s.accounts.lookup e.accountID = some acct →
      ¬(acct.type = .asset ∨ acct.type = .expense)) : s.Sufficient entries := by
  intro a acct hacct htype hneg
  rw [effect_eq_zero fun e he heq => h e he acct (heq ▸ hacct) htype] at hneg
  exact absurd hneg (lt_irrefl _)

section Request

variable {req : PostTransactionRequest Amount} {debit credit : AccountID}
  {amount : Amount}

/-- A transfer is accepted if it passes the checks that depend on the book. -/
theorem Accepts.transfer (hentries : req.entries = transfer debit credit amount)
    (hpos : 0 < amount) (hdebit : debit ∈ s.accounts) (hcredit : credit ∈ s.accounts)
    (hkey : req.idempotencyKey = "" ∨
      s.idempotencyIndex.lookup req.idempotencyKey = none)
    (hsuff : s.Sufficient (transfer debit credit amount)) : s.Accepts req where
  nonempty := by simp [hentries, Ledger.transfer]
  positive := by simp [hentries, Ledger.transfer, hpos]
  accounts := by
    simp [hentries, Ledger.transfer, Finmap.lookup_isSome, hdebit, hcredit]
  key := hkey
  balanced := by
    rw [hentries, validateBalance_iff]
    exact balanced_transfer debit credit amount
  sufficient := by rwa [hentries]

/-- Between existing accounts, a transfer is refused as a duplicate or for want
of balance. -/
theorem postTransaction_transfer (hentries : req.entries = transfer debit credit amount)
    (hpos : 0 < amount) (hdebit : debit ∈ s.accounts) (hcredit : credit ∈ s.accounts)
    (now : Time) :
    (¬(req.idempotencyKey = "" ∨ s.idempotencyIndex.lookup req.idempotencyKey = none) →
      postTransaction now req s = .error .duplicateIdempotencyKey s) ∧
    (req.idempotencyKey = "" ∨ s.idempotencyIndex.lookup req.idempotencyKey = none →
      ¬s.Sufficient (transfer debit credit amount) →
        postTransaction now req s = .error .insufficientBalance s) := by
  have hnonempty : req.entries ≠ [] := by simp [hentries, Ledger.transfer]
  have hpositive : ∀ e ∈ req.entries, 0 < e.amount := by
    simp [hentries, Ledger.transfer, hpos]
  have haccounts : ∀ e ∈ req.entries, (s.accounts.lookup e.accountID).isSome := by
    simp [hentries, Ledger.transfer, Finmap.lookup_isSome, hdebit, hcredit]
  constructor
  · intro hkey
    exact postTransaction_duplicate hnonempty hpositive haccounts hkey now
  · intro hkey hshort
    have hbalanced : ValidateBalance req.entries := by
      rw [hentries, validateBalance_iff]
      exact balanced_transfer debit credit amount
    rw [← hentries] at hshort
    exact postTransaction_insufficient hnonempty hpositive haccounts hkey hbalanced
      hshort now

end Request

/-- A transfer that credits a Liability account passes the balance check. -/
theorem Sufficient.transfer {debit credit : AccountID} {amount : Amount}
    (hpos : 0 < amount) {acct : Account}
    (hcredit : s.accounts.lookup credit = some acct)
    (htype : acct.type = .liability) : s.Sufficient (transfer debit credit amount) := by
  intro a acct' hacct' htype' hneg
  have hne : a ≠ credit := by
    rintro rfl
    rw [hcredit] at hacct'
    cases hacct'
    rw [htype] at htype'
    rcases htype' with h | h <;> cases h
  have hnormal : acct'.type.normalBalance = .debit := by
    rcases htype' with h | h <;> rw [h] <;> rfl
  rw [hnormal, effect_transfer_debit, if_neg hne, sub_zero] at hneg
  exfalso
  split at hneg
  · exact lt_asymm hpos hneg
  · exact lt_irrefl _ hneg

end Accepts

/-! ## Growth -/

section Growth

variable {Amount : Type}

/-- The later book has all accounts and transactions of the earlier one. -/
structure Extends (s s' : Book Amount) : Prop where
  accounts : ∀ a acct, s.accounts.lookup a = some acct →
    s'.accounts.lookup a = some acct
  transactions : ∀ k t, s.transactions.lookup k = some t →
    s'.transactions.lookup k = some t

namespace Extends

theorem addAccount {s : Book Amount} {now : Time} {acct : Account}
    (hfresh : s.accounts.lookup acct.id = none) :
    s.Extends (s.addAccount now acct) where
  accounts _ _ h := (Finmap.lookup_insert_fresh hfresh).mpr (.inr h)
  transactions _ _ h := h

end Extends

variable [AddCommGroup Amount] [LinearOrder Amount]

/-- Two stored transactions do not share a key. -/
theorem WF.key_unique {s : Book Amount} (h : s.WF) {k k' : TransactionID}
    {t t' : Transaction Amount} (hk : s.transactions.lookup k = some t)
    (hk' : s.transactions.lookup k' = some t')
    (hkey : t.idempotencyKey = t'.idempotencyKey) (hne : t.idempotencyKey ≠ "") :
    k = k' := by
  have h1 := (h.index t.idempotencyKey k).mpr ⟨hne, t, hk, rfl⟩
  have h2 := (h.index t.idempotencyKey k').mpr ⟨hne, t', hk', hkey.symm⟩
  rw [h1] at h2
  cases h2
  rfl

end Growth

end Book

end CoreBanking.Ledger
