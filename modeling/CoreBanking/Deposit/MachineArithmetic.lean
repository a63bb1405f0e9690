import CoreBanking.Deposit.Available
import CoreBanking.Ledger.MachineArithmetic

/-!
# Funds checks under 64-bit arithmetic

`CheckWithdrawal` and `CreateHold` compute book balance, minus holds, plus
overdraft limit, minus amount, and refuse if the result is negative. `OpenAccount`
takes any `int64` as the limit.

- `exactLeft`: the formula in exact integers;
- `wrap_exactLeft`: what the code computes is the exact value, wrapped, whichever
  of the three operations overflow;
- `funds_check_iff`: where balance and holds fit, both checks decide correctly
  exactly if the exact value stays out of three ranges (`Undisturbed`);
- `overdraft_refused`: a limit of `2 ^ 63 - 1` refuses a withdrawal that the
  balance alone covers.
-/

namespace CoreBanking.Deposit

open Ledger (Book newBook)

/-- The hold with its amount as an exact integer. -/
def Hold.exact (h : Hold Int64) : Hold ℤ where
  id := h.id
  accountID := h.accountID
  amount := h.amount.toInt
  expiresAt := h.expiresAt
  description := h.description
  status := h.status
  createdAt := h.createdAt

theorem Hold.wrap_exact_reserved (h : Hold Int64) (now : Time) :
    wrap (h.exact.reserved now) = h.reserved now := by
  by_cases hkeeps : h.status = .active ∧ ¬h.Expired now
  · have hexact : h.exact.status = .active ∧ ¬h.exact.Expired now := hkeeps
    rw [Hold.reserved, if_pos hexact, Hold.reserved, if_pos hkeeps]
    exact wrap_toInt h.amount
  · have hexact : ¬(h.exact.status = .active ∧ ¬h.exact.Expired now) := hkeeps
    rw [Hold.reserved, if_neg hexact, Hold.reserved, if_neg hkeeps]
    exact map_zero wrap

theorem Hold.exact_pos {h : Hold Int64} (hpos : 0 < h.amount) : 0 < h.exact.amount := by
  have hlt : (0 : Int64).toInt < h.amount.toInt := Int64.lt_iff_toInt_lt.mp hpos
  rwa [Int64.toInt_zero] at hlt

/-- Where the sign of an exact value survives wrapping, for the values the
formula can have: it fits, or it is too low by one to one and a half turns. -/
def Undisturbed (z : ℤ) : Prop := Fits z ∨ (-3 * 2 ^ 63 ≤ z ∧ z < -2 ^ 64)

instance (z : ℤ) : Decidable (Undisturbed z) := inferInstanceAs (Decidable (_ ∨ _))

/-- Two summands in each direction leave two turns at most. -/
theorem undisturbed_iff {z : ℤ} (hlow : -2 ^ 65 ≤ z) (hhigh : z < 2 ^ 64) :
    (0 ≤ wrap z ↔ 0 ≤ z) ↔ Undisturbed z := by
  rw [wrap_nonneg_iff]
  unfold Undisturbed Fits
  omega

namespace Register

/-- What the holds of an account reserve, summed in exact integers. -/
def exactReserved (r : Register Int64) (now : Time) (id : AccountID) : ℤ :=
  r.holds.sum fun _ h => if h.accountID = id then h.exact.reserved now else 0

theorem wrap_exactReserved (r : Register Int64) (now : Time) (id : AccountID) :
    wrap (r.exactReserved now id) = r.reserved now id := by
  rw [exactReserved, Finmap.map_sum, reserved]
  refine Finmap.sum_congr fun k h _ => ?_
  by_cases hid : h.accountID = id
  · rw [if_pos hid, if_pos hid, h.wrap_exact_reserved]
  · rw [if_neg hid, if_neg hid, map_zero]

theorem WF.exactReserved_nonneg {r : Register Int64} (hwf : r.WF) (now : Time)
    (id : AccountID) : 0 ≤ r.exactReserved now id := by
  have hsum : (r.holds.sum fun _ _ => (0 : ℤ)) ≤ r.exactReserved now id := by
    refine Finmap.sum_le_sum fun k h hk => ?_
    split
    · exact Hold.reserved_nonneg (Hold.exact_pos (hwf.positive k h hk)) now
    · exact le_rfl
  rwa [Finmap.sum_eq_zero fun _ _ _ => rfl] at hsum

/-- What an amount would leave of the available balance, in exact integers. -/
def exactLeft (r : Register Int64) (now : Time) (a : Account Int64) (amount : Int64) : ℤ :=
  r.book.exactBalance a.glAccount - r.exactReserved now a.id + a.overdraftLimit.toInt
    - amount.toInt

/-- The code computes the exact value, wrapped. -/
theorem wrap_exactLeft (r : Register Int64) (now : Time) (a : Account Int64)
    (amount : Int64) :
    wrap (r.exactLeft now a amount) = r.availableOf now a - amount := by
  rw [exactLeft, map_sub, map_add, map_sub, Book.wrap_exactBalance, wrap_exactReserved,
    wrap_toInt, wrap_toInt, availableOf]

/-- Both funds checks let an amount through exactly if it is covered. -/
def ChecksFunds (r : Register Int64) (now : Time) (id : AccountID) (a : Account Int64)
    (amount : Int64) : Prop :=
  let covered := amount.toInt ≤ r.book.exactBalance a.glAccount
    - r.exactReserved now a.id + a.overdraftLimit.toInt
  (r.checkWithdrawal now id amount = .ok () ↔ covered) ∧
    ∀ req, req.accountID = id → req.amount = amount →
      ((∃ hd r', createHold now req r = .ok hd r') ↔ covered)

section Checks

variable {r : Register Int64} {now : Time} {id : AccountID} {a : Account Int64}
  {amount : Int64}

/-- Both checks look at the sign of the wrapped value. -/
theorem WF.checksFunds_iff (h : r.WF) (hi : r.Indexed) (ha : r.accounts.lookup id = some a)
    (hactive : a.status = .active) (hpos : 0 < amount) :
    r.ChecksFunds now id a amount ↔
      (0 ≤ wrap (r.exactLeft now a amount) ↔ 0 ≤ r.exactLeft now a amount) := by
  have hcovered : amount.toInt ≤ r.book.exactBalance a.glAccount
        - r.exactReserved now a.id + a.overdraftLimit.toInt
      ↔ 0 ≤ r.exactLeft now a amount := by
    unfold exactLeft
    omega
  rw [wrap_exactLeft]
  unfold ChecksFunds
  simp only [hcovered]
  constructor
  · rintro ⟨hcheck, -⟩
    rw [← hcheck, h.checkWithdrawal_iff_left hi ha]
    exact ⟨fun hleft => ⟨hactive, hleft⟩, And.right⟩
  · intro hsign
    constructor
    · rw [h.checkWithdrawal_iff_left hi ha, ← hsign]
      exact ⟨And.right, fun hleft => ⟨hactive, hleft⟩⟩
    · rintro req rfl rfl
      rw [h.createHold_iff_left hi ha hpos, ← hsign]
      exact ⟨And.right, fun hleft => ⟨hactive, hleft⟩⟩

/-- The range of the exact value. -/
theorem WF.exactLeft_range (h : r.WF) (hbook : Fits (r.book.exactBalance a.glAccount))
    (hholds : Fits (r.exactReserved now a.id)) (hpos : 0 < amount) :
    -2 ^ 65 ≤ r.exactLeft now a amount ∧ r.exactLeft now a amount < 2 ^ 64 := by
  have hnonneg := h.exactReserved_nonneg now a.id
  have hlimit := fits_toInt a.overdraftLimit
  have hamount := fits_toInt amount
  have hpos' : (0 : Int64).toInt < amount.toInt := Int64.lt_iff_toInt_lt.mp hpos
  rw [Int64.toInt_zero] at hpos'
  unfold Fits at hbook hholds hlimit hamount
  unfold exactLeft
  omega

end Checks

/-- **The funds checks are exact** for an active account whose balance and holds
fit, in every state that a run reaches, exactly if the exact value of the formula
fits as well or is too low by one to one and a half turns. -/
theorem funds_check_iff (steps : List (Time × Step Int64)) (now : Time) (id : AccountID)
    (a : Account Int64) (ha : (reached steps).accounts.lookup id = some a)
    (hactive : a.status = .active)
    (hbook : Fits ((reached steps).book.exactBalance a.glAccount))
    (hholds : Fits ((reached steps).exactReserved now a.id))
    (amount : Int64) (hpos : 0 < amount) :
    (reached steps).ChecksFunds now id a amount ↔
      Undisturbed ((reached steps).exactLeft now a amount) := by
  have h : (reached steps).WF := wf_reached steps
  obtain ⟨hlow, hhigh⟩ := h.exactLeft_range hbook hholds hpos
  rw [h.checksFunds_iff (indexed_reached steps) ha hactive hpos, undisturbed_iff hlow hhigh]

/-- An account without a bound on its overdraft, with some money on it. -/
def limitlessRun : List (Time × Step Int64) :=
  [.ledger (.createLedger "General Ledger"),
    .ledger (.createSubledger ⟨"ldg_1"⟩ "Main"),
    .ledger (.createAccount ⟨"sub_3"⟩ "Cash" .asset),
    .register (.openAccount ⟨"sub_3"⟩ "Alice" 9223372036854775807),
    .ledger (.postTransaction
      { entries := Ledger.transfer ⟨"acct_5"⟩ ⟨"acct_7"⟩ 100 })].map
    fun step => (⟨1, 0⟩, step)

/-- The account of that run. -/
def limitless : Account Int64 :=
  ⟨⟨"dep_1"⟩, ⟨"acct_7"⟩, "Alice", .active, 9223372036854775807, ⟨1, 0⟩⟩

theorem limitless_stored :
    (reached limitlessRun).accounts.lookup ⟨"dep_1"⟩ = some limitless := by
  decide +kernel

/-- All of the balance, and no more of the limit than fits. -/
theorem funds_check_limitless :
    (reached limitlessRun).ChecksFunds ⟨2, 0⟩ ⟨"dep_1"⟩ limitless 100 :=
  (funds_check_iff limitlessRun ⟨2, 0⟩ ⟨"dep_1"⟩ limitless limitless_stored rfl
    (by decide +kernel) (by decide +kernel) 100 (by decide)).mpr (by decide +kernel)

/-- Ten of the hundred on the account are refused. -/
theorem overdraft_refused : ¬∀ (steps : List (Time × Step Int64)) (now : Time)
    (id : AccountID) (a : Account Int64), (reached steps).accounts.lookup id = some a →
    a.status = .active → Fits ((reached steps).book.exactBalance a.glAccount) →
    Fits ((reached steps).exactReserved now a.id) →
    ∀ amount : Int64, 0 < amount → (reached steps).ChecksFunds now id a amount := by
  intro h
  have hok := (h limitlessRun ⟨2, 0⟩ ⟨"dep_1"⟩ limitless limitless_stored rfl
    (by decide +kernel) (by decide +kernel) 10 (by decide)).1.mpr (by decide +kernel)
  have hrefused : (reached limitlessRun).checkWithdrawal ⟨2, 0⟩ ⟨"dep_1"⟩ 10
      = .error .insufficientAvailable := by
    decide +kernel
  rw [hrefused] at hok
  cases hok

end Register

end CoreBanking.Deposit
