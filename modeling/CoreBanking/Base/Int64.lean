import Mathlib.Algebra.Group.Hom.Defs
import Mathlib.Algebra.Ring.Int.Defs
import Mathlib.Order.Defs.LinearOrder

/-!
# Signed 64-bit integers as an ordered type with a group structure

Wrapping 64-bit addition is an additive group, and the signed order is linear;
the two are not compatible, which is what overflow is. The exact integers that
wrap to zero are the multiples of `2 ^ 64` (`ofInt_eq_zero_iff`).

`wrap` computes in integers first and wraps at the end. As it is a homomorphism,
that is the same as wrapping at each step, so a formula of any length needs one
bound, on its exact value (`wrap_nonneg_iff`).
-/

namespace CoreBanking

instance instAddCommGroupInt64 : AddCommGroup Int64 where
  add_assoc := Int64.add_assoc
  zero_add := Int64.zero_add
  add_zero := Int64.add_zero
  nsmul := nsmulRec
  sub_eq_add_neg := Int64.sub_eq_add_neg
  zsmul := zsmulRec
  neg_add_cancel := Int64.add_left_neg
  add_comm := Int64.add_comm

instance instLinearOrderInt64 : LinearOrder Int64 where
  le_refl := Int64.le_refl
  le_trans _ _ _ := Int64.le_trans
  lt_iff_le_not_ge a b := by
    rw [Int64.not_le, Int64.lt_iff_toInt_lt, Int64.le_iff_toInt_le]
    omega
  le_antisymm _ _ := Int64.le_antisymm
  le_total := Int64.le_total
  toDecidableLE := inferInstance
  toDecidableEq := inferInstance
  toDecidableLT := inferInstance

/-- An exact integer wraps to zero exactly if it is a multiple of `2 ^ 64`. -/
theorem ofInt_eq_zero_iff {z : Int} :
    Int64.ofInt z = 0 ↔ (2 ^ 64 : Int) ∣ z := by
  rw [Int64.ofInt_eq_iff_bmod_eq_toInt, Int64.toInt_zero]
  exact Int.dvd_iff_bmod_eq_zero.symm

/-- Wrapping, as a homomorphism from the exact integers. -/
def wrap : ℤ →+ Int64 where
  toFun := Int64.ofInt
  map_zero' := rfl
  map_add' := Int64.ofInt_add

@[simp] theorem wrap_toInt (x : Int64) : wrap x.toInt = x := Int64.ofInt_toInt x

/-- The exact integer is the value of a signed 64-bit integer. -/
def Fits (z : ℤ) : Prop := -2 ^ 63 ≤ z ∧ z < 2 ^ 63

instance (z : ℤ) : Decidable (Fits z) := inferInstanceAs (Decidable (_ ∧ _))

theorem fits_toInt (x : Int64) : Fits x.toInt := ⟨x.le_toInt, x.toInt_lt⟩

/-- A wrapped integer is not negative if its residue is in the lower half. -/
theorem wrap_nonneg_iff {z : ℤ} : 0 ≤ wrap z ↔ z % 2 ^ 64 < 2 ^ 63 := by
  have hval : (wrap z).toInt = z.bmod (2 ^ 64) := Int64.toInt_ofInt
  rw [Int64.le_iff_toInt_le, Int64.toInt_zero, hval, Int.bmod_def]
  split <;> omega

end CoreBanking
