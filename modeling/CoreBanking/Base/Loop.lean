import CoreBanking.Base.Call
import CoreBanking.Base.Run
import Mathlib.Data.List.Basic

/-!
# Loops of calls

A `for` loop over a list whose body is a call that may fail: it stops at the
first failure. Where each iteration either performs a known update or fails
without effect, the loop performs the updates of a whole list, as a run, or
those before the failing element (`Call.forM_cases`).

The condition on an iteration may use an invariant `J` that is indexed by the
elements still to come, the one that it is about included.
-/

namespace CoreBanking

variable {σ ε ι : Type}

namespace Call

variable {f : ι → Call σ ε PUnit} {g : ι → σ → σ} {J : List ι → σ → Prop}
  {A : σ → ι → Prop} {B : σ → ι → ε → Prop}

/-- A loop performs the updates of all its elements, or of those before one at
which it fails; `A` is what is known of the iterations that succeed, and `B` of
the one that fails. -/
theorem forM_cases
    (hstep : ∀ i is s, J (i :: is) s →
      (A s i ∧ f i s = .ok ⟨⟩ (g i s) ∧ J is (g i s)) ∨
        ∃ e, B s i e ∧ f i s = .error e s)
    {is : List ι} {s : σ} (h : J is s) :
    (Along g A s is ∧ is.forM f s = .ok ⟨⟩ (run g s is)) ∨
      ∃ pre i post e, is = pre ++ i :: post ∧ Along g A s pre ∧
        B (run g s pre) i e ∧ is.forM f s = .error e (run g s pre) := by
  induction is generalizing s with
  | nil => exact .inl ⟨trivial, rfl⟩
  | cons i is ih =>
    rcases hstep i is s h with ⟨hA, hok, hJ⟩ | ⟨e, hB, herr⟩
    · have hbind : (i :: is).forM f s = is.forM f (g i s) := bind_of_ok hok _
      rcases ih hJ with ⟨halong, hall⟩ | ⟨pre, j, post, e, rfl, halong, hB, hall⟩
      · exact .inl ⟨⟨hA, halong⟩, hbind.trans hall⟩
      · exact .inr ⟨i :: pre, j, post, e, rfl, ⟨hA, halong⟩, hB, hbind.trans hall⟩
    · exact .inr ⟨[], i, is, e, rfl, trivial, hB, bind_of_error herr _⟩

/-- A loop whose iterations all succeed performs their updates. -/
theorem forM_of_ok
    (hstep : ∀ i is s, J (i :: is) s →
      A s i ∧ f i s = .ok ⟨⟩ (g i s) ∧ J is (g i s))
    {is : List ι} {s : σ} (h : J is s) :
    Along g A s is ∧ is.forM f s = .ok ⟨⟩ (run g s is) := by
  induction is generalizing s with
  | nil => exact ⟨trivial, rfl⟩
  | cons i is ih =>
    obtain ⟨hA, hok, hJ⟩ := hstep i is s h
    obtain ⟨halong, hall⟩ := ih hJ
    exact ⟨⟨hA, halong⟩, (bind_of_ok hok _).trans hall⟩

end Call

end CoreBanking
