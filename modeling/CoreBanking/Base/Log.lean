import CoreBanking.Base.Run
import Mathlib.Data.List.Basic

/-!
# Logs that are read through the state

A log that only grows holds references to a state, and its readers see what these lead
to at the time they read. `view` is the log as it is seen in a state. It only grows as
well exactly if no step of the run changes what the logged references lead to
(`view_grows_iff`).
-/

namespace CoreBanking.Log

variable {σ ι E V : Type}

/-- The log of a state, every entry as it reads in that state. -/
def view (log : σ → List E) (read : σ → E → V) (s : σ) : List V :=
  (log s).map (read s)

/-- A step fixes the log if the entries read the same after it. -/
def Fixes (exec : ι → σ → σ) (log : σ → List E) (read : σ → E → V) (s : σ) (i : ι) : Prop :=
  ∀ e ∈ log s, read (exec i s) e = read s e

variable {exec : ι → σ → σ} {log : σ → List E} {read : σ → E → V}

/-- After a step that appends to the log, the old view is a part of the new one exactly if
the step fixes the log. -/
theorem view_prefix_iff {s : σ} {i : ι} (happend : log s <+: log (exec i s)) :
    view log read s <+: view log read (exec i s) ↔ Fixes exec log read s i := by
  obtain ⟨es, hes⟩ := happend
  rw [view, view, ← hes, List.map_append]
  constructor
  · intro hpre
    have htake := List.prefix_iff_eq_take.mp hpre
    rw [List.take_left' (by rw [List.length_map, List.length_map])] at htake
    exact fun e he => (List.map_inj_left.mp htake e he).symm
  · intro hfix
    rw [List.map_congr_left hfix]
    exact List.prefix_append _ _

/-- The view of the log grows along a run exactly if every step of it fixes the log. -/
theorem view_grows_iff (happend : ∀ i s, log s <+: log (exec i s)) (s : σ) (is : List ι) :
    (∀ pre mid, pre ++ mid <+: is →
        view log read (run exec s pre) <+: view log read (run exec s (pre ++ mid))) ↔
      Along exec (Fixes exec log read) s is := by
  let grows (s t : σ) : Prop := view log read s <+: view log read t
  have hrefl : ∀ s, grows s s := fun _ => List.prefix_rfl
  have htrans : ∀ {s t u}, grows s t → grows t u → grows s u := fun h h' => h.trans h'
  have hany : ∀ (i : ι) (t : σ), True → True := fun _ _ h => h
  have hstep : ∀ i t, True → (grows t (exec i t) ↔ Fixes exec log read t i) :=
    fun i t _ => view_prefix_iff (happend i t)
  exact (along_iff_monotone hrefl htrans s is).trans (Along.congr hany hstep trivial is)

end CoreBanking.Log
