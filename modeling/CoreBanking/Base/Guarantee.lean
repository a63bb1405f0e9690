import CoreBanking.Base.Call
import Mathlib.Data.List.Basic

/-!
# What a call guarantees

A call that stops half way leaves the writes it has made. `Call.Guarantees` says what is
known then: the state is in `I`, and if the call failed, its error is in `E`. If it
returned, its result and the state are in `Q` besides. So `I` is what holds wherever a call
may stop, such as being reached from the state before by certain writes.

There is a rule for each way of building a call: `Guarantees.bind` for a sequence,
`Guarantees.require`, `.orThrow` and `.ofExcept` for guards and lookups, `.read` and
`.write` for the state, `.zoom` for a call on a component, `.forM` and `.foldlM` for loops.
-/

namespace CoreBanking.Call

variable {σ τ ε ε' α β ι : Type}

/-- From `s` the call ends in `I`, whatever its outcome; it returns in `Q`, or fails with
an error in `E`. -/
def Guarantees (I : σ → Prop) (E : ε → Prop) (x : Call σ ε α) (s : σ)
    (Q : α → σ → Prop) : Prop :=
  match x s with
  | .ok a s' => I s' ∧ Q a s'
  | .error e s' => I s' ∧ E e

namespace Guarantees

variable {I : σ → Prop} {E : ε → Prop} {x : Call σ ε α} {s : σ} {P : α → σ → Prop}
  {f : α → Call σ ε β} {Q : β → σ → Prop}

theorem of_ok {a : α} {s' : σ} (h : x s = .ok a s') (hI : I s') (hP : P a s') :
    Guarantees I E x s P := by
  unfold Guarantees
  rw [h]
  exact ⟨hI, hP⟩

theorem of_error {e : ε} {s' : σ} (h : x s = .error e s') (hI : I s') (hE : E e) :
    Guarantees I E x s P := by
  unfold Guarantees
  rw [h]
  exact ⟨hI, hE⟩

theorem ok (hx : Guarantees I E x s P) {a : α} {s' : σ} (h : x s = .ok a s') :
    I s' ∧ P a s' := by
  unfold Guarantees at hx
  rw [h] at hx
  exact hx

theorem error (hx : Guarantees I E x s P) {e : ε} {s' : σ} (h : x s = .error e s') :
    I s' ∧ E e := by
  unfold Guarantees at hx
  rw [h] at hx
  exact hx

/-- The state it leaves, whatever its outcome. -/
theorem final (hx : Guarantees I E x s P) : I (x.final s) := by
  cases h : x s with
  | ok a s' =>
    rw [final_of_ok h]
    exact (hx.ok h).1
  | error e s' =>
    rw [final_of_error h]
    exact (hx.error h).1

/-- The error, if it fails. -/
theorem failure (hx : Guarantees I E x s P) {e : ε} (h : Call.failure (x s) = some e) :
    E e :=
  (hx.error (eq_error_of_failure h)).2

theorem mono (hx : Guarantees I E x s P) {I' : σ → Prop} {P' : α → σ → Prop}
    (hI : ∀ s', I s' → I' s') (hP : ∀ a s', I s' → P a s' → P' a s') :
    Guarantees I' E x s P' := by
  cases h : x s with
  | ok a s' =>
    obtain ⟨hend, ha⟩ := hx.ok h
    exact of_ok h (hI s' hend) (hP a s' hend ha)
  | error e s' =>
    obtain ⟨hend, he⟩ := hx.error h
    exact of_error h (hI s' hend) he

/-- Nothing but the state it leaves. -/
theorem of_final (hI : I (x.final s)) :
    Guarantees I (fun _ => True) x s fun _ s' => s' = x.final s := by
  cases h : x s with
  | ok a s' =>
    rw [final_of_ok h] at hI
    exact of_ok h hI (final_of_ok h).symm
  | error e s' =>
    rw [final_of_error h] at hI
    exact of_error h hI trivial

/-- What is known of a call that is made for its effect is known of it when its result is
used. -/
theorem of_discard {y : Call σ ε Unit} (hy : y = x.discard)
    (hE : ∀ e, Call.failure (y s) = some e → E e) :
    Guarantees (fun s' => s' = y.final s) E x s fun a s' => x s = .ok a s' := by
  subst hy
  cases h : x s with
  | ok a s' => exact of_ok h (by rw [final_discard, final_of_ok h]) rfl
  | error e s' =>
    refine of_error h (by rw [final_discard, final_of_error h]) (hE e ?_)
    rw [failure_discard, h, failure_error]

/-! ## Sequences -/

theorem pure {a : α} (hI : I s) (hP : P a s) : Guarantees I E (Pure.pure a) s P :=
  of_ok rfl hI hP

theorem bind (hx : Guarantees I E x s P)
    (hf : ∀ a s', I s' → P a s' → Guarantees I E (f a) s' Q) :
    Guarantees I E (x >>= f) s Q := by
  cases h : x s with
  | ok a s' =>
    obtain ⟨hI, ha⟩ := hx.ok h
    unfold Guarantees
    rw [bind_of_ok h]
    exact hf a s' hI ha
  | error e s' =>
    obtain ⟨hI, he⟩ := hx.error h
    exact of_error (bind_of_error h f) hI he

theorem discard (hx : Guarantees I E x s P) : Guarantees I E x.discard s fun _ _ => True :=
  hx.bind fun _ _ hI _ => pure hI trivial

theorem read {f : σ → Call σ ε β} (hf : Guarantees I E (f s) s Q) :
    Guarantees I E (get >>= f) s Q := hf

theorem write {g : σ → σ} {f : PUnit → Call σ ε β} (hf : Guarantees I E (f ⟨⟩) (g s) Q) :
    Guarantees I E (modify g >>= f) s Q := hf

/-! ## Guards and lookups -/

theorem require {p : Prop} [Decidable p] {e : ε} {f : Unit → Call σ ε β}
    (hfail : ¬p → I s ∧ E e) (hf : p → Guarantees I E (f ()) s Q) :
    Guarantees I E (CoreBanking.require p e >>= f) s Q := by
  by_cases hp : p
  · unfold Guarantees
    rw [require_bind_of hp]
    exact hf hp
  · obtain ⟨hI, hE⟩ := hfail hp
    exact of_error (require_bind_of_not hp e f s) hI hE

theorem orThrow {o : Option α} {e : ε} (hfail : o = none → I s ∧ E e)
    (hf : ∀ a, o = some a → Guarantees I E (f a) s Q) :
    Guarantees I E (CoreBanking.orThrow o e >>= f) s Q := by
  cases ho : o with
  | none =>
    obtain ⟨hI, hE⟩ := hfail ho
    exact of_error (orThrow_none_bind e f s) hI hE
  | some a => exact hf a ho

theorem ofExcept {y : Except ε α} (hfail : ∀ e, y = .error e → I s ∧ E e)
    (hf : ∀ a, y = .ok a → Guarantees I E (f a) s Q) :
    Guarantees I E (Call.ofExcept y >>= f) s Q := by
  cases hy : y with
  | error e =>
    obtain ⟨hI, hE⟩ := hfail e hy
    exact of_error rfl hI hE
  | ok a => exact hf a hy

/-- The lookup that comes last. -/
theorem lookup {o : Option α} {e : ε} (hI : I s) (hfail : o = none → E e)
    (hP : ∀ a, o = some a → P a s) : Guarantees I E (CoreBanking.orThrow o e) s P := by
  cases o with
  | none => exact of_error rfl hI (hfail rfl)
  | some a => exact of_ok rfl hI (hP a rfl)

theorem reading {g : σ → Except ε α} (hI : I s) (hfail : ∀ e, g s = .error e → E e)
    (hP : ∀ a, g s = .ok a → P a s) : Guarantees I E (Call.reading g) s P := by
  refine read ?_
  cases hg : g s with
  | error e => exact of_error rfl hI (hfail e hg)
  | ok a => exact of_ok rfl hI (hP a hg)

/-! ## Loops -/

theorem foldlM {J : β → σ → Prop} {f : β → ι → Call σ ε β} {is : List ι} {b : β} (hI : I s)
    (hJ : J b s) (hf : ∀ b i s', i ∈ is → I s' → J b s' → Guarantees I E (f b i) s' J) :
    Guarantees I E (is.foldlM f b) s J := by
  induction is generalizing b s with
  | nil => exact pure hI hJ
  | cons i is ih =>
    rw [List.foldlM_cons]
    refine bind (hf b i s List.mem_cons_self hI hJ) fun b' s' hI' hJ' => ?_
    exact ih hI' hJ' fun b'' j s'' hj => hf b'' j s'' (List.mem_cons_of_mem i hj)

theorem forM {f : ι → Call σ ε PUnit} {is : List ι} (hI : I s)
    (hf : ∀ i s', i ∈ is → I s' → Guarantees I E (f i) s' fun _ _ => True) :
    Guarantees I E (is.forM f) s fun _ _ => True := by
  induction is generalizing s with
  | nil => exact pure hI trivial
  | cons i is ih =>
    refine bind (hf i s List.mem_cons_self hI) fun _ s' hI' _ => ?_
    exact ih hI' fun j s'' hj => hf j s'' (List.mem_cons_of_mem i hj)

/-! ## Components -/

/-- A call on a component. -/
theorem zoom {J : τ → Prop} {F : ε' → Prop} {y : Call τ ε' α} {R : α → τ → Prop}
    {view : σ → τ} {put : τ → σ → σ} {wrap : ε' → ε} (hy : Guarantees J F y (view s) R)
    (hput : ∀ t, J t → I (put t s)) (hwrap : ∀ e, F e → E (wrap e)) :
    Guarantees I E (Call.zoom view put wrap y) s
      fun a s' => ∃ t, J t ∧ R a t ∧ s' = put t s := by
  cases h : y (view s) with
  | ok a t =>
    obtain ⟨hJ, ha⟩ := hy.ok h
    exact of_ok (zoom_of_ok h) (hput t hJ) ⟨t, hJ, ha, rfl⟩
  | error e t =>
    obtain ⟨hJ, he⟩ := hy.error h
    exact of_error (zoom_of_error h) (hput t hJ) (hwrap e he)

/-- A read of a component. -/
theorem zoom_reading {view : σ → τ} {put : τ → σ → σ} {wrap : ε' → ε} {g : τ → Except ε' α}
    (hI : I (put (view s) s)) (hfail : ∀ e, g (view s) = .error e → E (wrap e))
    (hP : ∀ a, g (view s) = .ok a → P a (put (view s) s)) :
    Guarantees I E (Call.zoom view put wrap (Call.reading g)) s P := by
  have hread : Guarantees (· = view s) (fun e => E (wrap e)) (Call.reading g) (view s)
      fun a _ => g (view s) = .ok a :=
    reading rfl hfail fun _ ha => ha
  refine (zoom hread ?_ fun _ he => he).mono (fun _ h => h) ?_
  · rintro _ rfl
    exact hI
  · rintro a s' - ⟨_, rfl, ha, rfl⟩
    exact hP a ha

end Guarantees

end CoreBanking.Call
