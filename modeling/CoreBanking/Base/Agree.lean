import CoreBanking.Base.Call
import CoreBanking.Base.Run

/-!
# Calls that agree

Two runs of one program from related states agree step by step: each call of one succeeds
if the call of the other does, with related results, and whatever happens the states that
they leave are related again.

- `Call.Agree`: two outcomes agree;
- `Agree.bind`, `Agree.require`, `Agree.orThrow`, `Agree.ofExcept`: two sequences of calls
  are compared one call at a time;
- `Agree.forM`, `Agree.foldlM`: so are two loops over the same list;
- `run_related`: and two runs.
-/

namespace CoreBanking

/-- Of two related values, both are missing or neither. -/
theorem rel_eq_none_iff {α β : Type} {P : α → β → Prop} {o : Option α} {o' : Option β}
    (h : Option.Rel P o o') : o = none ↔ o' = none := by
  cases h with
  | none => exact iff_of_true rfl rfl
  | some => exact iff_of_false (by simp) (by simp)

theorem rel_of_some {α β : Type} {P : α → β → Prop} {a : α} {o' : Option β}
    (h : Option.Rel P (some a) o') : ∃ b, o' = some b ∧ P a b := by
  cases h with
  | some hab => exact ⟨_, rfl, hab⟩

theorem rel_mono {α β : Type} {P Q : α → β → Prop} {o : Option α} {o' : Option β}
    (h : Option.Rel P o o') (hPQ : ∀ a b, P a b → Q a b) : Option.Rel Q o o' := by
  cases h with
  | none => exact .none
  | some hab => exact .some (hPQ _ _ hab)

namespace Call

variable {σ τ ε ε' α β γ δ ι : Type}

/-- Both calls have succeeded, with results and states related by `Q`, or both have failed,
in states related by `E`. -/
inductive Agree (E : σ → τ → Prop) (Q : α → σ → β → τ → Prop) :
    EStateM.Result ε σ α → EStateM.Result ε' τ β → Prop
  | ok {a : α} {s : σ} {b : β} {t : τ} (h : Q a s b t) : Agree E Q (.ok a s) (.ok b t)
  | error {e : ε} {s : σ} {e' : ε'} {t : τ} (h : E s t) :
      Agree E Q (.error e s) (.error e' t)

namespace Agree

variable {E : σ → τ → Prop} {Q Q' : α → σ → β → τ → Prop} {R : γ → σ → δ → τ → Prop}
  {s : σ} {t : τ}

/-! ## What agreement gives -/

section Outcomes

variable {r : EStateM.Result ε σ α} {r' : EStateM.Result ε' τ β}

theorem failure_iff (h : Agree E Q r r') : failure r = none ↔ failure r' = none := by
  cases h with
  | ok => exact iff_of_true rfl rfl
  | error => exact iff_of_false (by simp) (by simp)

theorem states (h : Agree E (fun _ s _ t => E s t) r r') : E (state r) (state r') := by
  cases h with
  | ok h => exact h
  | error h => exact h

theorem mono (h : Agree E Q r r') (hQ : ∀ a s b t, Q a s b t → Q' a s b t) :
    Agree E Q' r r' := by
  cases h with
  | ok h => exact .ok (hQ _ _ _ _ h)
  | error h => exact .error h

end Outcomes

/-! ## Sequences -/

section Sequences

variable {x : Call σ ε α} {y : Call τ ε' β} {f : α → Call σ ε γ} {g : β → Call τ ε' δ}

theorem bind (h : Agree E Q (x s) (y t))
    (hrest : ∀ a s' b t', x s = .ok a s' → Q a s' b t' → Agree E R (f a s') (g b t')) :
    Agree E R ((x >>= f) s) ((y >>= g) t) := by
  cases hx : x s with
  | ok a s' =>
    cases hy : y t with
    | ok b t' =>
      rw [hx, hy] at h
      rw [bind_of_ok hx, bind_of_ok hy]
      cases h with
      | ok hQ => exact hrest a s' b t' hx hQ
    | error e' t' =>
      rw [hx, hy] at h
      cases h
  | error e s' =>
    cases hy : y t with
    | ok b t' =>
      rw [hx, hy] at h
      cases h
    | error e' t' =>
      rw [hx, hy] at h
      rw [bind_of_error hx, bind_of_error hy]
      cases h with
      | error hE => exact .error hE

/-- Two calls that are made for their effects only. -/
theorem discard (h : Agree E Q (x s) (y t)) (hQ : ∀ a s b t, Q a s b t → E s t) :
    Agree E (fun _ s _ t => E s t) (x.discard s) (y.discard t) :=
  h.bind fun a s' b t' _ hab => .ok (hQ a s' b t' hab)

end Sequences

/-! ## Guards and lookups -/

section Guards

variable {f : Unit → Call σ ε γ} {g : Unit → Call τ ε' δ}

/-- Equivalent guards let both sides pass, or neither. -/
theorem require {p q : Prop} [Decidable p] [Decidable q] {e : ε} {e' : ε'} (hpq : p ↔ q)
    (hE : E s t) (hrest : p → Agree E R (f () s) (g () t)) :
    Agree E R ((CoreBanking.require p e >>= f) s) ((CoreBanking.require q e' >>= g) t) := by
  by_cases hp : p
  · rw [require_bind_of hp, require_bind_of (hpq.mp hp)]
    exact hrest hp
  · rw [require_bind_of_not hp, require_bind_of_not fun hq => hp (hpq.mpr hq)]
    exact .error hE

end Guards

section Lookups

variable {f : α → Call σ ε γ} {g : β → Call τ ε' δ}

/-- Two lookups that both miss, or find related values. -/
theorem orThrow {P : α → β → Prop} {o : Option α} {o' : Option β} {e : ε} {e' : ε'}
    (ho : Option.Rel P o o') (hE : E s t)
    (hrest : ∀ a b, o = some a → o' = some b → P a b → Agree E R (f a s) (g b t)) :
    Agree E R ((CoreBanking.orThrow o e >>= f) s) ((CoreBanking.orThrow o' e' >>= g) t) := by
  cases ho with
  | none => exact .error hE
  | some hab => exact hrest _ _ rfl rfl hab

end Lookups

section Reads

variable {f : α → Call σ ε γ} {g : α → Call τ ε δ}

/-- A lookup in a part that both states share. -/
theorem orThrow_same {o : Option α} {e : ε} (hE : E s t)
    (hrest : ∀ a, o = some a → Agree E R (f a s) (g a t)) :
    Agree E R ((CoreBanking.orThrow o e >>= f) s) ((CoreBanking.orThrow o e >>= g) t) := by
  cases o with
  | none => exact .error hE
  | some a => exact hrest a rfl

/-- Two reads with one outcome. -/
theorem ofExcept {x y : Except ε α} (hxy : x = y) (hE : E s t)
    (hrest : ∀ a, x = .ok a → Agree E R (f a s) (g a t)) :
    Agree E R ((Call.ofExcept x >>= f) s) ((Call.ofExcept y >>= g) t) := by
  subst hxy
  cases x with
  | error e => exact .error hE
  | ok a => exact hrest a rfl

end Reads

/-! ## Loops -/

/-- Two loops over one list, whose bodies keep a relation between the states. Each body
starts where the first loop has gone through the elements before. -/
theorem forM {f : ι → Call σ ε PUnit} {g : ι → Call τ ε' PUnit} {I : σ → τ → Prop}
    {is : List ι}
    (hbody : ∀ pre i post s' t', is = pre ++ i :: post → pre.forM f s = .ok ⟨⟩ s' →
      I s' t' → Agree E (fun _ s _ t => I s t) (f i s') (g i t'))
    (h : I s t) : Agree E (fun _ s _ t => I s t) (is.forM f s) (is.forM g t) := by
  induction is generalizing s t with
  | nil => exact .ok h
  | cons i is ih =>
    refine Agree.bind (hbody [] i is s t rfl rfl h) fun _ s₁ _ t₁ hok h₁ => ih ?_ h₁
    intro pre j post s' t' heq hpre
    exact hbody (i :: pre) j post s' t' (congrArg (i :: ·) heq) ((bind_of_ok hok _).trans hpre)

/-- Two loops over one list that accumulate related results. -/
theorem foldlM {f : α → ι → Call σ ε α} {g : β → ι → Call τ ε' β} {is : List ι}
    (hbody : ∀ i ∈ is, ∀ a s b t, Q a s b t → Agree E Q (f a i s) (g b i t))
    {a : α} {b : β} (h : Q a s b t) : Agree E Q (is.foldlM f a s) (is.foldlM g b t) := by
  induction is generalizing a s b t with
  | nil => exact .ok h
  | cons i is ih =>
    rw [List.foldlM_cons, List.foldlM_cons]
    have hhead := hbody i List.mem_cons_self a s b t h
    refine Agree.bind hhead fun a' s' b' t' _ h' => ih (fun j hj => ?_) h'
    exact hbody j (List.mem_cons_of_mem _ hj)

end Agree

end Call

/-! ## Runs -/

/-- A relation that the steps keep between two machines, where the steps of the first one
meet `P`, holds between the ends of two runs. -/
theorem run_related {σ τ ι : Type} {exec : ι → σ → σ} {exec' : ι → τ → τ}
    {R : σ → τ → Prop} {P : σ → ι → Prop}
    (hstep : ∀ i s t, R s t → P s i → R (exec i s) (exec' i t)) {s : σ} {t : τ}
    (h : R s t) {is : List ι} (hall : Along exec P s is) :
    R (run exec s is) (run exec' t is) := by
  induction is generalizing s t with
  | nil => exact h
  | cons i is ih => exact ih (hstep i s t h hall.1) hall.2

end CoreBanking
