import Mathlib.Init

/-!
# Calls that change state and may fail

A method that mutates its receiver and returns `(result, error)` is a state
and exception computation in which a failing call keeps whatever it had
changed before it failed. Core's `EStateM` is that monad; here are the rules
this development reasons by:

- `Call.bind_of_ok` / `Call.bind_of_error`: run a sequence forwards, one call
  at a time;
- `require` and `orThrow`: a guard, and a lookup that may miss;
- `Call.zoom`: a call on a component of a larger state;
- `Call.state` and `Call.failure`: the state a call leaves, whatever its
  outcome, and the error it failed with;
- `Call.Validates`: a call that checks a list of conditions before it does
  anything, and the rules for the guards it is made of.
-/

namespace CoreBanking

/-- A call on a state `σ` that returns an `α` or fails with an `ε`. -/
abbrev Call (σ ε α : Type) : Type := EStateM ε σ α

namespace Call

variable {σ τ ε ε' α β : Type}

/-! ## Sequences -/

theorem bind_of_ok {x : Call σ ε α} {s s' : σ} {a : α} (h : x s = .ok a s')
    (f : α → Call σ ε β) : (x >>= f) s = f a s' := by
  show EStateM.bind x f s = _
  rw [EStateM.bind, h]

theorem bind_of_error {x : Call σ ε α} {s s' : σ} {e : ε}
    (h : x s = .error e s') (f : α → Call σ ε β) :
    (x >>= f) s = .error e s' := by
  show EStateM.bind x f s = _
  rw [EStateM.bind, h]

theorem bind_congr_left {x y : Call σ ε α} {s : σ} (h : x s = y s) (f : α → Call σ ε β) :
    (x >>= f) s = (y >>= f) s := by
  show EStateM.bind x f s = EStateM.bind y f s
  rw [EStateM.bind, EStateM.bind, h]

@[simp] theorem get_bind (f : σ → Call σ ε α) (s : σ) :
    ((get : Call σ ε σ) >>= f) s = f s s := rfl

@[simp] theorem modify_bind (g : σ → σ) (f : PUnit → Call σ ε α) (s : σ) :
    ((modify g : Call σ ε PUnit) >>= f) s = f ⟨⟩ (g s) := rfl

end Call

/-! ## Guards and lookups -/

section Guards

variable {σ ε α β : Type}

/-- Fail with `e` unless `p` holds. -/
def require (p : Prop) [Decidable p] (e : ε) : Call σ ε Unit :=
  if p then pure () else throw e

theorem require_of {p : Prop} [Decidable p] (h : p) (e : ε) (s : σ) :
    require p e s = .ok () s := by
  rw [require, if_pos h]
  rfl

theorem require_of_not {p : Prop} [Decidable p] (h : ¬p) (e : ε) (s : σ) :
    require p e s = .error e s := by
  rw [require, if_neg h]
  rfl

theorem require_bind_of {p : Prop} [Decidable p] (h : p) (e : ε)
    (f : Unit → Call σ ε α) (s : σ) : (require p e >>= f) s = f () s := by
  rw [require, if_pos h]
  rfl

theorem require_bind_of_not {p : Prop} [Decidable p] (h : ¬p) (e : ε)
    (f : Unit → Call σ ε α) (s : σ) :
    (require p e >>= f) s = .error e s := by
  rw [require, if_neg h]
  rfl

/-- Two computations behind one guard agree if they do once it has passed. -/
theorem require_bind_congr {p : Prop} [Decidable p] {e : ε} {f g : Unit → Call σ ε α} {s : σ}
    (h : p → f () s = g () s) : (require p e >>= f) s = (require p e >>= g) s := by
  by_cases hp : p
  · rw [require_bind_of hp, require_bind_of hp, h hp]
  · rw [require_bind_of_not hp, require_bind_of_not hp]

/-- The value of a lookup, or failure with `e` if it missed. -/
def orThrow (o : Option α) (e : ε) : Call σ ε α :=
  match o with
  | some a => pure a
  | none => throw e

@[simp] theorem orThrow_some_bind (a : α) (e : ε) (f : α → Call σ ε β) (s : σ) :
    (orThrow (some a) e >>= f) s = f a s := rfl

@[simp] theorem orThrow_none_bind (e : ε) (f : α → Call σ ε β) (s : σ) :
    (orThrow none e >>= f) s = .error e s := rfl

/-- Two computations behind one lookup agree if they do once it has hit. -/
theorem orThrow_bind_congr {o : Option α} {e : ε} {f g : α → Call σ ε β} {s : σ}
    (h : ∀ a, o = some a → f a s = g a s) : (orThrow o e >>= f) s = (orThrow o e >>= g) s := by
  cases o with
  | none => rfl
  | some a => exact h a rfl

end Guards

namespace Call

variable {σ τ ε ε' α β : Type}

/-- The outcome of a computation that only reads. -/
def ofExcept (x : Except ε α) : Call σ ε α :=
  match x with
  | .ok a => pure a
  | .error e => throw e

@[simp] theorem ofExcept_ok_bind (a : α) (f : α → Call σ ε β) (s : σ) :
    (ofExcept (.ok a) >>= f) s = f a s := rfl

/-- Two computations behind one read agree if they do once it has succeeded. -/
theorem ofExcept_bind_congr {x : Except ε α} {f g : α → Call σ ε β} {s : σ}
    (h : ∀ a, x = .ok a → f a s = g a s) : (ofExcept x >>= f) s = (ofExcept x >>= g) s := by
  cases x with
  | error e => rfl
  | ok a => exact h a rfl

/-- Reading twice in sequence is reading once. -/
theorem ofExcept_bind (x : Except ε α) (f : α → Except ε β) :
    (ofExcept (x >>= f) : Call σ ε β) = ofExcept x >>= fun a => ofExcept (f a) := by
  cases x <;> rfl

/-- A call that only reads the state. -/
def reading (f : σ → Except ε α) : Call σ ε α := do
  let s ← get
  ofExcept (f s)

/-- Two reads in sequence succeed when both do. -/
theorem except_bind_eq_ok {x : Except ε α} {f : α → Except ε β} {b : β} :
    (x >>= f) = .ok b ↔ ∃ a, x = .ok a ∧ f a = .ok b := by
  cases x with
  | error e => simp [bind, Except.bind]
  | ok a => simp [bind, Except.bind]

/-- Of two reads in sequence, the first fails or the second. -/
theorem except_bind_eq_error {x : Except ε α} {f : α → Except ε β} {e : ε} :
    (x >>= f) = .error e ↔ x = .error e ∨ ∃ a, x = .ok a ∧ f a = .error e := by
  cases x with
  | error e' => simp [bind, Except.bind]
  | ok a => simp [bind, Except.bind]

/-! ## Calls on a component -/

/-- Run a call on the component `view s` of the state, put the component it
leaves back, and wrap its error. -/
def zoom (view : σ → τ) (put : τ → σ → σ) (wrap : ε' → ε) (x : Call τ ε' α) :
    Call σ ε α := fun s =>
  match x (view s) with
  | .ok a t => .ok a (put t s)
  | .error e t => .error (wrap e) (put t s)

theorem zoom_of_ok {view : σ → τ} {put : τ → σ → σ} {wrap : ε' → ε}
    {x : Call τ ε' α} {s : σ} {t : τ} {a : α} (h : x (view s) = .ok a t) :
    zoom view put wrap x s = .ok a (put t s) := by
  rw [zoom, h]

theorem zoom_of_error {view : σ → τ} {put : τ → σ → σ} {wrap : ε' → ε}
    {x : Call τ ε' α} {s : σ} {t : τ} {e : ε'} (h : x (view s) = .error e t) :
    zoom view put wrap x s = .error (wrap e) (put t s) := by
  rw [zoom, h]

/-! ## The state a call leaves -/

/-- The state a call leaves, whatever its outcome. -/
def state : EStateM.Result ε σ α → σ
  | .ok _ s => s
  | .error _ s => s

/-- The error of a call that failed. -/
def failure : EStateM.Result ε σ α → Option ε
  | .ok _ _ => none
  | .error e _ => some e

/-- What a call returns or fails with. -/
def outcome : EStateM.Result ε σ α → Except ε α
  | .ok a _ => .ok a
  | .error e _ => .error e

@[simp] theorem state_ok (a : α) (s : σ) :
    state (.ok a s : EStateM.Result ε σ α) = s := rfl

@[simp] theorem state_error (e : ε) (s : σ) :
    state (.error e s : EStateM.Result ε σ α) = s := rfl

@[simp] theorem failure_ok (a : α) (s : σ) :
    failure (.ok a s : EStateM.Result ε σ α) = none := rfl

@[simp] theorem failure_error (e : ε) (s : σ) :
    failure (.error e s : EStateM.Result ε σ α) = some e := rfl

/-- A call that fails is its error and its state. -/
theorem eq_error_of_failure {r : EStateM.Result ε σ α} {e : ε}
    (h : failure r = some e) : r = .error e (state r) := by
  cases r with
  | ok => cases h
  | error =>
    cases h
    rfl

/-- So is a call that has no result but its effect. -/
theorem eq_ok_of_failure {r : EStateM.Result ε σ Unit} (h : failure r = none) :
    r = .ok () (state r) := by
  cases r with
  | ok => rfl
  | error => cases h

/-- The state after a call. -/
def final (x : Call σ ε α) (s : σ) : σ := state (x s)

theorem final_of_ok {x : Call σ ε α} {s s' : σ} {a : α} (h : x s = .ok a s') :
    x.final s = s' := by
  rw [final, h, state_ok]

theorem final_of_error {x : Call σ ε α} {s s' : σ} {e : ε}
    (h : x s = .error e s') : x.final s = s' := by
  rw [final, h, state_error]

theorem final_zoom (view : σ → τ) (put : τ → σ → σ) (wrap : ε' → ε) (x : Call τ ε' α) (s : σ) :
    (zoom view put wrap x).final s = put (x.final (view s)) s := by
  cases h : x (view s) with
  | ok a t => rw [final_of_ok (zoom_of_ok h), final_of_ok h]
  | error e t => rw [final_of_error (zoom_of_error h), final_of_error h]

/-- Make a call for its effect only. -/
def discard (x : Call σ ε α) : Call σ ε Unit := do
  let _ ← x

theorem discard_of_ok {x : Call σ ε α} {s s' : σ} {a : α} (h : x s = .ok a s') :
    x.discard s = .ok () s' :=
  bind_of_ok h _

theorem discard_of_error {x : Call σ ε α} {s s' : σ} {e : ε}
    (h : x s = .error e s') : x.discard s = .error e s' :=
  bind_of_error h _

theorem discard_self (x : Call σ ε Unit) : x.discard = x := by
  funext s
  cases h : x s with
  | ok _ s' => exact discard_of_ok h
  | error e s' => exact discard_of_error h

@[simp] theorem state_discard (x : Call σ ε α) (s : σ) :
    state (x.discard s) = state (x s) := by
  cases h : x s with
  | ok a s' => rw [discard_of_ok h, state_ok, state_ok]
  | error e s' => rw [discard_of_error h, state_error, state_error]

@[simp] theorem failure_discard (x : Call σ ε α) (s : σ) :
    failure (x.discard s) = failure (x s) := by
  cases h : x s with
  | ok a s' => rw [discard_of_ok h, failure_ok, failure_ok]
  | error e s' => rw [discard_of_error h, failure_error, failure_error]

@[simp] theorem final_discard (x : Call σ ε α) (s : σ) :
    x.discard.final s = x.final s :=
  state_discard x s

/-! ## Validation -/

/-- Of the conditions, each with the error for its violation, the first one that does not
hold comes with `e`. -/
def FirstViolated (conditions : List (Prop × ε)) (e : ε) : Prop :=
  ∃ pre c post, conditions = pre ++ (c, e) :: post ∧ (∀ d ∈ pre, d.1) ∧ ¬c

/-- The call succeeds exactly under the conditions, and otherwise changes nothing and fails
with the error of the first one that is violated. -/
structure Validates (x : Call σ ε α) (s : σ) (conditions : List (Prop × ε)) : Prop where
  ok_iff : (∃ a s', x s = .ok a s') ↔ ∀ c ∈ conditions, c.1
  error : ∀ e s', x s = .error e s' → s' = s ∧ FirstViolated conditions e

namespace Validates

variable {x : Call σ ε α} {s : σ} {conditions : List (Prop × ε)}

theorem of_ok {a : α} {s' : σ} (h : x s = .ok a s') : Validates x s [] where
  ok_iff := iff_of_true ⟨a, s', h⟩ fun c hc => absurd hc List.not_mem_nil
  error e s'' he := by
    rw [h] at he
    cases he

theorem congr {y : Call σ ε α} (h : x s = y s) (hy : Validates y s conditions) :
    Validates x s conditions where
  ok_iff := by rw [h]; exact hy.ok_iff
  error := by rw [h]; exact hy.error

/-- A guard puts its condition in front of those of the rest. -/
theorem require {p q : Prop} [Decidable p] {e : ε} {f : Unit → Call σ ε α} (hpq : p ↔ q)
    (h : p → Validates (f ()) s conditions) :
    Validates (require p e >>= f) s ((q, e) :: conditions) where
  ok_iff := by
    by_cases hp : p
    · rw [require_bind_of hp, (h hp).ok_iff, List.forall_mem_cons]
      exact (and_iff_right (hpq.mp hp)).symm
    · rw [require_bind_of_not hp, List.forall_mem_cons]
      refine iff_of_false ?_ fun hall => hp (hpq.mpr hall.1)
      rintro ⟨a, s', h⟩
      cases h
  error e' s' he := by
    by_cases hp : p
    · rw [require_bind_of hp] at he
      obtain ⟨hsame, pre, c, post, heq, hpre, hc⟩ := (h hp).error e' s' he
      refine ⟨hsame, (q, e) :: pre, c, post, by rw [heq, List.cons_append], ?_, hc⟩
      exact List.forall_mem_cons.mpr ⟨hpq.mp hp, hpre⟩
    · rw [require_bind_of_not hp] at he
      cases he
      exact ⟨rfl, [], q, conditions, rfl, fun d hd => absurd hd List.not_mem_nil,
        fun hq => hp (hpq.mpr hq)⟩

/-- The same for a guard in another form. -/
theorem guard {p : Prop} {g : Call σ ε Unit} {e : ε} {f : Unit → Call σ ε α}
    (hpass : p → g s = .ok () s) (hfail : ¬p → g s = .error e s)
    (h : p → Validates (f ()) s conditions) :
    Validates (g >>= f) s ((p, e) :: conditions) := by
  classical
  have hg : (g >>= f) s = (CoreBanking.require p e >>= f) s := by
    by_cases hp : p
    · rw [bind_of_ok (hpass hp), require_bind_of hp]
    · rw [bind_of_error (hfail hp), require_bind_of_not hp]
  exact (require Iff.rfl h).congr hg

end Validates

end Call

end CoreBanking
