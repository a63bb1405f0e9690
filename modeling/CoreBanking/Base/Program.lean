import CoreBanking.Base.Call

/-!
# Programs with locks

What one goroutine does to a state that others share: it takes and gives back locks, and
between two of these it makes steps, each of which nobody interrupts.

- `Prog`: such programs. They are a tree, so each comes to its end whatever it reads;
- `Prog.andThen`: go on after the end, with the result or the error, of which sequences, the
  handling of errors and `defer` are instances (`Prog.withLock`);
- `Prog.critical`: a call made in one step;
- `Prog.alone`: the call that a program is when nobody else runs. It is a homomorphism
  (`alone_bind`, `alone_withLock`, `alone_critical`, `alone_forM`).
-/

namespace CoreBanking

/-- How a reader-writer lock is held. -/
inductive Mode where
  | read
  | write
deriving DecidableEq, Repr

/-- A program over a shared state `σ` and locks `L`, which returns an `α` or fails with an
`ε`. Each step has an input, such as the time when it is made. -/
inductive Prog (L ι σ ε α : Type) where
  | done (a : α)
  | fail (e : ε)
  | lock (l : L) (m : Mode) (next : Prog L ι σ ε α)
  | unlock (l : L) (m : Mode) (next : Prog L ι σ ε α)
  | step (write : ι → σ → σ) (next : ι → σ → Prog L ι σ ε α)

namespace Prog

variable {L ι σ ε ε' α β γ : Type}

/-! ## Going on after the end -/

/-- Go on with what a program ends with. -/
def andThen (p : Prog L ι σ ε α) (f : Except ε α → Prog L ι σ ε' β) : Prog L ι σ ε' β :=
  match p with
  | done a => f (.ok a)
  | fail e => f (.error e)
  | lock l m next => .lock l m (next.andThen f)
  | unlock l m next => .unlock l m (next.andThen f)
  | step write next => .step write fun i s => (next i s).andThen f

theorem andThen_assoc {ε'' : Type} (p : Prog L ι σ ε α) (f : Except ε α → Prog L ι σ ε' β)
    (g : Except ε' β → Prog L ι σ ε'' γ) :
    (p.andThen f).andThen g = p.andThen fun r => (f r).andThen g := by
  induction p with
  | done a => rfl
  | fail e => rfl
  | lock l m next ih => simp only [andThen, ih]
  | unlock l m next ih => simp only [andThen, ih]
  | step write next ih => simp only [andThen, ih]

/-- The program that ends at once. -/
def ofExcept : Except ε α → Prog L ι σ ε α
  | .ok a => .done a
  | .error e => .fail e

@[simp] theorem andThen_ofExcept (p : Prog L ι σ ε α) : p.andThen ofExcept = p := by
  induction p with
  | done a => rfl
  | fail e => rfl
  | lock l m next ih => simp only [andThen, ih]
  | unlock l m next ih => simp only [andThen, ih]
  | step write next ih => simp only [andThen, ih]

/-- The rest of a sequence, unless the first part failed. -/
def onOk (f : α → Prog L ι σ ε β) : Except ε α → Prog L ι σ ε β
  | .ok a => f a
  | .error e => .fail e

instance : Monad (Prog L ι σ ε) where
  pure := .done
  bind p f := p.andThen (onOk f)

theorem bind_def (p : Prog L ι σ ε α) (f : α → Prog L ι σ ε β) :
    p >>= f = p.andThen (onOk f) := rfl

instance : LawfulMonad (Prog L ι σ ε) := by
  refine LawfulMonad.mk' (Prog L ι σ ε) ?_ (fun _ _ => rfl) ?_
  · intro α p
    show p.andThen (onOk .done) = p
    have hend : (onOk .done : Except ε α → Prog L ι σ ε α) = ofExcept := by
      funext r
      cases r <;> rfl
    rw [hend, andThen_ofExcept]
  · intro α β γ p f g
    show (p.andThen (onOk f)).andThen (onOk g) = p.andThen (onOk _)
    rw [andThen_assoc]
    congr 1
    funext r
    cases r <;> rfl

/-- Give a lock back, and end as before. -/
def release (l : L) (m : Mode) (r : Except ε α) : Prog L ι σ ε α :=
  .unlock l m (ofExcept r)

/-- Hold a lock during a program, and give it back however that ends. -/
def withLock (l : L) (m : Mode) (p : Prog L ι σ ε α) : Prog L ι σ ε α :=
  .lock l m (p.andThen (release l m))

/-- Fail with another error. -/
def mapError (g : ε → ε') (p : Prog L ι σ ε α) : Prog L ι σ ε' α :=
  p.andThen fun
    | .ok a => .done a
    | .error e => .fail (g e)

/-- Return something where the program fails. -/
def recover (g : ε → α) (p : Prog L ι σ ε α) : Prog L ι σ ε' α :=
  p.andThen fun
    | .ok a => .done a
    | .error e => .done (g e)

theorem recover_bind (g : ε → β) (p : Prog L ι σ ε α) (f : α → Prog L ι σ ε β) :
    ((p >>= f).recover g : Prog L ι σ ε' β) = p.andThen fun r => (onOk f r).recover g :=
  andThen_assoc p _ _

/-! ## Steps -/

/-- The program that ends as a call did. -/
def ofResult : EStateM.Result ε σ α → Prog L ι σ ε α
  | .ok a _ => .done a
  | .error e _ => .fail e

/-- Make a call in one step. -/
def critical (x : ι → Call σ ε α) : Prog L ι σ ε α :=
  .step (fun i s => (x i).final s) fun i s => ofResult (x i s)

/-- Read the input. -/
def clock : Prog L ι σ ε ι := .step (fun _ s => s) fun i _ => .done i

/-! ## Running alone -/

/-- What the program does when nobody else runs, and the input stays the same. -/
def alone (i : ι) : Prog L ι σ ε α → Call σ ε α
  | done a => pure a
  | fail e => throw e
  | lock _ _ next => next.alone i
  | unlock _ _ next => next.alone i
  | step write next => fun s => (next i s).alone i (write i s)

section Alone

variable (i : ι)

theorem alone_andThen_of_ok {p : Prog L ι σ ε α} {s s' : σ} {a : α}
    (h : p.alone i s = .ok a s') (f : Except ε α → Prog L ι σ ε' β) :
    (p.andThen f).alone i s = (f (.ok a)).alone i s' := by
  induction p generalizing s with
  | done b =>
    cases h
    rfl
  | fail e => cases h
  | lock l m next ih => exact ih h
  | unlock l m next ih => exact ih h
  | step write next ih => exact ih i s h

theorem alone_andThen_of_error {p : Prog L ι σ ε α} {s s' : σ} {e : ε}
    (h : p.alone i s = .error e s') (f : Except ε α → Prog L ι σ ε' β) :
    (p.andThen f).alone i s = (f (.error e)).alone i s' := by
  induction p generalizing s with
  | done b => cases h
  | fail e' =>
    cases h
    rfl
  | lock l m next ih => exact ih h
  | unlock l m next ih => exact ih h
  | step write next ih => exact ih i s h

@[simp] theorem alone_pure (a : α) : (pure a : Prog L ι σ ε α).alone i = pure a := rfl

@[simp] theorem alone_bind (p : Prog L ι σ ε α) (f : α → Prog L ι σ ε β) :
    (p >>= f).alone i = p.alone i >>= fun a => (f a).alone i := by
  funext s
  cases h : p.alone i s with
  | ok a s' => rw [Call.bind_of_ok h, bind_def, alone_andThen_of_ok i h, onOk]
  | error e s' =>
    rw [Call.bind_of_error h, bind_def, alone_andThen_of_error i h, onOk]
    rfl

/-- A lock changes nothing for a program that runs alone. -/
@[simp] theorem alone_withLock (l : L) (m : Mode) (p : Prog L ι σ ε α) :
    (withLock l m p).alone i = p.alone i := by
  funext s
  show (p.andThen (release l m)).alone i s = _
  cases h : p.alone i s with
  | ok a s' =>
    rw [alone_andThen_of_ok i h]
    rfl
  | error e s' =>
    rw [alone_andThen_of_error i h]
    rfl

theorem adaptExcept_of_ok {x : Call σ ε α} {s s' : σ} {a : α} (h : x s = .ok a s')
    (g : ε → ε') : EStateM.adaptExcept g x s = .ok a s' := by
  rw [EStateM.adaptExcept, h]

theorem adaptExcept_of_error {x : Call σ ε α} {s s' : σ} {e : ε} (h : x s = .error e s')
    (g : ε → ε') : EStateM.adaptExcept g x s = .error (g e) s' := by
  rw [EStateM.adaptExcept, h]

@[simp] theorem alone_mapError (g : ε → ε') (p : Prog L ι σ ε α) :
    (p.mapError g).alone i = EStateM.adaptExcept g (p.alone i) := by
  funext s
  cases h : p.alone i s with
  | ok a s' =>
    rw [mapError, alone_andThen_of_ok i h, adaptExcept_of_ok h]
    rfl
  | error e s' =>
    rw [mapError, alone_andThen_of_error i h, adaptExcept_of_error h]
    rfl

theorem alone_recover_of_ok {p : Prog L ι σ ε α} {s s' : σ} {a : α}
    (h : p.alone i s = .ok a s') (g : ε → α) :
    (p.recover g : Prog L ι σ ε' α).alone i s = .ok a s' :=
  alone_andThen_of_ok i h _

theorem alone_recover_of_error {p : Prog L ι σ ε α} {s s' : σ} {e : ε}
    (h : p.alone i s = .error e s') (g : ε → α) :
    (p.recover g : Prog L ι σ ε' α).alone i s = .ok (g e) s' :=
  alone_andThen_of_error i h _

@[simp] theorem alone_critical (x : ι → Call σ ε α) :
    (critical x : Prog L ι σ ε α).alone i = x i := by
  funext s
  show (ofResult (x i s)).alone i ((x i).final s) = x i s
  cases h : x i s with
  | ok a s' =>
    rw [Call.final_of_ok h]
    rfl
  | error e s' =>
    rw [Call.final_of_error h]
    rfl

@[simp] theorem alone_clock_bind (f : ι → Prog L ι σ ε α) :
    (clock >>= f).alone i = (f i).alone i := rfl

@[simp] theorem alone_forM {κ : Type} (f : κ → Prog L ι σ ε PUnit) (ks : List κ) :
    (ks.forM f).alone i = ks.forM fun k => (f k).alone i := by
  induction ks with
  | nil => rfl
  | cons k ks ih =>
    show (f k >>= fun _ => ks.forM f).alone i = _
    rw [alone_bind, ih]
    rfl

end Alone

end Prog

end CoreBanking
