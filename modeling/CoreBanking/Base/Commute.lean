import CoreBanking.Base.Call

/-!
# Calls that do not see part of the state

A call commutes with a map of the state when it has the same result on the mapped state, and
leaves the mapped state. Commuting with every change of a component says that the call neither
reads nor writes it.

- `Call.Commutes`, with a rule for each way of building a call;
- `Call.ReadsOnly`: a call that leaves the state alone.
-/

namespace CoreBanking.Call

variable {σ τ ε α β : Type}

/-- The same result, in another state. -/
def mapState (g : σ → τ) : EStateM.Result ε σ α → EStateM.Result ε τ α
  | .ok a s => .ok a (g s)
  | .error e s => .error e (g s)

@[simp] theorem state_mapState (g : σ → τ) (r : EStateM.Result ε σ α) :
    state (mapState g r) = g (state r) := by
  cases r <;> rfl

/-- The call does the same on the mapped state. -/
def Commutes (g : σ → σ) (x : Call σ ε α) : Prop := ∀ s, x (g s) = mapState g (x s)

namespace Commutes

variable {g : σ → σ}

theorem final {x : Call σ ε α} (hx : Commutes g x) (s : σ) : x.final (g s) = g (x.final s) := by
  rw [Call.final, hx s, state_mapState]
  rfl

theorem pure (a : α) : Commutes g (Pure.pure a : Call σ ε α) := fun _ => rfl

theorem bind {x : Call σ ε α} {f : α → Call σ ε β} (hx : Commutes g x)
    (hf : ∀ a, Commutes g (f a)) : Commutes g (x >>= f) := by
  intro s
  cases h : x s with
  | ok a s' =>
    have hg : x (g s) = .ok a (g s') := by rw [hx s, h, mapState]
    rw [bind_of_ok h, bind_of_ok hg, hf a s']
  | error e s' =>
    have hg : x (g s) = .error e (g s') := by rw [hx s, h, mapState]
    rw [bind_of_error h, bind_of_error hg, mapState]

/-- What is read is the same. -/
theorem read {f : σ → Call σ ε α} (hsame : ∀ s, f (g s) = f s) (hf : ∀ s, Commutes g (f s)) :
    Commutes g (get >>= f) := by
  intro s
  rw [get_bind, get_bind, hsame s, hf s s]

theorem modify {m : σ → σ} (hm : ∀ s, m (g s) = g (m s)) :
    Commutes g (modify m : Call σ ε PUnit) := by
  intro s
  show EStateM.Result.ok _ (m (g s)) = .ok _ (g (m s))
  rw [hm]

theorem ofExcept (y : Except ε α) : Commutes g (Call.ofExcept y) := by
  intro s
  cases y <;> rfl

theorem reading {f : σ → Except ε α} (hsame : ∀ s, f (g s) = f s) :
    Commutes g (Call.reading f) :=
  read (fun s => by rw [hsame]) fun s => ofExcept (f s)

theorem orThrow (o : Option α) (e : ε) : Commutes g (CoreBanking.orThrow o e) := by
  intro s
  cases o <;> rfl

theorem require (p : Prop) [Decidable p] (e : ε) : Commutes g (CoreBanking.require p e) := by
  intro s
  by_cases h : p
  · rw [require_of h, require_of h]
    rfl
  · rw [require_of_not h, require_of_not h]
    rfl

theorem forM {ι : Type} {f : ι → Call σ ε PUnit} (hf : ∀ i, Commutes g (f i)) (is : List ι) :
    Commutes g (is.forM f) := by
  induction is with
  | nil => exact pure _
  | cons i is ih => exact bind (hf i) fun _ => ih

/-- A call on a component that the map leaves alone. -/
theorem zoom {view : σ → τ} {put : τ → σ → σ} {ε' : Type} {wrap : ε' → ε} (x : Call τ ε' α)
    (hview : ∀ s, view (g s) = view s) (hput : ∀ b s, put b (g s) = g (put b s)) :
    Commutes g (Call.zoom view put wrap x) := by
  intro s
  cases h : x (view s) with
  | ok a b =>
    rw [zoom_of_ok h, zoom_of_ok ((congrArg x (hview s)).trans h), hput, mapState]
  | error e b =>
    rw [zoom_of_error h, zoom_of_error ((congrArg x (hview s)).trans h), hput, mapState]

end Commutes

/-- The call leaves the state alone. -/
def ReadsOnly (x : Call σ ε α) : Prop := ∀ s, x.final s = s

namespace ReadsOnly

theorem ok {x : Call σ ε α} (hx : x.ReadsOnly) {s s' : σ} {a : α} (h : x s = .ok a s') :
    s' = s := by
  rw [← final_of_ok h, hx s]

theorem error {x : Call σ ε α} (hx : x.ReadsOnly) {s s' : σ} {e : ε}
    (h : x s = .error e s') : s' = s := by
  rw [← final_of_error h, hx s]

theorem pure (a : α) : ReadsOnly (Pure.pure a : Call σ ε α) := fun _ => rfl

theorem bind {x : Call σ ε α} {f : α → Call σ ε β} (hx : ReadsOnly x)
    (hf : ∀ a, ReadsOnly (f a)) : ReadsOnly (x >>= f) := by
  intro s
  cases h : x s with
  | ok a s' =>
    rw [final, bind_of_ok h, hx.ok h]
    exact hf a s
  | error e s' =>
    rw [final, bind_of_error h, hx.error h]
    rfl

theorem read {f : σ → Call σ ε α} (hf : ∀ s, ReadsOnly (f s)) : ReadsOnly (get >>= f) :=
  fun s => hf s s

theorem ofExcept (y : Except ε α) : ReadsOnly (Call.ofExcept y : Call σ ε α) := by
  intro s
  cases y <;> rfl

theorem reading (f : σ → Except ε α) : ReadsOnly (Call.reading f) :=
  read fun s => ofExcept (f s)

theorem orThrow (o : Option α) (e : ε) : ReadsOnly (CoreBanking.orThrow o e : Call σ ε α) := by
  intro s
  cases o <;> rfl

theorem require (p : Prop) [Decidable p] (e : ε) :
    ReadsOnly (CoreBanking.require p e : Call σ ε Unit) := by
  intro s
  by_cases h : p
  · rw [final, require_of h]
    rfl
  · rw [final, require_of_not h]
    rfl

end ReadsOnly

end CoreBanking.Call
