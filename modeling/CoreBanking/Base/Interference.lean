import CoreBanking.Base.Guarantee
import CoreBanking.Base.Pool

/-!
# Interference

What a thread may rely on depends on the locks that it holds, and so does what its steps
guarantee to the others.

- `Interference`: a rely and a guarantee for each set of locks, such that a step of one
  thread is within what the others rely on, if no lock of one excludes one of the other;
- `Prog.Safe`: what a program does when the other threads make any steps that it may rely on,
  before each step of its own. There is a rule for each way of building a program;
- `Prog.Atomic`: a program that ends as a call does at one moment while it runs;
- `Pool.Reachable.safe`: programs that are safe each on its own are safe together, under
  every schedule.
-/

namespace CoreBanking

/-- No lock is in both lists, but for readers. -/
def Compatible {L : Type} (held held' : List (L × Mode)) : Prop :=
  ∀ h ∈ held, ∀ h' ∈ held', h.1 = h'.1 → h.2 = .read ∧ h'.2 = .read

theorem Compatible.symm {L : Type} {held held' : List (L × Mode)} (h : Compatible held held') :
    Compatible held' held :=
  fun h₁ hm₁ h₂ hm₂ heq => (h h₂ hm₂ h₁ hm₁ heq.symm).symm

/-- What threads rely on and guarantee, by the locks that they hold. -/
structure Interference (L σ : Type) where
  Rely : List (L × Mode) → σ → σ → Prop
  Guar : List (L × Mode) → σ → σ → Prop
  rely_refl : ∀ held s, Rely held s s
  rely_trans : ∀ {held s s' s''}, Rely held s s' → Rely held s' s'' → Rely held s s''
  rely_of_cons : ∀ {h held s s'}, Rely (h :: held) s s' → Rely held s s'
  guar_refl : ∀ held s, Guar held s s
  compatible : ∀ {held held' s s'}, Compatible held held' → Guar held s s' → Rely held' s s'

/-- Whatever anybody does is within `K`. -/
structure Interference.Within {L σ : Type} (R : Interference L σ) (K : σ → σ → Prop) : Prop where
  refl : ∀ s, K s s
  trans : ∀ {s s' s''}, K s s' → K s' s'' → K s s''
  rely : ∀ {held s s'}, R.Rely held s s' → K s s'
  guar : ∀ {held s s'}, R.Guar held s s' → K s s'

namespace Prog

variable {L ι σ ε ε' α β : Type}

/-- From `s`, holding the locks `held`, the program keeps its guarantee in each step, whatever
the others do that it may rely on. It ends with the locks `base`, returning in `P` or failing
with an error in `E`. -/
def SafeFrom (R : Interference L σ) (E : ε → Prop) (P : α → σ → Prop)
    (base : List (L × Mode)) : List (L × Mode) → Prog L ι σ ε α → σ → Prop
  | held, .done a, s => held = base ∧ ∀ s', R.Rely base s s' → P a s'
  | held, .fail e, _ => held = base ∧ E e
  | held, .lock l m next, s =>
    ∀ s', R.Rely held s s' → next.SafeFrom R E P base ((l, m) :: held) s'
  | held, .unlock l m next, s => ∃ rest, held = (l, m) :: rest ∧
    ∀ s', R.Rely held s s' → next.SafeFrom R E P base rest s'
  | held, .step write next, s => ∀ i s', R.Rely held s s' →
    R.Guar held s' (write i s') ∧ (next i s').SafeFrom R E P base held (write i s')

/-- A program that ends with the locks that it has begun with. -/
abbrev Safe (R : Interference L σ) (E : ε → Prop) (held : List (L × Mode))
    (p : Prog L ι σ ε α) (s : σ) (P : α → σ → Prop) : Prop :=
  p.SafeFrom R E P held held s

variable {R : Interference L σ} {E : ε → Prop} {P : α → σ → Prop} {Q : β → σ → Prop}
  {base base' held : List (L × Mode)} {p : Prog L ι σ ε α} {s s' : σ}

/-- A fact that other threads do not disturb. -/
def Stable (R : Interference L σ) (held : List (L × Mode)) (P : α → σ → Prop) : Prop :=
  ∀ a s s', P a s → R.Rely held s s' → P a s'

theorem stable_true (R : Interference L σ) (held : List (L × Mode)) :
    Stable R held fun (_ : α) (_ : σ) => True :=
  fun _ _ _ _ _ => trivial

namespace SafeFrom

/-- To be safe is such a fact. -/
theorem rely (hp : p.SafeFrom R E P base held s) (hs : R.Rely held s s') :
    p.SafeFrom R E P base held s' := by
  cases p with
  | done a =>
    obtain ⟨rfl, ha⟩ := hp
    exact ⟨rfl, fun s'' hs' => ha s'' (R.rely_trans hs hs')⟩
  | fail e => exact hp
  | lock l m next => exact fun s'' hs' => hp s'' (R.rely_trans hs hs')
  | unlock l m next =>
    obtain ⟨rest, heq, hrest⟩ := hp
    exact ⟨rest, heq, fun s'' hs' => hrest s'' (R.rely_trans hs hs')⟩
  | step write next => exact fun i s'' hs' => hp i s'' (R.rely_trans hs hs')

/-! ## Sequences -/

theorem andThen (hp : p.SafeFrom R E P base held s) {E' : ε' → Prop}
    {f : Except ε α → Prog L ι σ ε' β}
    (hok : ∀ a s', P a s' → (f (.ok a)).SafeFrom R E' Q base' base s')
    (herror : ∀ e s', E e → (f (.error e)).SafeFrom R E' Q base' base s') :
    (p.andThen f).SafeFrom R E' Q base' held s := by
  induction p generalizing held s with
  | done a =>
    obtain ⟨rfl, ha⟩ := hp
    exact hok a s (ha s (R.rely_refl held s))
  | fail e =>
    obtain ⟨rfl, he⟩ := hp
    exact herror e s he
  | lock l m next ih => exact fun s' hs => ih (hp s' hs)
  | unlock l m next ih =>
    obtain ⟨rest, heq, hrest⟩ := hp
    exact ⟨rest, heq, fun s' hs => ih (hrest s' hs)⟩
  | step write next ih => exact fun i s' hs => ⟨(hp i s' hs).1, ih i s' (hp i s' hs).2⟩

theorem fail {e : ε} (he : E e) : Safe R E held (.fail e : Prog L ι σ ε α) s P :=
  ⟨rfl, he⟩

theorem pure {a : α} (ha : P a s) (hstable : Stable R held P) :
    Safe R E held (Pure.pure a : Prog L ι σ ε α) s P :=
  ⟨rfl, fun s' hs => hstable a s s' ha hs⟩

theorem bind {f : α → Prog L ι σ ε β}
    (hp : Safe R E held p s fun a s' => Safe R E held (f a) s' Q) :
    Safe R E held (p >>= f) s Q :=
  hp.andThen (fun _ _ ha => ha) fun _ _ he => fail he

theorem mono {P' : α → σ → Prop} {E' : ε → Prop} (hp : p.SafeFrom R E P base held s)
    (hP : ∀ a s', P a s' → P' a s') (hE : ∀ e, E e → E' e) :
    p.SafeFrom R E' P' base held s := by
  induction p generalizing held s with
  | done a => exact ⟨hp.1, fun s' hs => hP a s' (hp.2 s' hs)⟩
  | fail e => exact ⟨hp.1, hE e hp.2⟩
  | lock l m next ih => exact fun s' hs => ih (hp s' hs)
  | unlock l m next ih =>
    obtain ⟨rest, heq, hrest⟩ := hp
    exact ⟨rest, heq, fun s' hs => ih (hrest s' hs)⟩
  | step write next ih => exact fun i s' hs => ⟨(hp i s' hs).1, ih i s' (hp i s' hs).2⟩

/-- What is known in two ways is known at once. -/
theorem and {E' : ε → Prop} {P' : α → σ → Prop} (hp : p.SafeFrom R E P base held s)
    (hp' : p.SafeFrom R E' P' base held s) :
    p.SafeFrom R (fun e => E e ∧ E' e) (fun a s' => P a s' ∧ P' a s') base held s := by
  induction p generalizing held s with
  | done a => exact ⟨hp.1, fun s' hs => ⟨hp.2 s' hs, hp'.2 s' hs⟩⟩
  | fail e => exact ⟨hp.1, hp.2, hp'.2⟩
  | lock l m next ih => exact fun s' hs => ih (hp s' hs) (hp' s' hs)
  | unlock l m next ih =>
    obtain ⟨rest, heq, hrest⟩ := hp
    obtain ⟨rest', heq', hrest'⟩ := hp'
    obtain ⟨-, rfl⟩ := List.cons.inj (heq.symm.trans heq')
    exact ⟨rest, heq, fun s' hs => ih (hrest s' hs) (hrest' s' hs)⟩
  | step write next ih =>
    exact fun i s' hs => ⟨(hp i s' hs).1, ih i s' (hp i s' hs).2 (hp' i s' hs).2⟩

/-- What every step of anybody keeps, the end keeps too. -/
theorem since {K : σ → σ → Prop} (hK : R.Within K) (hp : p.SafeFrom R E P base held s) :
    p.SafeFrom R E (fun a s' => P a s' ∧ K s s') base held s := by
  suffices hsince : ∀ s₀, K s₀ s → p.SafeFrom R E (fun a s' => P a s' ∧ K s₀ s') base held s from
    hsince s (hK.refl s)
  intro s₀ hs₀
  induction p generalizing held s with
  | done a => exact ⟨hp.1, fun s' hs => ⟨hp.2 s' hs, hK.trans hs₀ (hK.rely hs)⟩⟩
  | fail e => exact hp
  | lock l m next ih => exact fun s' hs => ih (hp s' hs) (hK.trans hs₀ (hK.rely hs))
  | unlock l m next ih =>
    obtain ⟨rest, heq, hrest⟩ := hp
    exact ⟨rest, heq, fun s' hs => ih (hrest s' hs) (hK.trans hs₀ (hK.rely hs))⟩
  | step write next ih =>
    refine fun i s' hs => ⟨(hp i s' hs).1, ih i s' (hp i s' hs).2 ?_⟩
    exact hK.trans (hK.trans hs₀ (hK.rely hs)) (hK.guar (hp i s' hs).1)

/-! ## Errors -/

theorem mapError {E' : ε' → Prop} {g : ε → ε'} (hp : p.SafeFrom R E P base held s)
    (hE : ∀ e, E e → E' (g e)) : (p.mapError g).SafeFrom R E' P base held s := by
  induction p generalizing held s with
  | done a => exact hp
  | fail e => exact ⟨hp.1, hE e hp.2⟩
  | lock l m next ih => exact fun s' hs => ih (hp s' hs)
  | unlock l m next ih =>
    obtain ⟨rest, heq, hrest⟩ := hp
    exact ⟨rest, heq, fun s' hs => ih (hrest s' hs)⟩
  | step write next ih => exact fun i s' hs => ⟨(hp i s' hs).1, ih i s' (hp i s' hs).2⟩

/-- What is returned for an error holds of what has come since. -/
theorem recover {K : σ → σ → Prop} (hK : R.Within K) {E' : ε' → Prop} {g : ε → α}
    (hp : p.SafeFrom R E P base held s) (hE : ∀ e s', E e → K s s' → P (g e) s') :
    (p.recover g).SafeFrom R E' P base held s := by
  suffices hsince : ∀ s₀, K s₀ s → (∀ e s', E e → K s₀ s' → P (g e) s') →
      (p.recover g).SafeFrom R E' P base held s from hsince s (hK.refl s) hE
  clear hE
  intro s₀ hs₀ hE
  induction p generalizing held s with
  | done a => exact hp
  | fail e => exact ⟨hp.1, fun s' hs => hE e s' hp.2 (hK.trans hs₀ (hK.rely hs))⟩
  | lock l m next ih => exact fun s' hs => ih (hp s' hs) (hK.trans hs₀ (hK.rely hs))
  | unlock l m next ih =>
    obtain ⟨rest, heq, hrest⟩ := hp
    exact ⟨rest, heq, fun s' hs => ih (hrest s' hs) (hK.trans hs₀ (hK.rely hs))⟩
  | step write next ih =>
    refine fun i s' hs => ⟨(hp i s' hs).1, ih i s' (hp i s' hs).2 ?_⟩
    exact hK.trans (hK.trans hs₀ (hK.rely hs)) (hK.guar (hp i s' hs).1)

theorem ofExcept {r : Except ε α} (hstable : Stable R held P) (hok : ∀ a, r = .ok a → P a s)
    (herror : ∀ e, r = .error e → E e) :
    Safe R E held (Prog.ofExcept r : Prog L ι σ ε α) s P := by
  cases r with
  | ok a => exact pure (hok a rfl) hstable
  | error e => exact fail (herror e rfl)

/-! ## Steps and locks -/

theorem critical {x : ι → Call σ ε α} (hstable : Stable R held P)
    (hx : ∀ i s', R.Rely held s s' → Call.Guarantees (R.Guar held s') E (x i) s' P) :
    Safe R E held (Prog.critical x : Prog L ι σ ε α) s P := by
  intro i s' hs
  have hg := hx i s' hs
  refine ⟨hg.final, ?_⟩
  show (ofResult (x i s')).SafeFrom R E P held held ((x i).final s')
  cases h : x i s' with
  | ok a s'' =>
    rw [Call.final_of_ok h]
    exact ⟨rfl, fun t ht => hstable a s'' t (hg.ok h).2 ht⟩
  | error e s'' => exact ⟨rfl, (hg.error h).2⟩

/-- A step, and what comes after it. -/
theorem critical_bind {x : ι → Call σ ε α} {f : α → Prog L ι σ ε β}
    (hx : ∀ i s', R.Rely held s s' → Call.Guarantees (R.Guar held s') E (x i) s'
      fun a s'' => Safe R E held (f a) s'' Q) :
    Safe R E held (Prog.critical x >>= f) s Q :=
  bind (critical (fun _ _ _ hf hs => hf.rely hs) hx)

theorem clock_bind {f : ι → Prog L ι σ ε β} (hf : ∀ i, Safe R E held (f i) s Q) :
    Safe R E held (Prog.clock >>= f) s Q :=
  fun i s' hs => ⟨R.guar_refl held s', (hf i).rely hs⟩

/-- While a lock is held, more can be relied on. -/
theorem withLock {l : L} {m : Mode} (hstable : Stable R held P)
    (hp : ∀ s', R.Rely held s s' → Safe R E ((l, m) :: held) p s' P) :
    Safe R E held (Prog.withLock l m p) s P := by
  intro s' hs
  refine (hp s' hs).andThen (fun a s₁ ha => ?_) fun e s₁ he => ?_
  · refine ⟨held, rfl, fun s₂ hs₂ => ⟨rfl, fun s₃ hs₃ => ?_⟩⟩
    exact hstable a s₁ s₃ ha (R.rely_trans (R.rely_of_cons hs₂) hs₃)
  · exact ⟨held, rfl, fun s₂ _ => ⟨rfl, he⟩⟩

/-- A section under a lock, and what comes after it. -/
theorem withLock_bind {l : L} {m : Mode} {f : α → Prog L ι σ ε β}
    (hp : ∀ s', R.Rely held s s' → Safe R E ((l, m) :: held) p s' fun a s'' =>
      Safe R E held (f a) s'' Q) :
    Safe R E held (Prog.withLock l m p >>= f) s Q :=
  bind (withLock (fun _ _ _ hf hs => hf.rely hs) hp)

/-- One step under a lock. -/
theorem locked {l : L} {m : Mode} {x : ι → Call σ ε α} (hstable : Stable R held P)
    (hx : ∀ i s', R.Rely held s s' →
      Call.Guarantees (R.Guar ((l, m) :: held) s') E (x i) s' P) :
    Safe R E held (Prog.withLock l m (Prog.critical x) : Prog L ι σ ε α) s P :=
  withLock hstable fun _ hs => critical
    (fun a s₁ s₂ ha hs' => hstable a s₁ s₂ ha (R.rely_of_cons hs'))
    fun i _ hs' => hx i _ (R.rely_trans hs (R.rely_of_cons hs'))

theorem locked_bind {l : L} {m : Mode} {x : ι → Call σ ε α} {f : α → Prog L ι σ ε β}
    (hx : ∀ i s', R.Rely held s s' →
      Call.Guarantees (R.Guar ((l, m) :: held) s') E (x i) s'
        fun a s'' => Safe R E held (f a) s'' Q) :
    Safe R E held (Prog.withLock l m (Prog.critical x) >>= f) s Q :=
  bind (locked (fun _ _ _ hf hs => hf.rely hs) hx)

/-- What each round of a loop keeps, and the others do not disturb. -/
theorem forM {κ : Type} {f : κ → Prog L ι σ ε PUnit} {ks : List κ} {I : σ → Prop}
    (hstable : Stable R held fun (_ : PUnit) s' => I s') (hs : I s)
    (hf : ∀ k ∈ ks, ∀ s', I s' → Safe R E held (f k) s' fun _ s'' => I s'') :
    Safe R E held (ks.forM f) s fun _ s' => I s' := by
  induction ks generalizing s with
  | nil => exact pure hs hstable
  | cons k ks ih =>
    refine bind ((hf k List.mem_cons_self s hs).mono (fun _ s' hI => ?_) fun _ he => he)
    exact ih hI fun k' hk' => hf k' (List.mem_cons_of_mem k hk')

/-- What each round of a loop keeps, and what it returns, which nobody disturbs. -/
theorem mapM {κ : Type} {f : κ → Prog L ι σ ε β} {ks : List κ} {K : σ → σ → Prop} {I : σ → Prop}
    (hK : R.Within K) (hI : ∀ s s', I s → K s s' → I s')
    (hQ : ∀ b s s', I s → Q b s → K s s' → Q b s') (hs : I s)
    (hf : ∀ k ∈ ks, ∀ s', I s' → K s s' → Safe R E held (f k) s' Q) :
    Safe R E held (ks.mapM f) s fun bs s' => I s' ∧ ∀ b ∈ bs, Q b s' := by
  have hkept : ∀ (bs : List β) s s', (I s ∧ ∀ b ∈ bs, Q b s) → K s s' →
      I s' ∧ ∀ b ∈ bs, Q b s' :=
    fun bs s s' h hs => ⟨hI s s' h.1 hs, fun b hb => hQ b s s' h.1 (h.2 b hb) hs⟩
  induction ks generalizing s with
  | nil =>
    exact pure ⟨hs, fun b hb => absurd hb List.not_mem_nil⟩
      fun bs s s' h hr => hkept bs s s' h (hK.rely hr)
  | cons k ks ih =>
    rw [List.mapM_cons]
    have hfirst := since hK (hf k List.mem_cons_self s hs (hK.refl s))
    refine bind (hfirst.mono (fun b s' hb => ?_) fun _ he => he)
    have hs' := hI s s' hs hb.2
    have hrest := ih hs' fun k' hk' s'' hI'' hs'' =>
      hf k' (List.mem_cons_of_mem k hk') s'' hI'' (hK.trans hb.2 hs'')
    refine bind ((since hK hrest).mono (fun bs s'' hbs => ?_) fun _ he => he)
    refine pure ⟨hbs.1.1, fun b' hb' => ?_⟩ fun bs s s' h hr => hkept bs s s' h (hK.rely hr)
    rcases List.mem_cons.mp hb' with rfl | hb'
    · exact hQ b' s' s'' hs' hb.1 hbs.2
    · exact hbs.1.2 b' hb'

end SafeFrom

/-- What every step of anybody keeps, a run without the others keeps too. -/
theorem SafeFrom.final {K : σ → σ → Prop} (hK : R.Within K) (hp : p.SafeFrom R E P base held s)
    (i : ι) : K s ((p.alone i).final s) := by
  induction p generalizing held s with
  | done a => exact hK.refl s
  | fail e => exact hK.refl s
  | lock l m next ih => exact ih (hp s (R.rely_refl held s))
  | unlock l m next ih =>
    obtain ⟨rest, -, hrest⟩ := hp
    exact ih (hrest s (R.rely_refl held s))
  | step write next ih =>
    obtain ⟨hguar, hrest⟩ := hp i s (R.rely_refl held s)
    exact hK.trans (hK.guar hguar) (ih i s hrest)

/-! ## Taking effect at one moment -/

section Atomic

variable (K : σ → σ → Prop)

/-- At some moment since `s` the call returned `a`, and what it left has only gone on since. -/
def Took (x : ι → Call σ ε α) (s : σ) (a : α) (s' : σ) : Prop :=
  ∃ i t t', K s t ∧ x i t = .ok a t' ∧ K t t' ∧ K t' s'

/-- At some moment since `s` the call failed. -/
def Refused (x : ι → Call σ ε α) (s : σ) (e : ε) : Prop :=
  ∃ i t t', K s t ∧ x i t = .error e t'

/-- From `s`, the program ends as the call does at one moment while it runs. -/
abbrev Atomic (R : Interference L σ) (held : List (L × Mode)) (p : Prog L ι σ ε α)
    (x : ι → Call σ ε α) (s : σ) : Prop :=
  Safe R (Refused K x s) held p s (Took K x s)

variable {K} {x : ι → Call σ ε α} {y : ι → Call σ ε β} {a : α} {e : ε}

theorem stable_took (hK : R.Within K) (x : ι → Call σ ε α) (s : σ) :
    Stable R held (Took K x s) := by
  rintro a s₁ s₂ ⟨i, t, t', ht, hx, hgo, ht'⟩ hs
  exact ⟨i, t, t', ht, hx, hgo, hK.trans ht' (hK.rely hs)⟩

/-- A moment since later is a moment since earlier. -/
theorem Took.of_later (hK : R.Within K) (hs : K s s') {a : α} {s'' : σ}
    (h : Took K x s' a s'') : Took K x s a s'' := by
  obtain ⟨i, t, t', ht, hx, hlater⟩ := h
  exact ⟨i, t, t', hK.trans hs ht, hx, hlater⟩

@[inherit_doc Took.of_later]
theorem Refused.of_later (hK : R.Within K) (hs : K s s') (h : Refused K x s' e) :
    Refused K x s e := by
  obtain ⟨i, t, t', ht, hx⟩ := h
  exact ⟨i, t, t', hK.trans hs ht, hx⟩

namespace Atomic

theorem of_later (hK : R.Within K) (hs : K s s') (h : Atomic K R held p x s') :
    p.SafeFrom R (Refused K x s) (Took K x s) held held s' :=
  SafeFrom.mono h (fun _ _ ha => ha.of_later hK hs) fun _ he => he.of_later hK hs

/-- One step takes effect when it is made. -/
theorem critical (hK : R.Within K)
    (hx : ∀ i s', R.Rely held s s' → R.Guar held s' ((x i).final s')) :
    Atomic K R held (Prog.critical x) x s := by
  refine SafeFrom.critical (stable_took hK x s) fun i s' hs => ?_
  have hguar := hx i s' hs
  have hs' := hK.rely hs
  cases h : x i s' with
  | ok a t =>
    rw [Call.final_of_ok h] at hguar
    exact .of_ok h hguar ⟨i, s', t, hs', h, hK.guar hguar, hK.refl t⟩
  | error e t =>
    rw [Call.final_of_error h] at hguar
    exact .of_error h hguar ⟨i, s', t, hs', h⟩

theorem withLock (hK : R.Within K) {l : L} {m : Mode}
    (hp : ∀ s', R.Rely held s s' → Atomic K R ((l, m) :: held) p x s') :
    Atomic K R held (Prog.withLock l m p) x s :=
  SafeFrom.withLock (stable_took hK x s) fun s' hs => of_later hK (hK.rely hs) (hp s' hs)

/-- A call in one step under a lock. -/
theorem locked (hK : R.Within K) {l : L} {m : Mode}
    (hx : ∀ i s', R.Rely held s s' → R.Guar ((l, m) :: held) s' ((x i).final s')) :
    Atomic K R held (Prog.withLock l m (Prog.critical x)) x s :=
  withLock hK fun _ hs => critical hK fun i s'' hs' => hx i s'' (R.rely_trans hs
    (R.rely_of_cons hs'))

theorem mapError (h : Atomic K R held p x s) (g : ε → ε') :
    Atomic K R held (p.mapError g) (fun i => EStateM.adaptExcept g (x i)) s := by
  have hrefused : ∀ e, Refused K x s e →
      Refused K (fun i => EStateM.adaptExcept g (x i)) s (g e) := by
    rintro e ⟨i, t, t', ht, hx⟩
    exact ⟨i, t, t', ht, adaptExcept_of_error hx g⟩
  refine SafeFrom.mono (SafeFrom.mapError h hrefused) ?_ fun _ he => he
  · rintro a s' ⟨i, t, t', ht, hx, hlater⟩
    exact ⟨i, t, t', ht, adaptExcept_of_ok hx g, hlater⟩

/-- What follows from the result alone may come later. -/
theorem map (hK : R.Within K) (h : Atomic K R held p x s) (g : α → β) :
    Atomic K R held (p >>= fun a => pure (g a)) (fun i => x i >>= fun a => pure (g a)) s := by
  refine SafeFrom.bind (SafeFrom.mono h ?_ ?_)
  · rintro a s' ⟨i, t, t', ht, hx, hlater⟩
    exact .pure ⟨i, t, t', ht, Call.bind_of_ok hx _, hlater⟩ (stable_took hK _ s)
  · rintro e ⟨i, t, t', ht, hx⟩
    exact ⟨i, t, t', ht, Call.bind_of_error hx _⟩

/-- A look at what stays, before a call. At the moment of the call it would not have found
anything that makes a difference. -/
theorem after (hK : R.Within K) {q : Prog L ι σ ε β} {f : β → Prog L ι σ ε α}
    {z : β → ι → Call σ ε α}
    (hq : Safe R (Refused K y s) held q s fun b s' => K s s' ∧
      (∀ i t, K s' t → ∃ b', y i t = .ok b' t ∧ z b' i t = z b i t) ∧
      Atomic K R held (f b) (z b) s') :
    Atomic K R held (q >>= f) (fun i => y i >>= fun b => z b i) s := by
  refine SafeFrom.bind (SafeFrom.mono hq ?_ ?_)
  · rintro b s' ⟨hs, hy, hf⟩
    have hmoment : ∀ i t, K s' t → (y i >>= fun b => z b i) t = z b i t := by
      intro i t ht
      obtain ⟨b', hb', hsame⟩ := hy i t ht
      exact (Call.bind_of_ok hb' _).trans hsame
    refine SafeFrom.mono hf ?_ ?_
    · rintro a s'' ⟨i, t, t', ht, hz, hlater⟩
      exact ⟨i, t, t', hK.trans hs ht, (hmoment i t ht).trans hz, hlater⟩
    · rintro e ⟨i, t, t', ht, hz⟩
      exact ⟨i, t, t', hK.trans hs ht, (hmoment i t ht).trans hz⟩
  · rintro e ⟨i, t, t', ht, hy⟩
    exact ⟨i, t, t', ht, Call.bind_of_error hy _⟩

end Atomic

end Atomic

end Prog

/-! ## Pools -/

namespace Pool

variable {T L ι σ ε α : Type} {R : Interference L σ} {E : ε → Prop} {P : T → α → σ → Prop}

/-- Each thread is safe, no lock of one excludes one of another, and what has happened is what
a thread without locks relies on. -/
structure Safe (R : Interference L σ) (E : ε → Prop) (P : T → α → σ → Prop) (s : σ)
    (c : Pool T L ι σ ε α) : Prop where
  thread : ∀ t, (c.threads t).prog.SafeFrom R E (P t) [] (c.threads t).held c.state
  compatible : ∀ t t', t ≠ t' → Compatible (c.threads t).held (c.threads t').held
  rely : R.Rely [] s c.state

variable [DecidableEq T] {s : σ}

/-- A thread has gone on, and the others have seen no more than they rely on. -/
theorem Safe.update {c : Pool T L ι σ ε α} (h : c.Safe R E P s) {t : T} {s' : σ}
    {held : List (L × Mode)} {prog : Prog L ι σ ε α}
    (hprog : prog.SafeFrom R E (P t) [] held s')
    (hheld : ∀ t', t' ≠ t → Compatible held (c.threads t').held)
    (hguar : R.Guar (c.threads t).held c.state s') :
    (c.update t s' held prog).Safe R E P s where
  thread t' := by
    by_cases ht : t' = t
    · subst ht
      rw [update_self]
      exact hprog
    · rw [update_of_ne c ht]
      exact (h.thread t').rely (R.compatible (h.compatible t t' (Ne.symm ht)) hguar)
  compatible t₁ t₂ hne := by
    by_cases h₁ : t₁ = t
    · subst h₁
      rw [update_self, update_of_ne c (Ne.symm hne)]
      exact hheld t₂ (Ne.symm hne)
    · rw [update_of_ne c h₁]
      by_cases h₂ : t₂ = t
      · subst h₂
        rw [update_self]
        exact (hheld t₁ h₁).symm
      · rw [update_of_ne c h₂]
        exact h.compatible t₁ t₂ hne
  rely := by
    have hnone : Compatible (c.threads t).held [] := fun _ _ _ hm => absurd hm List.not_mem_nil
    exact R.rely_trans h.rely (R.compatible hnone hguar)

theorem Safe.step {c c' : Pool T L ι σ ε α} (h : c.Safe R E P s) (hstep : Step c c') :
    c'.Safe R E P s := by
  cases hstep with
  | @lock t held l m next ht hfree =>
    have hthread := h.thread t
    rw [ht] at hthread
    refine h.update (hthread c.state (R.rely_refl held c.state)) (fun t' ht' => ?_)
      (R.guar_refl _ _)
    intro h₁ hm₁ h₂ hm₂ heq
    rcases List.mem_cons.mp hm₁ with rfl | hold
    · exact hfree t' h₂ hm₂ heq.symm
    · have hcompat := h.compatible t t' (Ne.symm ht')
      rw [ht] at hcompat
      exact hcompat h₁ hold h₂ hm₂ heq
  | @unlock t held l m next ht =>
    have hthread := h.thread t
    rw [ht] at hthread
    obtain ⟨rest, hheld, hrest⟩ := hthread
    cases hheld
    refine h.update (hrest c.state (R.rely_refl _ c.state)) (fun t' ht' => ?_)
      (R.guar_refl _ _)
    have hcompat := h.compatible t t' (Ne.symm ht')
    rw [ht] at hcompat
    exact fun h₁ hm₁ => hcompat h₁ (List.mem_cons_of_mem _ hm₁)
  | @step t held write next ht i =>
    have hthread := h.thread t
    rw [ht] at hthread
    obtain ⟨hguar, hnext⟩ := hthread i c.state (R.rely_refl held c.state)
    refine h.update hnext (fun t' ht' => ?_) ?_
    · have hcompat := h.compatible t t' (Ne.symm ht')
      rw [ht] at hcompat
      exact hcompat
    · rw [ht]
      exact hguar

theorem Safe.run {c c' : Pool T L ι σ ε α} (h : c.Safe R E P s)
    (hrun : Relation.ReflTransGen Step c c') : c'.Safe R E P s := by
  induction hrun with
  | refl => exact h
  | tail _ hstep ih => exact ih.step hstep

omit [DecidableEq T] in
/-- What a thread has returned, and what holds of it. -/
theorem Safe.done {c : Pool T L ι σ ε α} (h : c.Safe R E P s) {t : T} {a : α}
    (ht : (c.threads t).prog = .done a) : P t a c.state := by
  have hthread := h.thread t
  rw [ht] at hthread
  exact hthread.2 c.state (R.rely_refl _ c.state)

/-- Programs that are safe each on its own are safe together. -/
theorem Reachable.safe {progs : T → Prog L ι σ ε α} {c : Pool T L ι σ ε α}
    (hc : Reachable s progs c) (hprogs : ∀ t, Prog.Safe R E [] (progs t) s (P t)) :
    c.Safe R E P s := by
  refine hc.invariant ⟨hprogs, fun _ _ _ _ hm => absurd hm List.not_mem_nil, ?_⟩
    fun _ _ h => h.step
  exact R.rely_refl [] s

end Pool

end CoreBanking
