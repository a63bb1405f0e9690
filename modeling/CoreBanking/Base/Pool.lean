import CoreBanking.Base.Program
import Mathlib.Data.DFinsupp.WellFounded
import Mathlib.Logic.Relation
import Mathlib.SetTheory.Cardinal.Order

/-!
# Pools of threads

Threads that run programs over one state. A thread makes its next step when the scheduler
picks it, in any order. A lock has one writer or any number of readers; in which of several
threads' favour a lock goes is not said.

- `Pool.Step`, `Pool.Reachable`: the steps of a pool, and where they lead;
- `Prog.Orderly`: a program takes locks in the order of their rank, gives them back in the
  opposite order, and ends with those it began with. `Prog.Ascends` has a rule for each way of
  building a program;
- `Pool.run_part`: such a thread can go on alone, while the others hold no locks;
- `Pool.exists_canStep`: then some thread can go on, as long as one has not ended. That stays
  so where a waiting writer keeps new readers out (`Pool.CanStep`);
- `Pool.no_infinite_run`: finitely many threads make finitely many steps.
-/

namespace CoreBanking

/-- A thread: the locks it holds, the last one first, and what is left of its program. -/
structure Thread (L ι σ ε α : Type) where
  held : List (L × Mode)
  prog : Prog L ι σ ε α

/-- Threads over one state. -/
structure Pool (T L ι σ ε α : Type) where
  state : σ
  threads : T → Thread L ι σ ε α

namespace Pool

variable {T L ι σ ε α : Type}

/-! ## Steps -/

/-- The lock may be taken: nobody holds it, or only readers do and one more comes. -/
def Free (c : Pool T L ι σ ε α) (l : L) (m : Mode) : Prop :=
  ∀ t, ∀ h ∈ (c.threads t).held, h.1 = l → m = .read ∧ h.2 = .read

variable [DecidableEq T]

/-- The pool in which one thread has gone on. -/
def update (c : Pool T L ι σ ε α) (t : T) (s : σ) (held : List (L × Mode))
    (prog : Prog L ι σ ε α) : Pool T L ι σ ε α where
  state := s
  threads := Function.update c.threads t ⟨held, prog⟩

@[simp] theorem update_self (c : Pool T L ι σ ε α) (t : T) (s : σ) (held : List (L × Mode))
    (prog : Prog L ι σ ε α) : (c.update t s held prog).threads t = ⟨held, prog⟩ :=
  Function.update_self ..

theorem update_of_ne (c : Pool T L ι σ ε α) {t t' : T} (h : t' ≠ t) (s : σ)
    (held : List (L × Mode)) (prog : Prog L ι σ ε α) :
    (c.update t s held prog).threads t' = c.threads t' :=
  Function.update_of_ne h ..

@[simp] theorem update_update (c : Pool T L ι σ ε α) (t : T) (s s' : σ)
    (held held' : List (L × Mode)) (prog prog' : Prog L ι σ ε α) :
    (c.update t s held prog).update t s' held' prog' = c.update t s' held' prog' := by
  rw [update, update, update]
  exact congrArg _ (Function.update_idem ..)

theorem update_eq_self {c : Pool T L ι σ ε α} {t : T} {held : List (L × Mode)}
    {prog : Prog L ι σ ε α} (ht : c.threads t = ⟨held, prog⟩) :
    c.update t c.state held prog = c := by
  rw [update, ← ht, Function.update_eq_self]

/-- The steps of a pool. -/
inductive Step (c : Pool T L ι σ ε α) : Pool T L ι σ ε α → Prop
  | lock {t : T} {held : List (L × Mode)} {l : L} {m : Mode} {next : Prog L ι σ ε α}
      (ht : c.threads t = ⟨held, .lock l m next⟩) (hfree : c.Free l m) :
      Step c (c.update t c.state ((l, m) :: held) next)
  | unlock {t : T} {held : List (L × Mode)} {l : L} {m : Mode} {next : Prog L ι σ ε α}
      (ht : c.threads t = ⟨(l, m) :: held, .unlock l m next⟩) :
      Step c (c.update t c.state held next)
  | step {t : T} {held : List (L × Mode)} {write : ι → σ → σ}
      {next : ι → σ → Prog L ι σ ε α} (ht : c.threads t = ⟨held, .step write next⟩) (i : ι) :
      Step c (c.update t (write i c.state) held (next i c.state))

/-- The pool of programs that start together. -/
def start (s : σ) (progs : T → Prog L ι σ ε α) : Pool T L ι σ ε α where
  state := s
  threads t := ⟨[], progs t⟩

/-- Some schedule leads from the start to the pool. -/
def Reachable (s : σ) (progs : T → Prog L ι σ ε α) (c : Pool T L ι σ ε α) : Prop :=
  Relation.ReflTransGen Step (start s progs) c

/-- What the steps keep holds wherever they lead. -/
theorem Reachable.invariant {s : σ} {progs : T → Prog L ι σ ε α} {I : Pool T L ι σ ε α → Prop}
    {c : Pool T L ι σ ε α} (hc : Reachable s progs c) (hstart : I (start s progs))
    (hstep : ∀ c c', I c → Step c c' → I c') : I c := by
  induction hc with
  | refl => exact hstart
  | tail _ hlast ih => exact hstep _ _ ih hlast

end Pool

/-! ## The order of locks -/

/-- With the locks `held`, the program takes only locks above them, gives the last one back
first, and ends holding `base`. -/
def Prog.Orderly {L ι σ ε α : Type} (rank : L → ℕ) (base : List (L × Mode)) :
    List (L × Mode) → Prog L ι σ ε α → Prop
  | held, .done _ => held = base
  | held, .fail _ => held = base
  | held, .lock l m next =>
    (∀ h ∈ held, rank h.1 < rank l) ∧ next.Orderly rank base ((l, m) :: held)
  | held, .unlock l m next => ∃ rest, held = (l, m) :: rest ∧ next.Orderly rank base rest
  | held, .step _ next => ∀ i s, (next i s).Orderly rank base held

namespace Prog

variable {L ι σ ε ε' α β : Type} {rank : L → ℕ} {base base' held : List (L × Mode)}

namespace Orderly

theorem andThen {p : Prog L ι σ ε α} (hp : p.Orderly rank base held)
    {f : Except ε α → Prog L ι σ ε' β} (hf : ∀ r, (f r).Orderly rank base' base) :
    (p.andThen f).Orderly rank base' held := by
  induction p generalizing held with
  | done a =>
    cases hp
    exact hf (.ok a)
  | fail e =>
    cases hp
    exact hf (.error e)
  | lock l m next ih => exact ⟨hp.1, ih hp.2⟩
  | unlock l m next ih =>
    obtain ⟨rest, heq, hrest⟩ := hp
    exact ⟨rest, heq, ih hrest⟩
  | step write next ih => exact fun i s => ih i s (hp i s)

theorem ofExcept (r : Except ε α) :
    (Prog.ofExcept r : Prog L ι σ ε α).Orderly rank held held := by
  cases r <;> rfl

end Orderly

/-- The program takes locks of rank `n` or more, in the order of their rank, and gives them
all back. -/
def Ascends (rank : L → ℕ) (n : ℕ) (p : Prog L ι σ ε α) : Prop :=
  ∀ held, (∀ h ∈ held, rank h.1 < n) → p.Orderly rank held held

namespace Ascends

variable {n : ℕ}

theorem pure (a : α) : (Pure.pure a : Prog L ι σ ε α).Ascends rank n := fun _ _ => rfl

theorem fail (e : ε) : (Prog.fail e : Prog L ι σ ε α).Ascends rank n := fun _ _ => rfl

theorem andThen {p : Prog L ι σ ε α} (hp : p.Ascends rank n) {f : Except ε α → Prog L ι σ ε' β}
    (hf : ∀ r, (f r).Ascends rank n) : (p.andThen f).Ascends rank n :=
  fun held hheld => (hp held hheld).andThen fun r => hf r held hheld

theorem bind {p : Prog L ι σ ε α} (hp : p.Ascends rank n) {f : α → Prog L ι σ ε β}
    (hf : ∀ a, (f a).Ascends rank n) : (p >>= f).Ascends rank n := by
  refine hp.andThen fun r => ?_
  cases r with
  | ok a => exact hf a
  | error e => exact fail e

theorem ofExcept (r : Except ε α) : (Prog.ofExcept r : Prog L ι σ ε α).Ascends rank n := by
  cases r with
  | ok a => exact pure a
  | error e => exact fail e

theorem mapError {p : Prog L ι σ ε α} (hp : p.Ascends rank n) (g : ε → ε') :
    (p.mapError g).Ascends rank n := by
  refine hp.andThen fun r => ?_
  cases r with
  | ok a => exact pure a
  | error e => exact fail (g e)

theorem recover {p : Prog L ι σ ε α} (hp : p.Ascends rank n) (g : ε → α) :
    (p.recover g : Prog L ι σ ε' α).Ascends rank n := by
  refine hp.andThen fun r => ?_
  cases r with
  | ok a => exact pure a
  | error e => exact pure (g e)

/-- What is taken under a lock is above it. -/
theorem withLock {l : L} (hl : n ≤ rank l) (m : Mode) {p : Prog L ι σ ε α}
    (hp : p.Ascends rank (rank l + 1)) : (Prog.withLock l m p).Ascends rank n := by
  intro held hheld
  have hbelow : ∀ h ∈ held, rank h.1 < rank l := fun h hm => lt_of_lt_of_le (hheld h hm) hl
  have hinside : ∀ h ∈ (l, m) :: held, rank h.1 < rank l + 1 := by
    intro h hm
    rcases List.mem_cons.mp hm with rfl | hm
    · exact Nat.lt_succ_self _
    · exact Nat.lt_succ_of_lt (hbelow h hm)
  exact ⟨hbelow, (hp _ hinside).andThen fun r => ⟨held, rfl, .ofExcept r⟩⟩

theorem critical (x : ι → Call σ ε α) : (Prog.critical x : Prog L ι σ ε α).Ascends rank n := by
  intro held _ i s
  show (Prog.ofResult (x i s)).Orderly rank held held
  cases x i s with
  | ok a s' => rfl
  | error e s' => rfl

theorem clock : (Prog.clock : Prog L ι σ ε ι).Ascends rank n := fun _ _ _ _ => rfl

theorem forM {κ : Type} {f : κ → Prog L ι σ ε PUnit} (hf : ∀ k, (f k).Ascends rank n)
    (ks : List κ) : (ks.forM f).Ascends rank n := by
  induction ks with
  | nil => exact pure _
  | cons k ks ih => exact (hf k).bind fun _ => ih

theorem mapM {κ : Type} {f : κ → Prog L ι σ ε β} (hf : ∀ k, (f k).Ascends rank n)
    (ks : List κ) : (ks.mapM f).Ascends rank n := by
  induction ks with
  | nil => exact pure _
  | cons k ks ih =>
    rw [List.mapM_cons]
    exact (hf k).bind fun _ => ih.bind fun _ => pure _

/-- A program that takes higher locks only does not take lower ones. -/
theorem mono {n' : ℕ} {p : Prog L ι σ ε α} (hp : p.Ascends rank n') (hn : n ≤ n') :
    p.Ascends rank n :=
  fun held hheld => hp held fun h hm => lt_of_lt_of_le (hheld h hm) hn

end Ascends

/-- The program has ended. -/
def Ended : Prog L ι σ ε α → Prop
  | .done _ => True
  | .fail _ => True
  | _ => False

end Prog

namespace Pool

variable {T L ι σ ε α : Type} {rank : L → ℕ}

/-- All threads keep the order of locks, and end with none. -/
def Orderly (rank : L → ℕ) (c : Pool T L ι σ ε α) : Prop :=
  ∀ t, (c.threads t).prog.Orderly rank [] (c.threads t).held

/-! ## No deadlock -/

/-- The thread can go on. A reader waits for the writers that wait already. -/
def CanStep (c : Pool T L ι σ ε α) (t : T) : Prop :=
  match (c.threads t).prog with
  | .done _ => False
  | .fail _ => False
  | .lock l .write _ => c.Free l .write
  | .lock l .read _ => c.Free l .read ∧ ∀ t' next, (c.threads t').prog ≠ .lock l .write next
  | .unlock _ _ _ => True
  | .step _ _ => True

/-- A thread that holds a lock has not ended: it can go on, or it waits for a higher lock. -/
theorem Orderly.holder {c : Pool T L ι σ ε α} (hc : c.Orderly rank) {t : T} {h : L × Mode}
    (hheld : h ∈ (c.threads t).held) :
    c.CanStep t ∨ ∃ l m next, (c.threads t).prog = .lock l m next ∧ rank h.1 < rank l := by
  have ht := hc t
  unfold CanStep
  cases hprog : (c.threads t).prog with
  | done a =>
    rw [hprog] at ht
    rw [show (c.threads t).held = [] from ht] at hheld
    cases hheld
  | fail e =>
    rw [hprog] at ht
    rw [show (c.threads t).held = [] from ht] at hheld
    cases hheld
  | lock l m next =>
    rw [hprog] at ht
    exact .inr ⟨l, m, next, rfl, ht.1 h hheld⟩
  | unlock l m next => exact .inl trivial
  | step write next => exact .inl trivial

/-- Who holds a lock that is not free. -/
theorem exists_holder {c : Pool T L ι σ ε α} {l : L} {m : Mode} (hfree : ¬c.Free l m) :
    ∃ t, ∃ h ∈ (c.threads t).held, h.1 = l := by
  unfold Free at hfree
  push Not at hfree
  obtain ⟨t, h, hheld, hl, -⟩ := hfree
  exact ⟨t, h, hheld, hl⟩

/-- Behind a thread that waits for a lock there is one that can go on. -/
theorem Orderly.canStep_of_waiting {c : Pool T L ι σ ε α} (hc : c.Orderly rank) {bound : ℕ}
    (hbound : ∀ l, rank l < bound) {t : T} {l : L} {m : Mode} {next : Prog L ι σ ε α}
    (ht : (c.threads t).prog = .lock l m next) : ∃ t', c.CanStep t' := by
  -- the locks that a chain of waiting threads waits for go up
  induction hn : bound - rank l using Nat.strong_induction_on generalizing t l m next with
  | _ n ih =>
    subst hn
    have hblocked : ∀ {m'}, ¬c.Free l m' → ∃ t', c.CanStep t' := by
      intro m' hfree
      obtain ⟨t', h, hheld, rfl⟩ := exists_holder hfree
      rcases hc.holder hheld with hcan | ⟨l', m', next', ht', hlt⟩
      · exact ⟨t', hcan⟩
      · have hl' := hbound l'
        exact ih _ (by omega) ht' rfl
    by_cases hwriter : ∃ t' next', (c.threads t').prog = .lock l .write next'
    · obtain ⟨t', next', ht'⟩ := hwriter
      by_cases hfree : c.Free l .write
      · refine ⟨t', ?_⟩
        rw [CanStep, ht']
        exact hfree
      · exact hblocked hfree
    · push Not at hwriter
      cases m with
      | write => exact absurd ht (hwriter t next)
      | read =>
        by_cases hfree : c.Free l .read
        · refine ⟨t, ?_⟩
          rw [CanStep, ht]
          exact ⟨hfree, hwriter⟩
        · exact hblocked hfree

/-- **No deadlock**: some thread can go on, if one has not ended. -/
theorem Orderly.exists_canStep {c : Pool T L ι σ ε α} (hc : c.Orderly rank) {bound : ℕ}
    (hbound : ∀ l, rank l < bound) {t : T} (ht : ¬(c.threads t).prog.Ended) :
    ∃ t', c.CanStep t' := by
  cases hprog : (c.threads t).prog with
  | done a =>
    rw [hprog] at ht
    exact absurd trivial ht
  | fail e =>
    rw [hprog] at ht
    exact absurd trivial ht
  | lock l m next => exact hc.canStep_of_waiting hbound hprog
  | unlock l m next =>
    refine ⟨t, ?_⟩
    rw [CanStep, hprog]
    trivial
  | step write next =>
    refine ⟨t, ?_⟩
    rw [CanStep, hprog]
    trivial

variable [DecidableEq T]

/-- A thread that can go on makes a step, at any input. -/
theorem Orderly.step_of_canStep [Nonempty ι] {c : Pool T L ι σ ε α} (hc : c.Orderly rank)
    {t : T} (ht : c.CanStep t) : ∃ c', Step c c' := by
  obtain ⟨i⟩ := ‹Nonempty ι›
  have horder := hc t
  cases hthread : c.threads t with
  | mk held prog =>
    rw [CanStep, hthread] at ht
    rw [hthread] at horder
    cases prog with
    | done a => exact absurd ht not_false
    | fail e => exact absurd ht not_false
    | lock l m next =>
      cases m with
      | read => exact ⟨_, .lock hthread ht.1⟩
      | write => exact ⟨_, .lock hthread ht⟩
    | unlock l m next =>
      obtain ⟨rest, hheld, -⟩ := horder
      cases hheld
      exact ⟨_, .unlock hthread⟩
    | step write next => exact ⟨_, .step hthread i⟩

/-- What is left of a program keeps the order. -/
theorem Orderly.step {c c' : Pool T L ι σ ε α} (hc : c.Orderly rank) (hstep : Step c c') :
    c'.Orderly rank := by
  have hupdate : ∀ (t : T) (s : σ) held (prog : Prog L ι σ ε α), prog.Orderly rank [] held →
      (c.update t s held prog).Orderly rank := by
    intro t s held prog hprog t'
    by_cases ht : t' = t
    · subst ht
      rwa [update_self]
    · rw [update_of_ne c ht]
      exact hc t'
  cases hstep with
  | @lock t held l m next ht hfree =>
    have horder := hc t
    rw [ht] at horder
    exact hupdate _ _ _ _ horder.2
  | @unlock t held l m next ht =>
    have horder := hc t
    rw [ht] at horder
    obtain ⟨rest, hheld, hrest⟩ := horder
    cases hheld
    exact hupdate _ _ _ _ hrest
  | @step t held write next ht i =>
    have horder := hc t
    rw [ht] at horder
    exact hupdate _ _ _ _ (horder i c.state)

/-- **A thread can run alone**: while the others hold no locks, a thread that keeps the order
can go on to the end of a part of its program, and then has done what that part does alone. -/
theorem run_part {ε' β : Type} (i : ι) {p : Prog L ι σ ε' β}
    {f : Except ε' β → Prog L ι σ ε α} {t : T} {held base : List (L × Mode)}
    {c : Pool T L ι σ ε α} (ht : c.threads t = ⟨held, p.andThen f⟩)
    (hp : p.Orderly rank base held) (hothers : ∀ t', t' ≠ t → (c.threads t').held = []) :
    Relation.ReflTransGen Step c (c.update t ((p.alone i).final c.state) base
      (f (Call.outcome (p.alone i c.state)))) := by
  -- one step, and the run from there
  have hgo : ∀ {c : Pool T L ι σ ε α} {s s' : σ} {held held' : List (L × Mode)}
      {next last : Prog L ι σ ε α}, Step c (c.update t s held next) →
      Relation.ReflTransGen Step (c.update t s held next)
        ((c.update t s held next).update t s' held' last) →
      Relation.ReflTransGen Step c (c.update t s' held' last) := by
    intro c s s' held held' next last hstep hrun
    rw [update_update] at hrun
    exact .head hstep hrun
  have hkept : ∀ {c : Pool T L ι σ ε α} (s : σ) (held : List (L × Mode))
      (next : Prog L ι σ ε α), (∀ t', t' ≠ t → (c.threads t').held = []) →
      ∀ t', t' ≠ t → ((c.update t s held next).threads t').held = [] := by
    intro c s held next hothers t' hne
    rw [update_of_ne c hne]
    exact hothers t' hne
  induction p generalizing held c with
  | done a =>
    obtain rfl : held = base := hp
    have hself : c.update t c.state held (f (.ok a)) = c := update_eq_self ht
    show Relation.ReflTransGen Step c (c.update t c.state held (f (.ok a)))
    rw [hself]
  | fail e =>
    obtain rfl : held = base := hp
    have hself : c.update t c.state held (f (.error e)) = c := update_eq_self ht
    show Relation.ReflTransGen Step c (c.update t c.state held (f (.error e)))
    rw [hself]
  | lock l m next ih =>
    have hfree : c.Free l m := by
      intro t' h hh hl
      by_cases hne : t' = t
      · subst hne
        rw [ht] at hh
        have hlt := hp.1 h hh
        rw [hl] at hlt
        exact absurd hlt (lt_irrefl _)
      · rw [hothers t' hne] at hh
        exact absurd hh List.not_mem_nil
    exact hgo (.lock ht hfree) (ih (update_self ..) hp.2 (hkept _ _ _ hothers))
  | unlock l m next ih =>
    obtain ⟨rest, rfl, hrest⟩ := hp
    exact hgo (.unlock ht) (ih (update_self ..) hrest (hkept _ _ _ hothers))
  | step write next ih =>
    exact hgo (.step ht i) (ih i c.state (update_self ..) (hp i c.state) (hkept _ _ _ hothers))

/-- The same where nobody holds a lock, before and after. -/
theorem exists_run_part {ε' β : Type} (i : ι) {p : Prog L ι σ ε' β}
    {f : Except ε' β → Prog L ι σ ε α} {t : T} {c : Pool T L ι σ ε α}
    (ht : c.threads t = ⟨[], p.andThen f⟩) (hp : p.Ascends rank 0)
    (hidle : ∀ t', (c.threads t').held = []) : ∃ c', Relation.ReflTransGen Step c c' ∧
      c'.state = (p.alone i).final c.state ∧
      c'.threads t = ⟨[], f (Call.outcome (p.alone i c.state))⟩ ∧
      (∀ t', t' ≠ t → c'.threads t' = c.threads t') ∧ ∀ t', (c'.threads t').held = [] := by
  have hrun := run_part i ht (hp [] fun _ h => absurd h List.not_mem_nil) fun t' _ => hidle t'
  refine ⟨_, hrun, rfl, update_self .., fun t' ht' => update_of_ne c ht' .., fun t' => ?_⟩
  by_cases ht' : t' = t
  · rw [ht', update_self]
  · rw [update_of_ne c ht']
    exact hidle t'

theorem Reachable.orderly {s : σ} {progs : T → Prog L ι σ ε α} {c : Pool T L ι σ ε α}
    (hc : Reachable s progs c) (hprogs : ∀ t, (progs t).Ascends rank 0) : c.Orderly rank := by
  refine hc.invariant (fun t => ?_) fun _ _ h => h.step
  exact hprogs t [] fun _ hm => absurd hm List.not_mem_nil

end Pool

/-! ## Every schedule ends -/

/-- A program and what is left of it after a step. -/
inductive Prog.Left {L ι σ ε α : Type} : Prog L ι σ ε α → Prog L ι σ ε α → Prop
  | lock (l : L) (m : Mode) (next : Prog L ι σ ε α) : Left next (.lock l m next)
  | unlock (l : L) (m : Mode) (next : Prog L ι σ ε α) : Left next (.unlock l m next)
  | step (write : ι → σ → σ) (next : ι → σ → Prog L ι σ ε α) (i : ι) (s : σ) :
    Left (next i s) (.step write next)

theorem Prog.wellFounded_left {L ι σ ε α : Type} :
    WellFounded (Prog.Left : Prog L ι σ ε α → Prog L ι σ ε α → Prop) := by
  refine ⟨fun p => ?_⟩
  induction p with
  | done a => exact ⟨_, fun q hq => by cases hq⟩
  | fail e => exact ⟨_, fun q hq => by cases hq⟩
  | lock l m next ih =>
    refine ⟨_, fun q hq => ?_⟩
    cases hq
    exact ih
  | unlock l m next ih =>
    refine ⟨_, fun q hq => ?_⟩
    cases hq
    exact ih
  | step write next ih =>
    refine ⟨_, fun q hq => ?_⟩
    cases hq with
    | step _ _ i s => exact ih i s

namespace Pool

variable {T L ι σ ε α : Type} [DecidableEq T]

/-- A step takes a step off the program of one thread. -/
theorem Step.left {c c' : Pool T L ι σ ε α} (hstep : Step c c') :
    ∃ t, (c'.threads t).prog.Left (c.threads t).prog ∧
      ∀ t', t' ≠ t → (c'.threads t').prog = (c.threads t').prog := by
  have hother : ∀ (t : T) (s : σ) held (prog : Prog L ι σ ε α), ∀ t', t' ≠ t →
      ((c.update t s held prog).threads t').prog = (c.threads t').prog := by
    intro t s held prog t' ht'
    rw [update_of_ne c ht']
  cases hstep with
  | @lock t held l m next ht hfree =>
    refine ⟨t, ?_, hother _ _ _ _⟩
    rw [update_self, ht]
    exact .lock l m next
  | @unlock t held l m next ht =>
    refine ⟨t, ?_, hother _ _ _ _⟩
    rw [update_self, ht]
    exact .unlock l m next
  | @step t held write next ht i =>
    refine ⟨t, ?_, hother _ _ _ _⟩
    rw [update_self, ht]
    exact .step write next i c.state

/-- Finitely many threads make finitely many steps, however they are scheduled. -/
theorem wellFounded_step [Finite T] :
    WellFounded fun c' c : Pool T L ι σ ε α => Step c c' := by
  let lex := Pi.Lex (WellOrderingRel (α := T)) fun {_} (p q : Prog L ι σ ε α) => p.Left q
  have hlex : WellFounded lex := Pi.Lex.wellFounded _ fun _ => Prog.wellFounded_left
  refine Subrelation.wf ?_ (InvImage.wf (fun c t => (c.threads t).prog) hlex)
  intro c' c hstep
  obtain ⟨t, hleft, hother⟩ := hstep.left
  refine ⟨t, fun t' ht' => hother t' ?_, hleft⟩
  rintro rfl
  exact irrefl t' ht'

theorem no_infinite_run [Finite T] (run : ℕ → Pool T L ι σ ε α) :
    ¬∀ n, Step (run n) (run (n + 1)) := by
  intro hrun
  obtain ⟨c, ⟨n, rfl⟩, hmin⟩ := wellFounded_step.has_min (Set.range run) ⟨run 0, 0, rfl⟩
  exact hmin (run (n + 1)) ⟨n + 1, rfl⟩ (hrun n)

end Pool

end CoreBanking
