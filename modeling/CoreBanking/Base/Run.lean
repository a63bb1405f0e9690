import Mathlib.Init

/-!
# Runs of a state machine

A run applies a list of steps to a state, one after the other. Invariants of a
run are proved step by step: `run_invariant` when every step keeps them,
`Along.invariant` when the steps that meet a condition in the state they are
taken in do, and `along_iff_invariant` when only those do. `run_invariant_of` and
`Along.invariant_of` are for steps that keep it in the states with another
invariant. `along_iff_monotone` does the same for what a later state keeps of an
earlier one.
-/

namespace CoreBanking

variable {σ ι : Type}

/-- The state after the steps of a run. -/
def run (exec : ι → σ → σ) (s : σ) : List ι → σ
  | [] => s
  | i :: is => run exec (exec i s) is

/-- Every step of a run meets `P` in the state it is taken in. -/
def Along (exec : ι → σ → σ) (P : σ → ι → Prop) : σ → List ι → Prop
  | _, [] => True
  | s, i :: is => P s i ∧ Along exec P (exec i s) is

instance Along.decidable (exec : ι → σ → σ) (P : σ → ι → Prop)
    [∀ s i, Decidable (P s i)] : ∀ s is, Decidable (Along exec P s is)
  | _, [] => .isTrue trivial
  | s, i :: is =>
    have := Along.decidable exec P (exec i s) is
    inferInstanceAs (Decidable (P s i ∧ Along exec P (exec i s) is))

variable {exec : ι → σ → σ} {Inv : σ → Prop} {P : σ → ι → Prop}

/-- An invariant of every step is an invariant of every run. -/
theorem run_invariant (hstep : ∀ i s, Inv s → Inv (exec i s)) {s : σ}
    (h : Inv s) (is : List ι) : Inv (run exec s is) := by
  induction is generalizing s with
  | nil => exact h
  | cons i is ih => exact ih (hstep i s h)

/-- An invariant of the steps that meet `P` is an invariant of the runs all of
whose steps do. -/
theorem Along.invariant (hstep : ∀ i s, Inv s → P s i → Inv (exec i s)) {s : σ}
    (h : Inv s) {is : List ι} (hall : Along exec P s is) :
    Inv (run exec s is) := by
  induction is generalizing s with
  | nil => exact h
  | cons i is ih => exact ih (hstep i s h hall.1) hall.2

/-- An invariant of the steps from states that have another one. -/
theorem run_invariant_of {Inv' : σ → Prop} (hinv : ∀ i s, Inv s → Inv (exec i s))
    (hstep : ∀ i s, Inv s → Inv' s → Inv' (exec i s)) {s : σ} (h : Inv s) (h' : Inv' s)
    (is : List ι) : Inv' (run exec s is) := by
  induction is generalizing s with
  | nil => exact h'
  | cons i is ih => exact ih (hinv i s h) (hstep i s h h')

/-- The same of those of them that meet `P`. -/
theorem Along.invariant_of {Inv' : σ → Prop} (hinv : ∀ i s, Inv s → Inv (exec i s))
    (hstep : ∀ i s, Inv s → Inv' s → P s i → Inv' (exec i s)) {s : σ} (h : Inv s)
    (h' : Inv' s) {is : List ι} (hall : Along exec P s is) : Inv' (run exec s is) := by
  induction is generalizing s with
  | nil => exact h'
  | cons i is ih => exact ih (hinv i s h) (hstep i s h h' hall.1) hall.2

/-- What all steps meet is met along every run of them. -/
theorem Along.of_forall {Q : ι → Prop} {is : List ι} (h : ∀ i ∈ is, Q i) (s : σ) :
    Along exec (fun _ i => Q i) s is := by
  induction is generalizing s with
  | nil => trivial
  | cons i is ih =>
    exact ⟨h i List.mem_cons_self, ih (fun j hj => h j (List.mem_cons_of_mem _ hj)) _⟩

theorem Along.append {s : σ} {is js : List ι} :
    Along exec P s (is ++ js) ↔
      Along exec P s is ∧ Along exec P (run exec s is) js := by
  induction is generalizing s with
  | nil => simp [Along, run]
  | cons i is ih => simp [Along, run, ih, and_assoc]

/-- Every step of a run, in the state that the steps before it lead to. -/
theorem along_iff_split {s : σ} {is : List ι} : Along exec P s is ↔
    ∀ pre i post, is = pre ++ i :: post → P (run exec s pre) i := by
  constructor
  · rintro h pre i post rfl
    exact (Along.append.mp h).2.1
  · intro h
    induction is generalizing s with
    | nil => trivial
    | cons i is ih =>
      refine ⟨h [] i is rfl, ih fun pre j post heq => ?_⟩
      exact h (i :: pre) j post (by rw [heq]; rfl)

/-- A condition follows from another one along a run, if it does in the states with an
invariant that the other one keeps. -/
theorem Along.imp_of {Q : σ → ι → Prop} (hstep : ∀ i s, Inv s → Q s i → Inv (exec i s))
    (himp : ∀ i s, Inv s → Q s i → P s i) {s : σ} (h : Inv s) {is : List ι}
    (hall : Along exec Q s is) : Along exec P s is := by
  induction is generalizing s with
  | nil => trivial
  | cons i is ih => exact ⟨himp i s h hall.1, ih (hstep i s h hall.1) hall.2⟩

/-- Two conditions that agree in all states with an invariant are met along the same
runs. -/
theorem Along.congr {Q : σ → ι → Prop} (hstep : ∀ i s, Inv s → Inv (exec i s))
    (hiff : ∀ i s, Inv s → (P s i ↔ Q s i)) {s : σ} (h : Inv s) (is : List ι) :
    Along exec P s is ↔ Along exec Q s is := by
  induction is generalizing s with
  | nil => exact Iff.rfl
  | cons i is ih => exact and_congr (hiff i s h) (ih (hstep i s h))

/-- When, of the steps that meet `Q`, exactly those that meet `P` keep an invariant, it
holds throughout a run of steps that meet `Q` exactly if they all meet `P`. -/
theorem along_iff_invariant_of {Q : σ → ι → Prop}
    (hstep : ∀ i s, Q s i → Inv s → (Inv (exec i s) ↔ P s i)) {s : σ} (h : Inv s)
    {is : List ι} (hQ : Along exec Q s is) :
    (∀ pre, pre <+: is → Inv (run exec s pre)) ↔ Along exec P s is := by
  induction is generalizing s with
  | nil =>
    refine iff_of_true (fun pre hpre => ?_) trivial
    rw [List.prefix_nil.mp hpre]
    exact h
  | cons i is ih =>
    obtain ⟨hi, hrest⟩ := hQ
    constructor
    · intro hall
      have hnext : Inv (exec i s) := hall [i] ⟨is, rfl⟩
      refine ⟨(hstep i s hi h).mp hnext, (ih hnext hrest).mp fun pre hpre => ?_⟩
      exact hall (i :: pre) (List.cons_prefix_cons.mpr ⟨rfl, hpre⟩)
    · rintro ⟨hP, hall⟩ pre hpre
      cases pre with
      | nil => exact h
      | cons j pre =>
        obtain ⟨rfl, hpre'⟩ := List.cons_prefix_cons.mp hpre
        exact (ih ((hstep j s hi h).mpr hP) hrest).mpr hall pre hpre'

/-- The same for all steps. -/
theorem along_iff_invariant
    (hstep : ∀ i s, Inv s → (Inv (exec i s) ↔ P s i)) {s : σ} (h : Inv s)
    (is : List ι) :
    (∀ pre, pre <+: is → Inv (run exec s pre)) ↔ Along exec P s is := by
  have hall : Along exec (fun _ _ => True) s is := Along.of_forall (fun _ _ => trivial) s
  exact along_iff_invariant_of (fun i s _ => hstep i s) h hall

/-- When a step cannot regain a property, and of the steps from states that have it exactly
those that meet `P` keep it, the end of a run has it exactly if all steps meet `P`. -/
theorem along_iff_end {Good : σ → Prop} {Q : ι → Prop}
    (hinv : ∀ i s, Q i → Inv s → Inv (exec i s))
    (hback : ∀ i s, Q i → Inv s → Good (exec i s) → Good s)
    (hstep : ∀ i s, Q i → Inv s → Good s → (Good (exec i s) ↔ P s i)) {s : σ} (h : Inv s)
    (hgood : Good s) {is : List ι} (hQ : ∀ i ∈ is, Q i) :
    Good (run exec s is) ↔ Along exec P s is := by
  have hlost : ∀ (js : List ι) (t : σ), (∀ j ∈ js, Q j) → Inv t → Good (run exec t js) →
      Good t := by
    intro js
    induction js with
    | nil => exact fun t _ _ hend => hend
    | cons j js ih =>
      intro t hjs ht hend
      have hj := hjs j List.mem_cons_self
      have hnext := ih _ (fun k hk => hjs k (List.mem_cons_of_mem _ hk)) (hinv j t hj ht) hend
      exact hback j t hj ht hnext
  induction is generalizing s with
  | nil => exact iff_of_true hgood trivial
  | cons i is ih =>
    have hi := hQ i List.mem_cons_self
    have hrest : ∀ j ∈ is, Q j := fun j hj => hQ j (List.mem_cons_of_mem _ hj)
    have hnext := hinv i s hi h
    by_cases hkept : Good (exec i s)
    · have hP := (hstep i s hi h hgood).mp hkept
      exact (ih hnext hkept hrest).trans (and_iff_right hP).symm
    · refine iff_of_false (fun hend => hkept (hlost is _ hrest hnext hend)) ?_
      exact fun hall => hkept ((hstep i s hi h hgood).mpr hall.1)

theorem run_append (s : σ) (is js : List ι) :
    run exec s (is ++ js) = run exec (run exec s is) js := by
  induction is generalizing s with
  | nil => rfl
  | cons i is ih => exact ih (exec i s)

/-- What every step keeps, in the sense of a reflexive and transitive relation, every
stretch of the run keeps. -/
theorem along_iff_monotone {R : σ → σ → Prop} (hrefl : ∀ s, R s s)
    (htrans : ∀ {s t u}, R s t → R t u → R s u) (s : σ) (is : List ι) :
    (∀ pre mid, pre ++ mid <+: is → R (run exec s pre) (run exec s (pre ++ mid))) ↔
      Along exec (fun t i => R t (exec i t)) s is := by
  constructor
  · intro hall
    induction is generalizing s with
    | nil => trivial
    | cons i is ih =>
      refine ⟨hall [] [i] ⟨is, rfl⟩, ih (exec i s) fun pre mid hpre => ?_⟩
      exact hall (i :: pre) mid (List.cons_prefix_cons.mpr ⟨rfl, hpre⟩)
  · have hstretch : ∀ (js : List ι) (t : σ), Along exec (fun t i => R t (exec i t)) t js →
        R t (run exec t js) := by
      intro js
      induction js with
      | nil => exact fun t _ => hrefl t
      | cons j js ih => exact fun t hjs => htrans hjs.1 (ih (exec j t) hjs.2)
    rintro hall pre mid ⟨post, rfl⟩
    rw [List.append_assoc] at hall
    have hmid := (Along.append.mp (Along.append.mp hall).2).1
    rw [run_append]
    exact hstretch mid _ hmid

/-! ## Independent steps -/

theorem run_eq_foldl (s : σ) (is : List ι) :
    run exec s is = is.foldl (fun s i => exec i s) s := by
  induction is generalizing s with
  | nil => rfl
  | cons i is ih => exact ih (exec i s)

/-- Steps that commute may be taken in any order. -/
theorem run_perm {is js : List ι} (h : is.Perm js)
    (hcomm : ∀ i ∈ is, ∀ j ∈ is, ∀ s, exec j (exec i s) = exec i (exec j s)) (s : σ) :
    run exec s is = run exec s js := by
  rw [run_eq_foldl, run_eq_foldl]
  exact h.foldl_eq' hcomm s

/-- A map that commutes with every step commutes with every run. -/
theorem run_hom {g : σ → σ} (hg : ∀ i s, exec i (g s) = g (exec i s)) (s : σ)
    (is : List ι) : run exec (g s) is = g (run exec s is) := by
  induction is generalizing s with
  | nil => rfl
  | cons i is ih => rw [run, run, hg, ih]

/-- If no step affects whether a later one meets `P`, all may be checked at the start. -/
theorem along_iff_forall {R : ι → ι → Prop}
    (hind : ∀ i j s, R i j → (P (exec i s) j ↔ P s j)) {is : List ι} (his : is.Pairwise R)
    {s : σ} : Along exec P s is ↔ ∀ i ∈ is, P s i := by
  induction is generalizing s with
  | nil => simp [Along]
  | cons i is ih =>
    obtain ⟨hi, his⟩ := List.pairwise_cons.mp his
    rw [Along, ih his, List.forall_mem_cons]
    exact and_congr_right fun _ => forall₂_congr fun j hj => hind i j s (hi j hj)

end CoreBanking
