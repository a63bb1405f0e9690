import CoreBanking.Base.Run
import CoreBanking.Base.Sorting

/-!
# The order of creation

The entities of one kind that a state holds in a map, and a run of steps, each taken
at some time, that may add to them. An entity was created before another if the run
has a prefix that leads to a state with the first and without the second.

- `EntityKind.Creates`: what a step may do to the entities of a kind;
- `Creation`: what all steps do, under an invariant. Then the order of creation is
  total (`createdBefore_total`), and the stamps follow it if the clock does
  (`createdAt_le`);
- `Listing`: what a listing by creation time, then id, returns (`Creation.listing_sort`,
  `Creation.listing`). It is in the order of creation exactly if the ids settle ties in
  that order (`pairwise_created_iff`).
-/

namespace CoreBanking

/-- The entities of a kind: where a state holds them, under which ids, and the time
each was stamped with. -/
structure EntityKind (S K V : Type) where
  entities : S → GoMap K V
  id : V → K
  name : K → String
  createdAt : V → Time
  name_inj : Function.Injective name

namespace EntityKind

variable {S I K V : Type} [DecidableEq K]

/-- A step keeps the entities and their stamps, and creates one at most, with a stamp of
its own time. -/
structure Creates (kind : EntityKind S K V) (now : Time) (s s' : S) : Prop where
  kept : ∀ k v, (kind.entities s).lookup k = some v →
    ∃ v', (kind.entities s').lookup k = some v' ∧ kind.createdAt v' = kind.createdAt v
  new : ∀ k v, (kind.entities s').lookup k = some v → k ∉ kind.entities s →
    kind.createdAt v = now
  single : ∀ k k', k ∈ kind.entities s' → k' ∈ kind.entities s' → k ∉ kind.entities s →
    k' ∉ kind.entities s → k = k'

variable {kind : EntityKind S K V} {now : Time} {s s' : S}

theorem Creates.of_eq (h : kind.entities s' = kind.entities s) : kind.Creates now s s' where
  kept k v hk := ⟨v, by rw [h, hk], rfl⟩
  new k v hk hnew := absurd (h ▸ Finmap.mem_of_lookup_eq_some hk) hnew
  single k k' hk _ hnew _ := absurd (h ▸ hk) hnew

/-- A new entity under an id that was not in use. -/
theorem Creates.of_insert {k : K} {v : V}
    (h : kind.entities s' = (kind.entities s).insert k v)
    (hfresh : (kind.entities s).lookup k = none) (hstamp : kind.createdAt v = now) :
    kind.Creates now s s' where
  kept k' v' hk' := by
    refine ⟨v', ?_, rfl⟩
    rw [h]
    exact (Finmap.lookup_insert_fresh hfresh).mpr (.inr hk')
  new k' v' hk' hnew := by
    rw [h] at hk'
    rcases (Finmap.lookup_insert_fresh hfresh).mp hk' with ⟨-, rfl⟩ | hold
    · exact hstamp
    · exact absurd (Finmap.mem_of_lookup_eq_some hold) hnew
  single k₁ k₂ hk₁ hk₂ hnew₁ hnew₂ := by
    rw [h] at hk₁ hk₂
    rw [(Finmap.mem_insert.mp hk₁).resolve_right hnew₁,
      (Finmap.mem_insert.mp hk₂).resolve_right hnew₂]

/-- An entity that is written again keeps its stamp. -/
theorem Creates.of_update {k : K} {v v' : V} (hk : (kind.entities s).lookup k = some v)
    (h : kind.entities s' = (kind.entities s).insert k v')
    (hstamp : kind.createdAt v' = kind.createdAt v) : kind.Creates now s s' where
  kept k₁ v₁ hk₁ := by
    rw [h, Finmap.lookup_insert_ite]
    by_cases heq : k₁ = k
    · rw [if_pos heq]
      rw [heq, hk] at hk₁
      cases hk₁
      exact ⟨v', rfl, hstamp⟩
    · rw [if_neg heq]
      exact ⟨v₁, hk₁, rfl⟩
  new k₁ v₁ hk₁ hnew := by
    rw [h] at hk₁
    rcases Finmap.lookup_insert_eq_some.mp hk₁ with ⟨rfl, -⟩ | ⟨-, hold⟩
    · exact absurd (Finmap.mem_of_lookup_eq_some hk) hnew
    · exact absurd (Finmap.mem_of_lookup_eq_some hold) hnew
  single k₁ k₂ hk₁ _ hnew₁ _ := by
    rw [h] at hk₁
    rcases Finmap.mem_insert.mp hk₁ with rfl | hold
    · exact absurd (Finmap.mem_of_lookup_eq_some hk) hnew₁
    · exact absurd hold hnew₁

/-- The first of two entities was there in the run before the second. -/
def CreatedBefore (kind : EntityKind S K V) (exec : Time × I → S → S) (s : S)
    (steps : List (Time × I)) (k k' : K) : Prop :=
  ∃ pre, pre <+: steps ∧ k ∈ kind.entities (run exec s pre) ∧
    k' ∉ kind.entities (run exec s pre)

/-- All steps from states with the invariant keep it and create as steps may, and the
entities of such a state are stored under their ids. -/
structure Creation (kind : EntityKind S K V) (exec : Time × I → S → S) (Inv : S → Prop) :
    Prop where
  keeps : ∀ i s, Inv s → Inv (exec i s)
  creates : ∀ i s, Inv s → kind.Creates i.1 s (exec i s)
  id : ∀ s, Inv s → ∀ k v, (kind.entities s).lookup k = some v → kind.id v = k

namespace Creation

variable {exec : Time × I → S → S} {Inv : S → Prop}

/-- Entities stay, with their stamps. -/
theorem run_kept (hc : kind.Creation exec Inv) (hs : Inv s) {k : K} {v : V}
    (hk : (kind.entities s).lookup k = some v) (steps : List (Time × I)) :
    ∃ v', (kind.entities (run exec s steps)).lookup k = some v' ∧
      kind.createdAt v' = kind.createdAt v := by
  induction steps generalizing s v with
  | nil => exact ⟨v, hk, rfl⟩
  | cons i is ih =>
    obtain ⟨v₁, hv₁, hstamp₁⟩ := (hc.creates i s hs).kept k v hk
    obtain ⟨v₂, hv₂, hstamp₂⟩ := ih (hc.keeps i s hs) hv₁
    exact ⟨v₂, hv₂, hstamp₂.trans hstamp₁⟩

theorem mem_run (hc : kind.Creation exec Inv) (hs : Inv s) {k : K}
    (hk : k ∈ kind.entities s) (steps : List (Time × I)) :
    k ∈ kind.entities (run exec s steps) := by
  obtain ⟨v, hv⟩ := Finmap.mem_iff.mp hk
  obtain ⟨v', hv', -⟩ := hc.run_kept hs hv steps
  exact Finmap.mem_of_lookup_eq_some hv'

/-- A new entity has the time of one of the steps. -/
theorem run_new (hc : kind.Creation exec Inv) (hs : Inv s) {k : K} {v : V}
    {steps : List (Time × I)} (hk : (kind.entities (run exec s steps)).lookup k = some v)
    (hnew : k ∉ kind.entities s) : ∃ i ∈ steps, kind.createdAt v = i.1 := by
  induction steps generalizing s with
  | nil => exact absurd (Finmap.mem_of_lookup_eq_some hk) hnew
  | cons i is ih =>
    by_cases hmem : k ∈ kind.entities (exec i s)
    · -- created by this step, and kept by the others
      obtain ⟨v₁, hv₁⟩ := Finmap.mem_iff.mp hmem
      obtain ⟨v₂, hv₂, hstamp⟩ := hc.run_kept (hc.keeps i s hs) hv₁ is
      cases hv₂.symm.trans hk
      exact ⟨i, List.mem_cons_self, hstamp.trans ((hc.creates i s hs).new k v₁ hv₁ hnew)⟩
    · obtain ⟨j, hj, hstamp⟩ := ih (hc.keeps i s hs) hk hmem
      exact ⟨j, List.mem_cons_of_mem i hj, hstamp⟩

/-- Of two entities that a run creates, one was there before the other. -/
theorem createdBefore_total (hc : kind.Creation exec Inv) (hs : Inv s)
    {steps : List (Time × I)} {k k' : K} (hne : k ≠ k')
    (hk : k ∈ kind.entities (run exec s steps))
    (hk' : k' ∈ kind.entities (run exec s steps)) (hnew : k ∉ kind.entities s)
    (hnew' : k' ∉ kind.entities s) :
    kind.CreatedBefore exec s steps k k' ∨ kind.CreatedBefore exec s steps k' k := by
  induction steps generalizing s with
  | nil => exact absurd hk hnew
  | cons i is ih =>
    by_cases hmem : k ∈ kind.entities (exec i s) <;>
      by_cases hmem' : k' ∈ kind.entities (exec i s)
    · exact absurd ((hc.creates i s hs).single k k' hmem hmem' hnew hnew') hne
    · exact .inl ⟨[i], ⟨is, rfl⟩, hmem, hmem'⟩
    · exact .inr ⟨[i], ⟨is, rfl⟩, hmem', hmem⟩
    · -- neither yet: later steps create both
      have hlater : ∀ {a b : K}, kind.CreatedBefore exec (exec i s) is a b →
          kind.CreatedBefore exec s (i :: is) a b :=
        fun ⟨pre, hpre, ha, hb⟩ =>
          ⟨i :: pre, List.cons_prefix_cons.mpr ⟨rfl, hpre⟩, ha, hb⟩
      exact (ih (hc.keeps i s hs) hk hk' hmem hmem').imp hlater hlater

theorem createdBefore_asymm (hc : kind.Creation exec Inv) (hs : Inv s)
    {steps : List (Time × I)} {k k' : K} (h : kind.CreatedBefore exec s steps k k') :
    ¬kind.CreatedBefore exec s steps k' k := by
  -- the longer of the two prefixes has what the shorter one has
  have hlonger : ∀ {pre pre' : List (Time × I)} {a : K}, pre <+: pre' →
      a ∈ kind.entities (run exec s pre) → a ∈ kind.entities (run exec s pre') := by
    rintro pre _ a ⟨post, rfl⟩ ha
    rw [run_append]
    exact hc.mem_run (run_invariant hc.keeps hs pre) ha post
  obtain ⟨pre, hpre, hk, hk'⟩ := h
  rintro ⟨pre', hpre', hmem', hmem⟩
  rcases List.prefix_or_prefix_of_prefix hpre hpre' with hle | hle
  · exact hmem (hlonger hle hk)
  · exact hk' (hlonger hle hmem')

/-- If the clock does not go back, the stamps are in the order of creation. -/
theorem createdAt_le (hc : kind.Creation exec Inv) (hs : Inv s) {steps : List (Time × I)}
    (hclock : steps.Pairwise fun i j => i.1.ns ≤ j.1.ns) {k k' : K} {v v' : V}
    (hk : (kind.entities (run exec s steps)).lookup k = some v)
    (hk' : (kind.entities (run exec s steps)).lookup k' = some v')
    (hnew : k ∉ kind.entities s) (h : kind.CreatedBefore exec s steps k k') :
    (kind.createdAt v).ns ≤ (kind.createdAt v').ns := by
  obtain ⟨pre, ⟨post, rfl⟩, hmem, hmem'⟩ := h
  have hpre : Inv (run exec s pre) := run_invariant hc.keeps hs pre
  obtain ⟨v₀, hv₀⟩ := Finmap.mem_iff.mp hmem
  obtain ⟨i, hi, hstamp⟩ := hc.run_new hs hv₀ hnew
  rw [run_append] at hk hk'
  obtain ⟨v₁, hv₁, hsame⟩ := hc.run_kept hpre hv₀ post
  cases hv₁.symm.trans hk
  obtain ⟨j, hj, hstamp'⟩ := hc.run_new hpre hk' hmem'
  rw [hsame, hstamp, hstamp']
  exact (List.pairwise_append.mp hclock).2.2 i hi j hj

end Creation

/-! ## Listings by creation time -/

/-- Of two listed entities with equal stamps, the one that was created first has the
smaller id. -/
def TiesInOrder (kind : EntityKind S K V) (exec : Time × I → S → S) (s : S)
    (steps : List (Time × I)) (l : List V) : Prop :=
  ∀ x ∈ l, ∀ y ∈ l, (kind.createdAt x).Equal (kind.createdAt y) →
    kind.CreatedBefore exec s steps (kind.id x) (kind.id y) →
    kind.name (kind.id x) < kind.name (kind.id y)

/-- The list is in the order in which the run created its elements. -/
def InCreationOrder (kind : EntityKind S K V) (exec : Time × I → S → S) (s : S)
    (steps : List (Time × I)) (l : List V) : Prop :=
  l.Pairwise fun x y => kind.CreatedBefore exec s steps (kind.id x) (kind.id y)

/-- The comparison of the entities of a kind. -/
abbrev Less (kind : EntityKind S K V) : V → V → Prop :=
  ByCreation kind.createdAt fun v => kind.name (kind.id v)

omit [DecidableEq K] in
theorem less_iff (x y : V) : kind.Less x y ↔
    toLex ((kind.createdAt x).ns, kind.name (kind.id x))
      < toLex ((kind.createdAt y).ns, kind.name (kind.id y)) :=
  byCreation_iff x y

variable {exec : Time × I → S → S} {Inv : S → Prop}

/-- **A sorted listing is in the order of creation** exactly if the ids settle ties in
that order. -/
theorem pairwise_created_iff (hc : kind.Creation exec Inv) (hs : Inv s)
    (hempty : kind.entities s = ∅) {steps : List (Time × I)}
    (hclock : steps.Pairwise fun i j => i.1.ns ≤ j.1.ns) {l : List V}
    (hmem : ∀ v ∈ l, ∃ k, (kind.entities (run exec s steps)).lookup k = some v)
    (hsorted : l.Pairwise kind.Less) :
    kind.InCreationOrder exec s steps l ↔ kind.TiesInOrder exec s steps l := by
  have hstored : ∀ v ∈ l,
      (kind.entities (run exec s steps)).lookup (kind.id v) = some v := by
    intro v hv
    obtain ⟨k, hk⟩ := hmem v hv
    rwa [hc.id _ (run_invariant hc.keeps hs steps) k v hk]
  have hnew : ∀ k, k ∉ kind.entities s := fun k => hempty ▸ Finmap.notMem_empty
  constructor
  · intro hcreated x hx y hy hequal hbefore
    have hne : x ≠ y := by
      rintro rfl
      exact hc.createdBefore_asymm hs hbefore hbefore
    rcases pair_sublist hx hy hne with hxy | hyx
    · have hless : kind.Less x y := rel_of_sublist hsorted hxy
      rwa [Less, ByCreation, if_pos hequal] at hless
    · have hall : l.Pairwise fun x y =>
          kind.CreatedBefore exec s steps (kind.id x) (kind.id y) := hcreated
      exact absurd (rel_of_sublist hall hyx) (hc.createdBefore_asymm hs hbefore)
  · intro hties
    refine List.pairwise_iff_forall_sublist.mpr fun {x y} hxy => ?_
    have hless := (less_iff x y).mp (rel_of_sublist hsorted hxy)
    have hx : x ∈ l := hxy.subset List.mem_cons_self
    have hy : y ∈ l := hxy.subset (List.mem_cons_of_mem x List.mem_cons_self)
    have hne : kind.id x ≠ kind.id y := by
      intro heq
      have hsame := hstored x hx
      rw [heq, hstored y hy] at hsame
      cases hsame
      exact lt_irrefl _ hless
    refine (hc.createdBefore_total hs hne (Finmap.mem_of_lookup_eq_some (hstored x hx))
      (Finmap.mem_of_lookup_eq_some (hstored y hy)) (hnew _) (hnew _)).resolve_right ?_
    -- the other order would need a tie, and its ids are in the wrong order
    intro hback
    have hle := hc.createdAt_le hs hclock (hstored y hy) (hstored x hx) (hnew _) hback
    rcases Prod.Lex.toLex_lt_toLex.mp hless with hlt | ⟨hequal, hname⟩
    · exact absurd hlt (not_lt.mpr hle)
    · exact lt_asymm hname (hties y hy x hx hequal.symm hback)

/-- A listing of the entities that meet `keep`, in strictly increasing order of stamp and
id, whatever choices `C` the language leaves. It is in the order of creation exactly if
ties are. -/
structure Listing (kind : EntityKind S K V) (exec : Time × I → S → S) (s : S)
    (steps : List (Time × I)) (keep : V → Prop) {C : Type} (list : C → List V) : Prop where
  same : ∀ c c', list c = list c'
  mem : ∀ c v, v ∈ list c ↔
    (kind.entities (run exec s steps)).lookup (kind.id v) = some v ∧ keep v
  sorted : ∀ c, (list c).Pairwise kind.Less
  created_iff : ∀ c, kind.InCreationOrder exec s steps (list c) ↔
    kind.TiesInOrder exec s steps (list c)

omit [DecidableEq K] in
/-- The stamp and the id tell entities apart that their ids do. -/
theorem id_eq_of_key {x y : V}
    (h : toLex ((kind.createdAt x).ns, kind.name (kind.id x))
      = toLex ((kind.createdAt y).ns, kind.name (kind.id y))) : kind.id x = kind.id y :=
  kind.name_inj (Prod.mk.inj (toLex_inj.mp h)).2

/-- A sort of the entities that meet `keep`, each taken once, is a listing. -/
theorem Creation.listing_sort (hc : kind.Creation exec Inv) (hs : Inv s)
    (hempty : kind.entities s = ∅) {steps : List (Time × I)}
    (hclock : steps.Pairwise fun i j => i.1.ns ≤ j.1.ns) {keep : V → Prop} {C : Type}
    {collect : C → List V}
    (hmem : ∀ c v, v ∈ collect c ↔
      (kind.entities (run exec s steps)).lookup (kind.id v) = some v ∧ keep v)
    (hnodup : ∀ c, ((collect c).map kind.id).Nodup) (sorter : C → SliceSort V) :
    kind.Listing exec s steps keep fun c => (sorter c).sort kind.Less (collect c) := by
  have hkeys : ∀ c, ((collect c).map fun v =>
      toLex ((kind.createdAt v).ns, kind.name (kind.id v))).Nodup := by
    intro c
    refine List.pairwise_map.mpr ((List.pairwise_map.mp (hnodup c)).imp ?_)
    exact fun hne heq => hne (id_eq_of_key heq)
  have hmem' : ∀ c v, v ∈ (sorter c).sort kind.Less (collect c) ↔
      (kind.entities (run exec s steps)).lookup (kind.id v) = some v ∧ keep v :=
    fun c v => ((sorter c).perm kind.Less _).mem_iff.trans (hmem c v)
  have hsorted : ∀ c, ((sorter c).sort kind.Less (collect c)).Pairwise kind.Less :=
    fun c => pairwise_sort less_iff (hkeys c) (sorter c)
  refine ⟨fun c c' => sort_congr less_iff (hkeys c) ?_ (sorter c) (sorter c'), hmem', hsorted,
    fun c => pairwise_created_iff hc hs hempty hclock (fun v hv => ?_) (hsorted c)⟩
  · refine (List.perm_ext_iff_of_nodup (hnodup c).of_map (hnodup c').of_map).mpr fun v => ?_
    rw [hmem c, hmem c']
  · exact ⟨kind.id v, ((hmem' c v).mp hv).1⟩

/-- A loop over the map and a sort make a listing. -/
theorem Creation.listing (hc : kind.Creation exec Inv) (hs : Inv s)
    (hempty : kind.entities s = ∅) {steps : List (Time × I)}
    (hclock : steps.Pairwise fun i j => i.1.ns ≤ j.1.ns) (keep : V → Prop)
    [DecidablePred keep] :
    kind.Listing exec s steps keep fun c : MapOrder K V × SliceSort V =>
      listed c.1 c.2 kind.Less keep (kind.entities (run exec s steps)) := by
  have hid : ∀ k v, (kind.entities (run exec s steps)).lookup k = some v → kind.id v = k :=
    hc.id _ (run_invariant hc.keeps hs steps)
  have hmem : ∀ (c : MapOrder K V × SliceSort V) v,
      v ∈ ((c.1.toList (kind.entities (run exec s steps))).map Prod.snd).filter
          (fun v => keep v) ↔
        (kind.entities (run exec s steps)).lookup (kind.id v) = some v ∧ keep v := by
    intro c v
    refine mem_values.trans (and_congr_left fun _ => ⟨?_, fun hv => ⟨kind.id v, hv⟩⟩)
    rintro ⟨k, hk⟩
    rwa [hid k v hk]
  exact hc.listing_sort hs hempty hclock hmem (fun c => nodup_values hid) Prod.snd

end EntityKind

end CoreBanking
