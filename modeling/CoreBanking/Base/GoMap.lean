import Mathlib.Data.Finmap
import Mathlib.Data.List.Sort
import Mathlib.Algebra.BigOperators.Group.Multiset.Basic
import Mathlib.Algebra.Order.BigOperators.Group.Multiset
import Mathlib.Algebra.Group.Pi.Lemmas
import Mathlib.Tactic.Abel

/-!
# Go maps as finite maps

A Go `map[K]V` has no order: a `range` loop over it may visit the entries in
any order, and two loops over one map may disagree. We model it by Mathlib's
`Finmap`, whose equality is extensional, and add what a development about
maps of money needs:

- `Finmap.find`: a lookup that fails with an error;
- `lookup_foldl_insert`: a map that a list of values was written into has the latest
  value of each key;
- `Finmap.Retains`: a map that grows, where values change at most in certain fields;
- `Finmap.sum`: the sum of a function over all entries, and how it changes when
  a key is added (`sum_insert`) or overwritten (`sum_update`);
- `Finmap.sumNew`: the sum over the keys that are new between two maps, which adds up over
  stretches (`sumNew_trans`);
- `MapOrder`: an order in which a `range` loop may visit the entries, as a
  function from maps to lists that lists exactly the entries of its argument;
- `MapOrder.byKey`: one such order that can be run.
-/

namespace CoreBanking

/-- A Go map from `K` to `V`. -/
abbrev GoMap (K V : Type) : Type := Finmap fun _ : K => V

end CoreBanking

namespace Finmap

open CoreBanking

variable {K V M : Type}

/-- The entries of a map as pairs, in no order. -/
def pairs (m : GoMap K V) : Multiset (K × V) :=
  m.entries.map fun e => (e.1, e.2)

/-- The sum of `f` over the entries of a map. -/
def sum [AddCommMonoid M] (m : GoMap K V) (f : K → V → M) : M :=
  (m.pairs.map fun e => f e.1 e.2).sum

@[simp] theorem sum_empty [AddCommMonoid M] (f : K → V → M) :
    sum (∅ : GoMap K V) f = 0 := rfl

theorem sum_add [AddCommMonoid M] (m : GoMap K V) (f g : K → V → M) :
    (m.sum fun k v => f k v + g k v) = m.sum f + m.sum g := by
  simp [sum]

theorem sum_sub [AddCommGroup M] (m : GoMap K V) (f g : K → V → M) :
    (m.sum fun k v => f k v - g k v) = m.sum f - m.sum g := by
  simp [sum]

/-- Two finite sums over maps may be exchanged. -/
theorem sum_comm [AddCommMonoid M] {K' V' : Type} (m : GoMap K V)
    (m' : GoMap K' V') (f : K → V → K' → V' → M) :
    (m.sum fun k v => m'.sum fun k' v' => f k v k' v')
      = m'.sum fun k' v' => m.sum fun k v => f k v k' v' :=
  Multiset.sum_map_sum_map ..

theorem nodup_keys (m : GoMap K V) : (m.pairs.map Prod.fst).Nodup := by
  have h : m.pairs.map Prod.fst = m.keys.val := by
    simp only [pairs, Multiset.map_map]
    rfl
  rw [h]
  exact m.keys.nodup

section Lookup

variable [DecidableEq K]

theorem mem_pairs {m : GoMap K V} {k : K} {v : V} :
    (k, v) ∈ m.pairs ↔ m.lookup k = some v := by
  rw [lookup_eq_some_iff, pairs, Multiset.mem_map]
  constructor
  · rintro ⟨⟨k', v'⟩, hmem, heq⟩
    cases heq
    exact hmem
  · intro h
    exact ⟨⟨k, v⟩, h, rfl⟩

theorem lookup_insert_ite (m : GoMap K V) (k k' : K) (v : V) :
    (m.insert k v).lookup k' = if k' = k then some v else m.lookup k' := by
  by_cases h : k' = k
  · rw [if_pos h, h, lookup_insert]
  · rw [if_neg h, lookup_insert_of_ne _ h]

theorem lookup_erase_ite (m : GoMap K V) (k k' : K) :
    (m.erase k).lookup k' = if k' = k then none else m.lookup k' := by
  by_cases h : k' = k
  · rw [if_pos h, h, lookup_erase]
  · rw [if_neg h, lookup_erase_ne h]

/-- The entries of a map after an insertion. -/
theorem lookup_insert_eq_some {m : GoMap K V} {k k' : K} {v v' : V} :
    (m.insert k v).lookup k' = some v' ↔
      (k' = k ∧ v' = v) ∨ (k' ≠ k ∧ m.lookup k' = some v') := by
  rw [lookup_insert_ite]
  split
  · next heq => simp [heq, eq_comm]
  · next hne => simp [hne]

/-- The entries of a map after a fresh key was added. -/
theorem lookup_insert_fresh {m : GoMap K V} {k : K} (h : m.lookup k = none)
    {v v' : V} {k' : K} : (m.insert k v).lookup k' = some v' ↔
      (k' = k ∧ v' = v) ∨ m.lookup k' = some v' := by
  rw [lookup_insert_eq_some]
  refine or_congr_right ⟨fun hk => hk.2, fun hk => ⟨?_, hk⟩⟩
  rintro rfl
  rw [h] at hk
  cases hk

/-- Overwriting a present key adds no other. -/
theorem lookup_update_none {m : GoMap K V} {k k' : K} {v : V} (hk : m.lookup k = some v)
    (hfresh : m.lookup k' = none) (v' : V) : (m.insert k v').lookup k' = none := by
  rw [lookup_insert_of_ne]
  · exact hfresh
  · rintro rfl
    rw [hk] at hfresh
    cases hfresh

/-- Where a map leads to something, it leads to the same after an insertion at a new key. -/
theorem map_lookup_insert_fresh {α : Type} {m : GoMap K V} {k k' : K} {v : V} {f : V → α}
    (hfresh : m.lookup k' = none) (hsome : ((m.lookup k).map f).isSome) :
    ((m.insert k' v).lookup k).map f = (m.lookup k).map f := by
  rw [Finmap.lookup_insert_of_ne]
  rintro rfl
  rw [hfresh] at hsome
  cases hsome

/-- Writing back the value a key already has changes nothing. -/
theorem insert_lookup_self {m : GoMap K V} {k : K} {v : V}
    (h : m.lookup k = some v) : m.insert k v = m := by
  refine ext_lookup fun k' => ?_
  rw [lookup_insert_ite]
  by_cases hk : k' = k
  · rw [if_pos hk, hk, h]
  · rw [if_neg hk]

/-- Overwriting a key does not see the value it had. -/
theorem insert_erase_self (m : GoMap K V) (k : K) (v : V) :
    (m.erase k).insert k v = m.insert k v := by
  refine ext_lookup fun k' => ?_
  rw [lookup_insert_ite, lookup_insert_ite]
  by_cases hk : k' = k
  · rw [if_pos hk, if_pos hk]
  · rw [if_neg hk, if_neg hk, lookup_erase_ne hk]

theorem forall_lookup_empty {P : K → V → Prop} :
    ∀ k v, (∅ : GoMap K V).lookup k = some v → P k v :=
  fun _ _ hk => absurd (mem_of_lookup_eq_some hk) notMem_empty

/-- What holds of all values of a map holds after an insertion if it holds of the new one. -/
theorem forall_lookup_insert {P : K → V → Prop} {m : GoMap K V} {k : K} {v : V}
    (h : ∀ k' v', m.lookup k' = some v' → P k' v') (hv : P k v) :
    ∀ k' v', (m.insert k v).lookup k' = some v' → P k' v' := by
  intro k' v' hk'
  rcases lookup_insert_eq_some.mp hk' with ⟨rfl, rfl⟩ | ⟨-, hold⟩
  · exact hv
  · exact h k' v' hold

/-! ## Looking up or failing -/

/-- The value of a key, or an error if there is none. -/
def find {ε : Type} (m : GoMap K V) (k : K) (missing : ε) : Except ε V :=
  match m.lookup k with
  | none => .error missing
  | some v => .ok v

theorem find_eq_ok {ε : Type} {m : GoMap K V} {k : K} {missing : ε} {v : V} :
    m.find k missing = .ok v ↔ m.lookup k = some v := by
  rw [find]
  cases m.lookup k with
  | none => simp
  | some w => simp

theorem eq_of_find_error {ε : Type} {m : GoMap K V} {k : K} {missing e : ε}
    (h : m.find k missing = .error e) : e = missing := by
  rw [find] at h
  split at h <;> cases h
  rfl

/-- A key that is in the map is found. -/
theorem find_of_mem {ε : Type} {m : GoMap K V} {k : K} (hk : k ∈ m) (missing : ε) :
    ∃ v, m.find k missing = .ok v := by
  obtain ⟨v, hv⟩ := mem_iff.mp hk
  exact ⟨v, find_eq_ok.mpr hv⟩

/-! ## Maps that grow -/

/-- The later map has the entries of the earlier one, with values that `R` relates to
theirs. -/
def Retains (R : V → V → Prop) (m m' : GoMap K V) : Prop :=
  ∀ k v, m.lookup k = some v → ∃ v', m'.lookup k = some v' ∧ R v v'

namespace Retains

variable {R : V → V → Prop} {m m' m'' : GoMap K V}

theorem refl (hrefl : ∀ v, R v v) (m : GoMap K V) : Retains R m m :=
  fun _ v hk => ⟨v, hk, hrefl v⟩

theorem trans (htrans : ∀ {u v w}, R u v → R v w → R u w) (h : Retains R m m')
    (h' : Retains R m' m'') : Retains R m m'' := by
  intro k v hk
  obtain ⟨v', hk', hR⟩ := h k v hk
  obtain ⟨v'', hk'', hR'⟩ := h' k v' hk'
  exact ⟨v'', hk'', htrans hR hR'⟩

/-- A new key takes nobody's place. -/
theorem insert (hrefl : ∀ v, R v v) {k : K} (hfresh : m.lookup k = none) (v : V) :
    Retains R m (m.insert k v) := by
  intro k' v' hk'
  exact ⟨v', (lookup_insert_fresh hfresh).mpr (.inr hk'), hrefl v'⟩

theorem update (hrefl : ∀ v, R v v) {k : K} {v v' : V} (hk : m.lookup k = some v)
    (hR : R v v') : Retains R m (m.insert k v') := by
  intro k' w hk'
  rw [lookup_insert_ite]
  by_cases heq : k' = k
  · rw [if_pos heq]
    rw [heq, hk] at hk'
    cases hk'
    exact ⟨v', rfl, hR⟩
  · rw [if_neg heq]
    exact ⟨w, hk', hrefl w⟩

theorem mem (h : Retains R m m') {k : K} (hk : k ∈ m) : k ∈ m' := by
  obtain ⟨v, hv⟩ := mem_iff.mp hk
  obtain ⟨v', hv', -⟩ := h k v hv
  exact mem_of_lookup_eq_some hv'

end Retains

/-! ## Writing a list into a map -/

/-- The element is in the list, and no later one has its key. -/
def LatestBy (f : V → K) (l : List V) (v : V) : Prop :=
  ∃ pre post, l = pre ++ v :: post ∧ ∀ w ∈ post, f w ≠ f v

omit [DecidableEq K] in
theorem latestBy_cons {f : V → K} {l : List V} {a v : V} :
    LatestBy f (a :: l) v ↔ LatestBy f l v ∨ (v = a ∧ ∀ w ∈ l, f w ≠ f v) := by
  constructor
  · rintro ⟨pre, post, heq, hlast⟩
    cases pre with
    | nil =>
      cases heq
      exact .inr ⟨rfl, hlast⟩
    | cons b pre =>
      cases heq
      exact .inl ⟨pre, post, rfl, hlast⟩
  · rintro (⟨pre, post, rfl, hlast⟩ | ⟨rfl, hlast⟩)
    · exact ⟨a :: pre, post, rfl, hlast⟩
    · exact ⟨[], l, rfl, hlast⟩

omit [DecidableEq K] in
theorem LatestBy.mem {f : V → K} {l : List V} {v : V} (h : LatestBy f l v) : v ∈ l := by
  obtain ⟨pre, post, rfl, -⟩ := h
  exact List.mem_append_right pre List.mem_cons_self

omit [DecidableEq K] in
/-- Each key of the list has a latest element. -/
theorem exists_latestBy {f : V → K} {l : List V} {v : V} (hv : v ∈ l) :
    ∃ w, LatestBy f l w ∧ f w = f v := by
  induction l generalizing v with
  | nil => exact absurd hv List.not_mem_nil
  | cons a l ih =>
    have hrest : ∀ u ∈ l, f u = f v → ∃ w, LatestBy f (a :: l) w ∧ f w = f v := by
      intro u hu heq
      obtain ⟨w, hw, hkey⟩ := ih hu
      exact ⟨w, latestBy_cons.mpr (.inl hw), hkey.trans heq⟩
    rcases List.mem_cons.mp hv with rfl | hv
    · by_cases hlater : ∃ u ∈ l, f u = f v
      · obtain ⟨u, hu, heq⟩ := hlater
        exact hrest u hu heq
      · refine ⟨v, latestBy_cons.mpr (.inr ⟨rfl, fun w hw heq => hlater ⟨w, hw, heq⟩⟩), rfl⟩
    · exact hrest v hv rfl

/-- Of the values written under a key, the latest stays. -/
theorem lookup_foldl_insert {f : V → K} {l : List V} {m : GoMap K V} {k : K} {v : V} :
    (l.foldl (fun m v => m.insert (f v) v) m).lookup k = some v ↔
      (LatestBy f l v ∧ f v = k) ∨ (m.lookup k = some v ∧ ∀ w ∈ l, f w ≠ k) := by
  induction l generalizing m with
  | nil =>
    constructor
    · exact fun h => .inr ⟨h, fun w hw => absurd hw List.not_mem_nil⟩
    · rintro (⟨hlatest, -⟩ | ⟨h, -⟩)
      · exact absurd hlatest.mem List.not_mem_nil
      · exact h
  | cons a l ih =>
    rw [List.foldl_cons, ih, lookup_insert_eq_some, latestBy_cons]
    constructor
    · rintro (⟨hlatest, hkey⟩ | ⟨⟨rfl, rfl⟩ | ⟨hne, hold⟩, hlast⟩)
      · exact .inl ⟨.inl hlatest, hkey⟩
      · exact .inl ⟨.inr ⟨rfl, hlast⟩, rfl⟩
      · refine .inr ⟨hold, fun w hw => ?_⟩
        rcases List.mem_cons.mp hw with rfl | hw
        · exact Ne.symm hne
        · exact hlast w hw
    · rintro (⟨hlatest | ⟨rfl, hlast⟩, hkey⟩ | ⟨hold, hlast⟩)
      · exact .inl ⟨hlatest, hkey⟩
      · subst hkey
        exact .inr ⟨.inl ⟨rfl, rfl⟩, hlast⟩
      · exact .inr ⟨.inr ⟨Ne.symm (hlast a List.mem_cons_self), hold⟩,
          fun w hw => hlast w (List.mem_cons_of_mem a hw)⟩

/-! ## Sums over a map -/

/-- Adding a fresh key adds its summand. -/
theorem sum_insert [AddCommMonoid M] {m : GoMap K V} {k : K} (v : V)
    (h : m.lookup k = none) (f : K → V → M) :
    (m.insert k v).sum f = f k v + m.sum f := by
  have hk : k ∉ m := lookup_eq_none.mp h
  simp [sum, pairs, entries_insert_of_notMem hk]

/-- A present key splits off its summand. -/
theorem sum_erase [AddCommMonoid M] {m : GoMap K V} {k : K} {v : V}
    (h : m.lookup k = some v) (f : K → V → M) :
    m.sum f = f k v + (m.erase k).sum f := by
  calc m.sum f = ((m.erase k).insert k v).sum f := by
        rw [insert_erase_self, insert_lookup_self h]
    _ = f k v + (m.erase k).sum f := sum_insert v (lookup_erase k m) f

/-- Overwriting a key trades its old summand for the new one. -/
theorem sum_update [AddCommGroup M] {m : GoMap K V} {k : K} {v : V} (v' : V)
    (h : m.lookup k = some v) (f : K → V → M) :
    (m.insert k v').sum f = m.sum f - f k v + f k v' := by
  rw [← insert_erase_self, sum_insert v' (lookup_erase k m), sum_erase h f]
  abel

/-- A value with the same summand may take the place of another. -/
theorem sum_insert_same [AddCommMonoid M] {m : GoMap K V} {k : K} {v v' : V}
    (h : m.lookup k = some v) {f : K → V → M} (hf : f k v' = f k v) :
    (m.insert k v').sum f = m.sum f := by
  rw [← insert_erase_self, sum_insert v' (lookup_erase k m), sum_erase h f, hf]

theorem sum_congr [AddCommMonoid M] {m : GoMap K V} {f g : K → V → M}
    (h : ∀ k v, m.lookup k = some v → f k v = g k v) : m.sum f = m.sum g := by
  rw [sum, sum, Multiset.map_congr rfl]
  rintro ⟨k, v⟩ hmem
  exact h k v (mem_pairs.mp hmem)

theorem sum_eq_zero [AddCommMonoid M] {m : GoMap K V} {f : K → V → M}
    (h : ∀ k v, m.lookup k = some v → f k v = 0) : m.sum f = 0 := by
  rw [sum_congr h, sum]
  simp

/-- A sum whose only nonzero summand sits at one present key. -/
theorem sum_eq_single [AddCommMonoid M] {m : GoMap K V} {k : K} {v : V}
    (h : m.lookup k = some v) {f : K → V → M}
    (hf : ∀ k' v', m.lookup k' = some v' → k' ≠ k → f k' v' = 0) :
    m.sum f = f k v := by
  rw [sum_erase h, sum_eq_zero, add_zero]
  intro k' v' h'
  rw [lookup_erase_ite] at h'
  split at h'
  · cases h'
  · next hne => exact hf k' v' h' hne

theorem sum_le_sum [AddCommMonoid M] [PartialOrder M] [IsOrderedAddMonoid M]
    {m : GoMap K V} {f g : K → V → M}
    (h : ∀ k v, m.lookup k = some v → f k v ≤ g k v) : m.sum f ≤ m.sum g :=
  Multiset.sum_map_le_sum_map _ _ fun e he => h e.1 e.2 (mem_pairs.mp he)

/-- The value at a key, as a sum over the map. -/
theorem sum_ite_key [AddCommMonoid M] (m : GoMap K M) (k : K) :
    (m.sum fun k' v => if k' = k then v else 0) = (m.lookup k).getD 0 := by
  cases h : m.lookup k with
  | none =>
    refine sum_eq_zero fun k' v h' => if_neg ?_
    rintro rfl
    rw [h] at h'
    cases h'
  | some v =>
    rw [sum_eq_single h, if_pos rfl]
    · rfl
    · exact fun k' _ _ hne => if_neg hne

/-- The values of a map, summed over another map that has all its keys. -/
theorem sum_getD [AddCommMonoid M] (m : GoMap K M) (m' : GoMap K V)
    (h : ∀ k ∈ m, k ∈ m') :
    (m'.sum fun k _ => (m.lookup k).getD 0) = m.sum fun _ v => v := by
  have hpoint : ∀ k, (m.lookup k).getD 0 = m.sum fun k' v => if k' = k then v else 0 :=
    fun k => (sum_ite_key m k).symm
  simp only [hpoint]
  rw [sum_comm]
  refine sum_congr fun k v hk => ?_
  obtain ⟨v', hv'⟩ := mem_iff.mp (h k (mem_of_lookup_eq_some hk))
  rw [sum_eq_single hv', if_pos rfl]
  exact fun k' _ _ hne => if_neg (Ne.symm hne)

/-- The sum over a map as the sum over a duplicate-free list of its keys, when
the other keys contribute nothing. -/
theorem sum_eq_sum_list [AddCommMonoid M] (l : List K) (m : GoMap K V)
    (f : K → V → M) (hnodup : l.Nodup) (hmem : ∀ k ∈ l, k ∈ m)
    (hrest : ∀ k v, m.lookup k = some v → k ∉ l → f k v = 0) :
    m.sum f = (l.map fun k => ((m.lookup k).map (f k)).getD 0).sum := by
  induction l generalizing m with
  | nil => exact sum_eq_zero fun k v h => hrest k v h List.not_mem_nil
  | cons k l ih =>
    obtain ⟨hk, hl⟩ := List.nodup_cons.mp hnodup
    obtain ⟨v, hv⟩ := mem_iff.mp (hmem k List.mem_cons_self)
    have hne : ∀ k' ∈ l, k' ≠ k := fun k' h' heq => hk (heq ▸ h')
    have hrec := ih (m.erase k) hl
      (fun k' h' => mem_erase.mpr
        ⟨hne k' h', hmem k' (List.mem_cons_of_mem _ h')⟩)
      (fun k' v' h' hl' => by
        rw [lookup_erase_ite] at h'
        split at h'
        · cases h'
        · next hkk => exact hrest k' v' h' (by simp [hkk, hl']))
    have htail : (l.map fun k' => (((m.erase k).lookup k').map (f k')).getD 0)
        = l.map fun k' => ((m.lookup k').map (f k')).getD 0 :=
      List.map_congr_left fun k' h' => by rw [lookup_erase_ne (hne k' h')]
    rw [List.map_cons, List.sum_cons, sum_erase hv, hrec, htail, hv]
    rfl

/-- The sum over some of the keys is at most the whole sum, where no summand is
negative. -/
theorem sum_list_le_sum [AddCommMonoid M] [PartialOrder M] [IsOrderedAddMonoid M]
    {l : List K} (m : GoMap K V) (f : K → V → M) (hnodup : l.Nodup)
    (hmem : ∀ k ∈ l, k ∈ m) (h : ∀ k v, m.lookup k = some v → 0 ≤ f k v) :
    (l.map fun k => ((m.lookup k).map (f k)).getD 0).sum ≤ m.sum f := by
  let g : K → V → M := fun k v => if k ∈ l then f k v else 0
  have hlist : m.sum g = (l.map fun k => ((m.lookup k).map (g k)).getD 0).sum :=
    sum_eq_sum_list l m g hnodup hmem fun k v _ hk => if_neg hk
  have hsame : (l.map fun k => ((m.lookup k).map (g k)).getD 0)
      = l.map fun k => ((m.lookup k).map (f k)).getD 0 := by
    refine List.map_congr_left fun k hk => ?_
    rw [show g k = f k from funext fun v => if_pos hk]
  rw [← hsame, ← hlist]
  refine sum_le_sum fun k v hv => ?_
  by_cases hk : k ∈ l
  · exact (if_pos hk).le
  · exact (if_neg hk).trans_le (h k v hv)

/-- A map with the summands of another, and none but zeros beside them, has the same sum. -/
theorem sum_eq_of_subset [AddCommMonoid M] {V' : Type} {m : GoMap K V} {m' : GoMap K V'}
    {f : K → V → M} {g : K → V' → M}
    (h : ∀ k v, m.lookup k = some v → ∃ v', m'.lookup k = some v' ∧ g k v' = f k v)
    (hrest : ∀ k v', m'.lookup k = some v' → k ∉ m → g k v' = 0) : m'.sum g = m.sum f := by
  have hkeys : ∀ k, k ∈ m.keys.toList ↔ k ∈ m := fun k => by
    rw [Finset.mem_toList, mem_keys]
  have hmem : ∀ k ∈ m.keys.toList, k ∈ m' := by
    intro k hk
    obtain ⟨v, hv⟩ := mem_iff.mp ((hkeys k).mp hk)
    obtain ⟨v', hv', -⟩ := h k v hv
    exact mem_of_lookup_eq_some hv'
  rw [sum_eq_sum_list m.keys.toList m f m.keys.nodup_toList (fun k hk => (hkeys k).mp hk)
      (fun k v hv hk => absurd ((hkeys k).mpr (mem_of_lookup_eq_some hv)) hk),
    sum_eq_sum_list m.keys.toList m' g m.keys.nodup_toList hmem
      (fun k v' hv' hk => hrest k v' hv' (mt (hkeys k).mpr hk))]
  refine congrArg List.sum (List.map_congr_left fun k hk => ?_)
  obtain ⟨v, hv⟩ := mem_iff.mp ((hkeys k).mp hk)
  obtain ⟨v', hv', heq⟩ := h k v hv
  rw [hv, hv', Option.map_some, Option.map_some, heq]

/-- Maps with the same keys and the same summands have the same sum. -/
theorem sum_eq_of_lookup [AddCommMonoid M] {V' : Type} {m : GoMap K V}
    {m' : GoMap K V'} {f : K → V → M} {g : K → V' → M}
    (h : ∀ k, (m.lookup k).map (f k) = (m'.lookup k).map (g k)) :
    m.sum f = m'.sum g := by
  refine (sum_eq_of_subset (fun k v hv => ?_) fun k v' hv' hk => ?_).symm
  · have hk := h k
    rw [hv, Option.map_some] at hk
    exact Option.map_eq_some_iff.mp hk.symm
  · have hk' := h k
    rw [lookup_eq_none.mpr hk, hv'] at hk'
    cases hk'

/-! ## What is new -/

/-- The sum over the keys that the later map has and the earlier one has not. -/
def sumNew [AddCommMonoid M] (m m' : GoMap K V) (f : K → V → M) : M :=
  m'.sum fun k v => if k ∈ m then 0 else f k v

section SumNew

variable [AddCommMonoid M] {m m' m'' : GoMap K V} {f : K → V → M}

/-- Without new keys there is nothing to sum. -/
theorem sumNew_eq_zero (h : ∀ k ∈ m', k ∈ m) : sumNew m m' f = 0 :=
  sum_eq_zero fun k _ hk => if_pos (h k (mem_of_lookup_eq_some hk))

theorem sumNew_self (m : GoMap K V) (f : K → V → M) : sumNew m m f = 0 :=
  sumNew_eq_zero fun _ hk => hk

/-- A further new key adds its summand. -/
theorem sumNew_insert {k : K} {v : V} (hnew : m.lookup k = none)
    (hfresh : m'.lookup k = none) :
    sumNew m (m'.insert k v) f = f k v + sumNew m m' f := by
  rw [sumNew, sum_insert v hfresh, if_neg (lookup_eq_none.mp hnew)]
  rfl

/-- The new keys of two stretches, if the values keep their summands. -/
theorem sumNew_trans {R : V → V → Prop} (h : Retains R m m') (h' : Retains R m' m'')
    (hf : ∀ k v v', R v v' → f k v' = f k v) :
    sumNew m m'' f = sumNew m m' f + sumNew m' m'' f := by
  have hfirst : (m''.sum fun k v => if k ∈ m' then (if k ∈ m then 0 else f k v) else 0)
      = sumNew m m' f := by
    refine sum_eq_of_subset (fun k v hv => ?_) fun k _ _ hk => if_neg hk
    obtain ⟨v', hv', hR⟩ := h' k v hv
    refine ⟨v', hv', ?_⟩
    rw [if_pos (mem_of_lookup_eq_some hv), hf k v v' hR]
  rw [← hfirst, sumNew, sumNew, ← sum_add]
  refine sum_congr fun k v _ => ?_
  by_cases hm' : k ∈ m'
  · simp [hm']
  · simp [hm', mt h.mem hm']

end SumNew

end Lookup

/-- A homomorphism goes through a sum. -/
theorem map_sum [AddCommMonoid M] {N : Type} [AddCommMonoid N] (φ : M →+ N) (m : GoMap K V)
    (f : K → V → M) : φ (m.sum f) = m.sum fun k v => φ (f k v) := by
  rw [sum, map_multiset_sum, Multiset.map_map]
  rfl

/-- A sum of functions, taken at a point. -/
theorem sum_apply [AddCommMonoid M] {X : Type} (m : GoMap K V) (f : K → V → X → M)
    (x : X) : m.sum f x = m.sum fun k v => f k v x :=
  map_sum (Pi.evalAddMonoidHom (fun _ : X => M) x) m f

end Finmap

namespace CoreBanking

/-! ## Iteration orders -/

/-- An order in which `range` loops visit maps from `K` to `V`: for every map
a list of exactly its entries. -/
structure MapOrder (K V : Type) where
  toList : GoMap K V → List (K × V)
  coe_toList : ∀ m, (toList m : Multiset (K × V)) = m.pairs

namespace MapOrder

variable {K V M : Type}

theorem mem_toList [DecidableEq K] (σ : MapOrder K V) {m : GoMap K V} {k : K}
    {v : V} : (k, v) ∈ σ.toList m ↔ m.lookup k = some v := by
  rw [← Finmap.mem_pairs, ← σ.coe_toList, Multiset.mem_coe]

theorem nodup_toList (σ : MapOrder K V) (m : GoMap K V) :
    ((σ.toList m).map Prod.fst).Nodup := by
  have h := m.nodup_keys
  rwa [← σ.coe_toList, Multiset.map_coe, Multiset.coe_nodup] at h

/-- Two orders visit the same entries. -/
theorem perm_toList (σ τ : MapOrder K V) (m : GoMap K V) : (σ.toList m).Perm (τ.toList m) := by
  rw [← Multiset.coe_eq_coe, σ.coe_toList, τ.coe_toList]

theorem sum_toList [AddCommMonoid M] (σ : MapOrder K V) (m : GoMap K V)
    (f : K → V → M) : ((σ.toList m).map fun e => f e.1 e.2).sum = m.sum f := by
  rw [Finmap.sum, ← σ.coe_toList, Multiset.map_coe, Multiset.sum_coe]

/-- Sorting the entries of an association list by their keys. -/
def sortByKey [LinearOrder K] (a : AList fun _ : K => V) : List (K × V) :=
  (a.entries.map fun e => (e.1, e.2)).insertionSort fun x y => x.1 ≤ y.1

/-- Two association lists of one map sort to the same list: the keys are
distinct, so the order by key decides the place of every entry. -/
theorem sortByKey_congr [LinearOrder K] {a b : AList fun _ : K => V}
    (h : a.entries.Perm b.entries) : sortByKey a = sortByKey b := by
  have hab : (sortByKey a).Perm (sortByKey b) :=
    ((List.perm_insertionSort _ _).trans (h.map _)).trans
      (List.perm_insertionSort _ _).symm
  have hkeys : ((a.entries.map fun e => (e.1, e.2)).map Prod.fst).Nodup := by
    rw [List.map_map]
    exact a.nodupKeys
  have : Std.Total fun x y : K × V => x.1 ≤ y.1 :=
    ⟨fun x y => le_total x.1 y.1⟩
  have : IsTrans (K × V) fun x y => x.1 ≤ y.1 :=
    ⟨fun _ _ _ hxy hyz => le_trans hxy hyz⟩
  refine hab.eq_of_pairwise ?_ (List.pairwise_insertionSort _ _)
    (List.pairwise_insertionSort _ _)
  intro x y hx hy hxy hyx
  have hx' := (List.mem_insertionSort _).mp hx
  have hy' := (h.map _).mem_iff.mpr ((List.mem_insertionSort _).mp hy)
  exact List.inj_on_of_nodup_map hkeys hx' hy' (le_antisymm hxy hyx)

/-- The entries in increasing order of their keys. -/
def byKey [LinearOrder K] : MapOrder K V where
  toList m := m.liftOn sortByKey fun _ _ h => sortByKey_congr h
  coe_toList m := m.induction_on fun _ =>
    Multiset.coe_eq_coe.mpr (List.perm_insertionSort _ _)

end MapOrder

end CoreBanking
