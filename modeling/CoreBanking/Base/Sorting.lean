import CoreBanking.Base.GoMap
import CoreBanking.Base.Time
import Mathlib.Data.Prod.Lex
import Mathlib.Data.String.Basic

/-!
# Sorted listings of a map

Go's `sort.Slice` is given a comparison and promises a sorted permutation, if the
comparison is a strict weak order. It promises nothing about elements that compare
equal, and a map hands its values over in any order.

- `SliceSort`: what `sort.Slice` promises;
- `SliceSort.breaking`: an algorithm that keeps the promise and settles ties in a
  given way;
- `listed`: the values of a map that meet a condition, sorted. Where the comparison
  is by a key that no two of them share, every order of the map and every sort
  return the same list (`listed_congr`), in strictly increasing order of the keys
  (`pairwise_listed`);
- `ByCreation`: the comparison by creation time, then id.
-/

namespace CoreBanking

/-! ## What a sort promises -/

/-- What `sort.Slice` promises: a permutation of the slice, in which no element is
less than an earlier one. -/
structure SliceSort (α : Type) where
  sort : (less : α → α → Prop) → [DecidableRel less] → List α → List α
  perm : ∀ (less : α → α → Prop) [DecidableRel less] (l : List α), (sort less l).Perm l
  sorted : ∀ (less : α → α → Prop) [DecidableRel less] [IsStrictWeakOrder α less]
    (l : List α), (sort less l).Pairwise fun x y => ¬less y x

section StrictWeakOrder

variable {α : Type} {less : α → α → Prop} [IsStrictWeakOrder α less]

/-- Of two elements one is not above the other. -/
theorem total_not_less : Std.Total fun x y : α => ¬less y x where
  total x y := by
    by_cases h : less y x
    · exact .inr (asymm_of less h)
    · exact .inl h

/-- Not being above goes through incomparable elements. -/
theorem trans_not_less : IsTrans α fun x y => ¬less y x where
  trans x y z hxy hyz hzx := by
    have hxy' : ¬less x y := fun h => hyz (trans_of less hzx h)
    have hyz' : ¬less y z := fun h => hxy (trans_of less h hzx)
    exact (IsStrictWeakOrder.incomp_trans x y z ⟨hxy', hxy⟩ ⟨hyz', hyz⟩).2 hzx

end StrictWeakOrder

/-- Two different elements of a list are in it in one order or in the other. -/
theorem pair_sublist {α : Type} {a b : α} {l : List α} (ha : a ∈ l) (hb : b ∈ l)
    (hne : a ≠ b) : [a, b].Sublist l ∨ [b, a].Sublist l := by
  induction l with
  | nil => exact absurd ha List.not_mem_nil
  | cons c l ih =>
    rcases List.mem_cons.mp ha with rfl | ha'
    · have hb' := (List.mem_cons.mp hb).resolve_left (Ne.symm hne)
      exact .inl ((List.singleton_sublist.mpr hb').cons_cons a)
    · rcases List.mem_cons.mp hb with rfl | hb'
      · exact .inr ((List.singleton_sublist.mpr ha').cons_cons b)
      · exact (ih ha' hb').imp (fun h => h.cons c) (fun h => h.cons c)

theorem rel_of_sublist {α : Type} {R : α → α → Prop} {a b : α} {l : List α}
    (h : l.Pairwise R) (hab : [a, b].Sublist l) : R a b :=
  List.pairwise_pair.mp (h.sublist hab)

namespace SliceSort

variable {α : Type}

/-- Insertion sort, which is stable, after the elements were put into the order `tie`. -/
def breaking (tie : α → α → Prop) [DecidableRel tie] : SliceSort α where
  sort less _ l := (l.insertionSort tie).insertionSort fun x y => ¬less y x
  perm _ _ l := (List.perm_insertionSort _ _).trans (List.perm_insertionSort tie l)
  sorted less _ _ _ :=
    have : Std.Total fun x y : α => ¬less y x := total_not_less
    have : IsTrans α fun x y => ¬less y x := trans_not_less
    List.pairwise_insertionSort _ _

/-- Elements that compare equal are in the order `tie`. -/
theorem breaking_sublist {tie : α → α → Prop} [DecidableRel tie] [Std.Total tie]
    [IsTrans α tie] {less : α → α → Prop} [DecidableRel less] {l : List α} {a b : α}
    (ha : a ∈ l) (hb : b ∈ l) (htie : ¬tie b a) (hless : ¬less b a) :
    [a, b].Sublist ((breaking tie).sort less l) := by
  have hne : a ≠ b := by
    rintro rfl
    exact htie ((Std.Total.total a a).elim id id)
  have hfirst : [a, b].Sublist (l.insertionSort tie) := by
    have hsorted : (l.insertionSort tie).Pairwise tie := List.pairwise_insertionSort tie l
    refine (pair_sublist ((List.mem_insertionSort tie).mpr ha)
      ((List.mem_insertionSort tie).mpr hb) hne).resolve_right fun hswapped => htie ?_
    exact rel_of_sublist hsorted hswapped
  exact List.pair_sublist_insertionSort (r := fun x y => ¬less y x) hless hfirst

end SliceSort

/-! ## Comparisons by a key -/

section Key

variable {α L : Type} [LinearOrder L] {key : α → L} {less : α → α → Prop}

/-- A comparison by a key is a strict weak order. -/
theorem strictWeakOrder_of_key (hless : ∀ x y, less x y ↔ key x < key y) :
    IsStrictWeakOrder α less where
  irrefl x h := lt_irrefl (key x) ((hless x x).mp h)
  trans x y z hxy hyz := (hless x z).mpr (((hless x y).mp hxy).trans ((hless y z).mp hyz))
  incomp_trans x y z hxy hyz := by
    simp only [hless, not_lt] at hxy hyz ⊢
    exact ⟨hyz.1.trans hxy.1, hxy.2.trans hyz.2⟩

variable [DecidableRel less] {l l' : List α}

/-- A sort by a key that no two elements share is strict. -/
theorem pairwise_sort (hless : ∀ x y, less x y ↔ key x < key y) (hnodup : (l.map key).Nodup)
    (sorter : SliceSort α) : (sorter.sort less l).Pairwise less := by
  have := strictWeakOrder_of_key hless
  have hkeys : ((sorter.sort less l).map key).Nodup :=
    ((sorter.perm less l).map key).nodup_iff.mpr hnodup
  refine ((sorter.sorted less l).and (List.pairwise_map.mp hkeys)).imp ?_
  rintro x y ⟨hle, hne⟩
  rw [hless] at hle ⊢
  exact lt_of_le_of_ne (not_lt.mp hle) hne

/-- So the sort leaves no choice. -/
theorem sort_congr (hless : ∀ x y, less x y ↔ key x < key y) (hnodup : (l.map key).Nodup)
    (hperm : l.Perm l') (sorter sorter' : SliceSort α) :
    sorter.sort less l = sorter'.sort less l' := by
  have hnodup' : (l'.map key).Nodup := (hperm.map key).nodup_iff.mp hnodup
  have hanti : ∀ x y, x ∈ sorter.sort less l → y ∈ sorter'.sort less l' → less x y →
      less y x → x = y := by
    intro x y _ _ hxy hyx
    rw [hless] at hxy hyx
    exact absurd hxy (asymm hyx)
  exact List.Perm.eq_of_pairwise hanti (pairwise_sort hless hnodup sorter)
    (pairwise_sort hless hnodup' sorter')
    ((sorter.perm less l).trans (hperm.trans (sorter'.perm less l').symm))

end Key

/-! ## Listings -/

section Listings

variable {K V : Type}

/-- A loop over a map that keeps the values that meet a condition, and a sort of
what it has kept. -/
def listed (order : MapOrder K V) (sorter : SliceSort V) (less : V → V → Prop)
    [DecidableRel less] (keep : V → Prop) [DecidablePred keep] (m : GoMap K V) : List V :=
  sorter.sort less (((order.toList m).map Prod.snd).filter fun v => keep v)

variable [DecidableEq K] {order order' : MapOrder K V} {sorter sorter' : SliceSort V}
  {less : V → V → Prop} [DecidableRel less] {keep : V → Prop} [DecidablePred keep]
  {m : GoMap K V}

/-- A loop over a map meets the values in it. -/
theorem mem_values {v : V} : v ∈ ((order.toList m).map Prod.snd).filter (fun v => keep v) ↔
    (∃ k, m.lookup k = some v) ∧ keep v := by
  rw [List.mem_filter, List.mem_map, decide_eq_true_eq]
  refine and_congr_left fun _ => ⟨?_, ?_⟩
  · rintro ⟨⟨k, v'⟩, hmem, rfl⟩
    exact ⟨k, order.mem_toList.mp hmem⟩
  · rintro ⟨k, hk⟩
    exact ⟨(k, v), order.mem_toList.mpr hk, rfl⟩

theorem mem_listed {v : V} : v ∈ listed order sorter less keep m ↔
    (∃ k, m.lookup k = some v) ∧ keep v :=
  (sorter.perm less _).mem_iff.trans mem_values

/-- Where values are stored under their ids. -/
theorem mem_listed_of_id {id : V → K} (hid : ∀ k v, m.lookup k = some v → id v = k) {v : V} :
    v ∈ listed order sorter less keep m ↔ m.lookup (id v) = some v ∧ keep v := by
  refine mem_listed.trans (and_congr_left fun _ => ⟨?_, fun hv => ⟨id v, hv⟩⟩)
  rintro ⟨k, hk⟩
  rwa [hid k v hk]

omit [DecidableEq K] in
/-- The sum over a list without the elements that add nothing. -/
theorem sum_filter_map {M : Type} [AddCommMonoid M] {f : V → M} {l : List V}
    (hskip : ∀ v ∈ l, ¬keep v → f v = 0) :
    ((l.filter fun v => keep v).map f).sum = (l.map f).sum := by
  induction l with
  | nil => rfl
  | cons v l ih =>
    have hrest := ih fun v' hv' => hskip v' (List.mem_cons_of_mem v hv')
    rw [List.filter_cons, List.map_cons, List.sum_cons, ← hrest]
    by_cases hv : keep v
    · rw [if_pos (decide_eq_true hv), List.map_cons, List.sum_cons]
    · rw [if_neg (by simpa using hv), hskip v List.mem_cons_self hv, zero_add]

/-- A sum over the map is a sum over the listing, if what is not listed adds nothing. -/
theorem sum_listed {M : Type} [AddCommMonoid M] {f : V → M}
    (hskip : ∀ k v, m.lookup k = some v → ¬keep v → f v = 0) :
    ((listed order sorter less keep m).map f).sum = m.sum fun _ v => f v := by
  have hvalues : ∀ v ∈ (order.toList m).map Prod.snd, ¬keep v → f v = 0 := by
    intro v hv hkeep
    obtain ⟨⟨k, v'⟩, hmem, rfl⟩ := List.mem_map.mp hv
    exact hskip k v' (order.mem_toList.mp hmem) hkeep
  rw [listed, ((sorter.perm less _).map f).sum_eq, sum_filter_map hvalues, List.map_map]
  exact order.sum_toList m fun _ v => f v

variable {id : V → K}

/-- A loop over a map whose values carry their keys meets each value once. -/
theorem nodup_values (hid : ∀ k v, m.lookup k = some v → id v = k) :
    ((((order.toList m).map Prod.snd).filter fun v => keep v).map id).Nodup := by
  have hids : ((order.toList m).map Prod.snd).map id = (order.toList m).map Prod.fst := by
    rw [List.map_map]
    refine List.map_congr_left ?_
    rintro ⟨k, v⟩ hmem
    exact hid k v (order.mem_toList.mp hmem)
  have hall : (((order.toList m).map Prod.snd).map id).Nodup := by
    rw [hids]
    exact order.nodup_toList m
  exact hall.sublist (List.filter_sublist.map id)

/-- Each value is listed once. -/
theorem nodup_listed (hid : ∀ k v, m.lookup k = some v → id v = k) :
    ((listed order sorter less keep m).map id).Nodup :=
  ((sorter.perm less _).map id).nodup_iff.mpr (nodup_values hid)

variable {L : Type} {key : V → L}

/-- Keys that tell ids apart tell the kept values apart. -/
theorem nodup_keys_of_id (hid : ∀ k v, m.lookup k = some v → id v = k)
    (hkey : ∀ v v', key v = key v' → id v = id v') :
    ((((order.toList m).map Prod.snd).filter fun v => keep v).map key).Nodup := by
  refine List.pairwise_map.mpr ((List.pairwise_map.mp (nodup_values hid)).imp ?_)
  exact fun hne heq => hne (hkey _ _ heq)

variable [LinearOrder L]

theorem pairwise_listed (hless : ∀ x y, less x y ↔ key x < key y)
    (hid : ∀ k v, m.lookup k = some v → id v = k)
    (hkey : ∀ v v', key v = key v' → id v = id v') :
    (listed order sorter less keep m).Pairwise less :=
  pairwise_sort hless (nodup_keys_of_id hid hkey) sorter

/-- The listing does not depend on the order of the map, nor on the sort. -/
theorem listed_congr (hless : ∀ x y, less x y ↔ key x < key y)
    (hid : ∀ k v, m.lookup k = some v → id v = k)
    (hkey : ∀ v v', key v = key v' → id v = id v') :
    listed order sorter less keep m = listed order' sorter' less keep m :=
  sort_congr hless (nodup_keys_of_id hid hkey)
    (((order.perm_toList order' m).map Prod.snd).filter _) sorter sorter'

end Listings

/-! ## By creation time, then id -/

/-- The comparison of the listings: by creation time, and by id if the times are equal. -/
def ByCreation {V : Type} (createdAt : V → Time) (name : V → String) (x y : V) : Prop :=
  if (createdAt x).Equal (createdAt y) then name x < name y
  else (createdAt x).Before (createdAt y)

instance {V : Type} (createdAt : V → Time) (name : V → String) :
    DecidableRel (ByCreation createdAt name) :=
  fun _ _ => inferInstanceAs (Decidable (ite _ _ _))

/-- It is the lexicographic order. -/
theorem byCreation_iff {V : Type} {createdAt : V → Time} {name : V → String} (x y : V) :
    ByCreation createdAt name x y ↔
      toLex ((createdAt x).ns, name x) < toLex ((createdAt y).ns, name y) := by
  rw [Prod.Lex.toLex_lt_toLex]
  unfold ByCreation Time.Equal Time.Before
  by_cases heq : (createdAt x).ns = (createdAt y).ns
  · simp [heq]
  · simp [heq]

end CoreBanking
