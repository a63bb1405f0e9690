import CoreBanking.Base.Ident
import Mathlib.Data.Multiset.MapFold

/-!
# What one counter has numbered

A store draws the ids of everything in it from one counter, of whatever kind the things
are, and each kind has its prefix. `Numbered` says that this is how the things of a store
got their ids: there is a number for each, no two alike and none beyond the counter.

- `Numbered.next`: the next thing gets the next number;
- `Numbered.fresh`: the ids to come are not in use, under any prefix;
- `Numbered.nodup`: no two things have the same id, whatever their kinds;
- `idsOf`: the ids of the entities in a map;
- `Stored`: the entities in a map are found under their own ids, drawn so far.
-/

namespace CoreBanking

/-- A kind of things and a number, rendered as an id. -/
def rendered (d : String × Nat) : String × String := (d.1, ident d.1 d.2)

/-- The things, given by their kinds and ids, have got different numbers up to `c`. -/
def Numbered (c : Nat) (issued : Multiset (String × String)) : Prop :=
  ∃ numbers : Multiset (String × Nat), issued = numbers.map rendered ∧
    (numbers.map Prod.snd).Nodup ∧ ∀ d ∈ numbers, 1 ≤ d.2 ∧ d.2 ≤ c

namespace Numbered

variable {c c' : Nat} {issued : Multiset (String × String)}

theorem zero (c : Nat) : Numbered c 0 :=
  ⟨0, rfl, Multiset.nodup_zero, fun _ hd => absurd hd (Multiset.notMem_zero _)⟩

theorem mono (h : Numbered c issued) (hc : c ≤ c') : Numbered c' issued := by
  obtain ⟨numbers, heq, hnodup, hrange⟩ := h
  exact ⟨numbers, heq, hnodup, fun d hd => ⟨(hrange d hd).1, le_trans (hrange d hd).2 hc⟩⟩

/-- The next thing gets the next number. -/
theorem next (h : Numbered c issued) (pfx : String) :
    Numbered (c + 1) ((pfx, ident pfx (c + 1)) ::ₘ issued) := by
  obtain ⟨numbers, rfl, hnodup, hrange⟩ := h
  refine ⟨(pfx, c + 1) ::ₘ numbers, (Multiset.map_cons rendered (pfx, c + 1) numbers).symm,
    ?_, ?_⟩
  · rw [Multiset.map_cons]
    refine Multiset.nodup_cons.mpr ⟨fun hmem => ?_, hnodup⟩
    obtain ⟨d, hd, heq⟩ := Multiset.mem_map.mp hmem
    have hle := (hrange d hd).2
    omega
  · intro d hd
    rcases Multiset.mem_cons.mp hd with rfl | hd
    · exact ⟨Nat.succ_le_succ (Nat.zero_le c), le_rfl⟩
    · exact ⟨(hrange d hd).1, le_trans (hrange d hd).2 (Nat.le_succ c)⟩

/-- The id of a thing is of the form that its kind prescribes. -/
theorem form (h : Numbered c issued) {d : String × String} (hd : d ∈ issued) :
    ∃ n, 1 ≤ n ∧ n ≤ c ∧ d.2 = ident d.1 n := by
  obtain ⟨numbers, rfl, -, hrange⟩ := h
  obtain ⟨⟨pfx, n⟩, hn, rfl⟩ := Multiset.mem_map.mp hd
  exact ⟨n, (hrange _ hn).1, (hrange _ hn).2, rfl⟩

/-- An id to come is not in use. -/
theorem fresh (h : Numbered c issued) {n : Nat} (hn : c < n) (pfx : String) :
    ident pfx n ∉ issued.map Prod.snd := by
  intro hmem
  obtain ⟨d, hd, heq⟩ := Multiset.mem_map.mp hmem
  obtain ⟨m, -, hm, hid⟩ := h.form hd
  obtain ⟨-, rfl⟩ := ident_eq_iff.mp (hid.symm.trans heq)
  omega

/-- Different things have different ids. -/
theorem nodup (h : Numbered c issued) : (issued.map Prod.snd).Nodup := by
  obtain ⟨numbers, rfl, hnodup, -⟩ := h
  rw [Multiset.map_map]
  refine Multiset.Nodup.map_on ?_ (Multiset.Nodup.of_map _ hnodup)
  intro d hd d' hd' heq
  obtain ⟨hpfx, hn⟩ := ident_eq_iff.mp heq
  exact Prod.ext hpfx hn

end Numbered

/-! ## Maps of entities -/

section Entities

variable {K V : Type} [DecidableEq K] {m : GoMap K V} {k : K} {v v' : V}

/-- The ids of the entities in a map, each with their kind. -/
def idsOf (kind : String) (id : V → String) (m : GoMap K V) : Multiset (String × String) :=
  m.sum fun _ v => {(kind, id v)}

theorem idsOf_insert (h : m.lookup k = none) (kind : String) (id : V → String) (v : V) :
    idsOf kind id (m.insert k v) = (kind, id v) ::ₘ idsOf kind id m := by
  rw [idsOf, Finmap.sum_insert v h, Multiset.singleton_add]
  rfl

theorem idsOf_update (h : m.lookup k = some v) (kind : String) {id : V → String}
    (hid : id v' = id v) : idsOf kind id (m.insert k v') = idsOf kind id m :=
  Finmap.sum_insert_same h (by rw [hid])

end Entities

/-- The entities of a map are found under their own ids, drawn so far. -/
structure Stored {K V : Type} [DecidableEq K] (mk : String → K) (pfx : String) (id : V → K)
    (c : Nat) (m : GoMap K V) : Prop where
  keys : KeysUpTo mk pfx c m
  own : ∀ k v, m.lookup k = some v → id v = k

namespace Stored

variable {K V : Type} [DecidableEq K] {mk : String → K} {pfx : String} {id : V → K}
  {c c' : Nat} {m : GoMap K V}

theorem empty : Stored mk pfx id c (∅ : GoMap K V) where
  keys := .empty
  own := Finmap.forall_lookup_empty

theorem mono (h : Stored mk pfx id c m) (hc : c ≤ c') : Stored mk pfx id c' m where
  keys := h.keys.mono hc
  own := h.own

/-- A new entity gets the next number. -/
theorem insert (h : Stored mk pfx id c m) {v : V} (hid : id v = mk (ident pfx (c + 1))) :
    Stored mk pfx id (c + 1) (m.insert (id v) v) where
  keys := by
    rw [hid]
    exact h.keys.insert (Nat.le_succ c) le_rfl v
  own := Finmap.forall_lookup_insert h.own rfl

theorem update (h : Stored mk pfx id c m) {k : K} {v v' : V} (hk : m.lookup k = some v)
    (hid : id v' = id v) : Stored mk pfx id c (m.insert k v') where
  keys := h.keys.update (Finmap.mem_of_lookup_eq_some hk) v'
  own := Finmap.forall_lookup_insert h.own (hid.trans (h.own k v hk))

/-- The id that comes next is not in use. -/
theorem fresh (h : Stored mk pfx id c m) (hmk : Function.Injective mk) {v : V}
    (hid : id v = mk (ident pfx (c + 1))) : m.lookup (id v) = none := by
  rw [hid]
  exact h.keys.fresh hmk (Nat.lt_succ_self c)

end Stored

end CoreBanking
