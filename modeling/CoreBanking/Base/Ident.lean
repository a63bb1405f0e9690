import CoreBanking.Base.GoMap
import Mathlib.Data.List.Basic

/-!
# Counter identifiers

Every entity gets its id from a counter, rendered as `prefix_n`, and compound
keys are built from ids by joining them with colons. Both renderings are
injective:

- `ident_inj`: ids with one prefix are equal only if their counters are, and
  `ident_eq_iff`: so are ids with any prefixes, which are then the same;
- `joinColon_inj`: a compound key determines its first component, when that
  component has no colon in it, and ids of colon-free prefixes have none
  (`colonFree_ident`).

`KeysUpTo` says that the keys of a map are ids drawn so far, so that the next
id is fresh (`KeysUpTo.fresh`).
-/

namespace CoreBanking

/-- The id `pfx_n` of the `n`-th entity. -/
def ident (pfx : String) (n : Nat) : String := pfx ++ "_" ++ toString n

/-- The decimal rendering of a number determines it. -/
theorem toString_nat_inj {n m : Nat} : toString n = toString m ↔ n = m := by
  constructor
  · intro h
    have hdigits : Nat.toDigits 10 n = Nat.toDigits 10 m := by
      rw [← Nat.toList_repr, ← Nat.toList_repr]
      exact congrArg String.toList h
    have hval := congrArg (fun ds => Nat.ofDigitChars 10 ds 0) hdigits
    simpa [Nat.ofDigitChars_toDigits] using hval
  · intro h
    rw [h]

theorem ident_inj {pfx : String} {n m : Nat} :
    ident pfx n = ident pfx m ↔ n = m := by
  rw [ident, ident, String.append_right_inj, toString_nat_inj]

/-- A separator that occurs in neither prefix splits two lists alike. -/
theorem append_sep_inj {α : Type} {c : α} :
    ∀ {x y z w : List α}, c ∉ x → c ∉ y →
      (x ++ c :: z = y ++ c :: w ↔ x = y ∧ z = w)
  | [], [], z, w, _, _ => by simp
  | [], b :: y, z, w, _, hy => by
    have hb : c ≠ b := fun h => hy (h ▸ List.mem_cons_self)
    simp [hb]
  | a :: x, [], z, w, hx, _ => by
    have ha : a ≠ c := fun h => hx (h ▸ List.mem_cons_self)
    simp [ha]
  | a :: x, b :: y, z, w, hx, hy => by
    have ih := append_sep_inj (z := z) (w := w)
      (fun h => hx (List.mem_cons_of_mem a h))
      (fun h => hy (List.mem_cons_of_mem b h))
    simp [ih, and_assoc]

/-- A number is rendered in digits. -/
theorem not_mem_toString_nat {c : Char} (hc : c.isDigit = false) (n : Nat) :
    c ∉ (toString n).toList := by
  intro hmem
  have hdigits : c ∈ Nat.toDigits 10 n := by
    rwa [← Nat.toList_repr]
  have := Nat.isDigit_of_mem_toDigits (by decide) (by decide) hdigits
  rw [hc] at this
  cases this

/-- The last underscore of an id ends its prefix. -/
theorem ident_eq_iff {pfx pfx' : String} {n m : Nat} :
    ident pfx n = ident pfx' m ↔ pfx = pfx' ∧ n = m := by
  have hlist (pfx : String) (n : Nat) : (ident pfx n).toList.reverse
      = (toString n).toList.reverse ++ '_' :: pfx.toList.reverse := by
    simp [ident, String.toList_append]
  have hsep (n : Nat) : '_' ∉ (toString n).toList.reverse := by
    rw [List.mem_reverse]
    exact not_mem_toString_nat (by decide) n
  rw [← String.toList_inj, ← List.reverse_inj, hlist, hlist, append_sep_inj (hsep n) (hsep m),
    List.reverse_inj, List.reverse_inj, String.toList_inj, String.toList_inj, toString_nat_inj]
  exact and_comm

/-- No character of the string is a colon. -/
def ColonFree (s : String) : Prop := ':' ∉ s.toList

instance (s : String) : Decidable (ColonFree s) :=
  inferInstanceAs (Decidable (¬ _))

theorem colonFree_ident {pfx : String} (h : ColonFree pfx) (n : Nat) :
    ColonFree (ident pfx n) := by
  have hn : ':' ∉ (toString n).toList := not_mem_toString_nat (by decide) n
  simp only [ColonFree, ident, String.toList_append, List.mem_append, not_or]
  exact ⟨⟨h, by decide⟩, hn⟩

/-- Two strings joined by a colon. -/
def joinColon (a b : String) : String := a ++ (":" ++ b)

theorem joinColon_ne_empty (a b : String) : joinColon a b ≠ "" := by
  intro h
  have hlist := congrArg String.toList h
  simp [joinColon, String.toList_append] at hlist

theorem not_colonFree_joinColon (a b : String) : ¬ColonFree (joinColon a b) := by
  intro h
  refine h ?_
  rw [joinColon, String.toList_append, String.toList_append]
  exact List.mem_append_right _ (List.mem_append_left _ List.mem_cons_self)

theorem joinColon_right {a b b' : String} : joinColon a b = joinColon a b' ↔ b = b' := by
  rw [joinColon, joinColon, String.append_right_inj, String.append_right_inj]

theorem joinColon_inj {a a' b b' : String} (ha : ColonFree a)
    (ha' : ColonFree a') : joinColon a b = joinColon a' b' ↔ a = a' ∧ b = b' := by
  rw [← String.toList_inj, ← String.toList_inj, ← String.toList_inj]
  simp only [joinColon, String.toList_append]
  exact append_sep_inj ha ha'

/-! ## Maps keyed by ids -/

/-- Every key of the map is one of the ids `pfx_1, ..., pfx_c`. -/
def KeysUpTo {K V : Type} (mk : String → K) (pfx : String) (c : Nat)
    (m : GoMap K V) : Prop :=
  ∀ k ∈ m, ∃ n ≤ c, k = mk (ident pfx n)

namespace KeysUpTo

variable {K V : Type} {mk : String → K} {pfx : String} {c c' : Nat}
  {m : GoMap K V}

theorem empty : KeysUpTo mk pfx c (∅ : GoMap K V) :=
  fun _ h => absurd h Finmap.notMem_empty

theorem mono (h : KeysUpTo mk pfx c m) (hc : c ≤ c') : KeysUpTo mk pfx c' m := by
  intro k hk
  obtain ⟨n, hn, rfl⟩ := h k hk
  exact ⟨n, le_trans hn hc, rfl⟩

variable [DecidableEq K]

theorem insert (h : KeysUpTo mk pfx c m) {n : Nat} (hc : c ≤ c') (hn : n ≤ c')
    (v : V) : KeysUpTo mk pfx c' (m.insert (mk (ident pfx n)) v) := by
  intro k hk
  rcases Finmap.mem_insert.mp hk with rfl | hk
  · exact ⟨n, hn, rfl⟩
  · exact h.mono hc k hk

/-- Overwriting a present key adds no key. -/
theorem update (h : KeysUpTo mk pfx c m) {k : K} (hk : k ∈ m) (v : V) :
    KeysUpTo mk pfx c (m.insert k v) := by
  intro k' hk'
  rcases Finmap.mem_insert.mp hk' with rfl | hk'
  · exact h _ hk
  · exact h k' hk'

/-- The ids after the counter are not keys of the map. -/
theorem fresh (h : KeysUpTo mk pfx c m) (hmk : Function.Injective mk) {n : Nat}
    (hn : c < n) : m.lookup (mk (ident pfx n)) = none := by
  rw [Finmap.lookup_eq_none]
  intro hmem
  obtain ⟨n', hn', heq⟩ := h _ hmem
  have := ident_inj.mp (hmk heq)
  omega

end KeysUpTo

end CoreBanking
