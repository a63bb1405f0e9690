import Mathlib.Algebra.BigOperators.Group.List.Basic
import Mathlib.Algebra.Group.Nat.Even
import Mathlib.Algebra.Group.Basic
import Mathlib.Data.List.Chain
import Mathlib.Data.List.Nodup
import Mathlib.Data.List.Flatten
import Mathlib.Data.List.Pairwise
import Mathlib.Tactic.Abel

/-!
# Splitting into chains

Nodes point to at most one predecessor each. As long as nodes are added one by one,
each either without a predecessor or after one that no node points to yet, they
split into chains: `Splits.start` and `Splits.extend`.

A chain is its first node and the list of those that follow.

- `Splits.last_iff`: the last nodes of the chains are those that nothing points to;
- `Splits.sum_elements`: a sum over nodes in which each undoes its predecessor is the
  sum of the first nodes of the chains in which an even number of nodes follow; where the
  first nodes are not quite undone, this shows in the other chains.
-/

namespace CoreBanking.Chains

variable {K M : Type}

/-- The nodes of the chains. -/
def elements (chains : List (K × List K)) : List K :=
  chains.flatMap fun c => c.1 :: c.2

/-- The chains follow the predecessors, and have every node once. -/
structure Splits (prev : K → Option K) (nodes : K → Prop)
    (chains : List (K × List K)) : Prop where
  nodup : (elements chains).Nodup
  mem : ∀ k, k ∈ elements chains ↔ nodes k
  first : ∀ c ∈ chains, prev c.1 = none
  links : ∀ c ∈ chains, (c.1 :: c.2).IsChain fun k k' => prev k' = some k

/-- What is not first in its chain stands after something. -/
theorem exists_before {c : K × List K} {k : K} (hk : k ∈ c.2) :
    ∃ k₀ l₁ l₂, c.1 :: c.2 = l₁ ++ k₀ :: k :: l₂ := by
  obtain ⟨l₁, l₂, heq⟩ := List.append_of_mem hk
  refine ⟨(c.1 :: l₁).getLast (List.cons_ne_nil _ _), (c.1 :: l₁).dropLast, l₂, ?_⟩
  rw [List.append_cons, List.dropLast_append_getLast, heq, List.cons_append]

namespace Splits

variable {prev prev' : K → Option K} {nodes nodes' : K → Prop}
  {chains : List (K × List K)}

theorem empty : Splits prev (fun _ => False) [] where
  nodup := List.nodup_nil
  mem k := by simp [elements]
  first c hc := absurd hc List.not_mem_nil
  links c hc := absurd hc List.not_mem_nil

theorem mem_nodes (h : Splits prev nodes chains) {c : K × List K} (hc : c ∈ chains)
    {k : K} (hk : k ∈ c.1 :: c.2) : nodes k :=
  (h.mem k).mp (List.mem_flatMap.mpr ⟨c, hc, hk⟩)

/-- In a chain, each node points to the one before it. -/
theorem link (h : Splits prev nodes chains) {c : K × List K} (hc : c ∈ chains)
    {k k' : K} {l₁ l₂ : List K} (heq : c.1 :: c.2 = l₁ ++ k :: k' :: l₂) :
    prev k' = some k :=
  List.isChain_iff_forall_rel_of_append_cons_cons.mp (h.links c hc) heq

/-- Only the predecessors of the nodes matter. -/
theorem congr (h : Splits prev nodes chains) (hnodes : ∀ k, nodes' k ↔ nodes k)
    (hprev : ∀ k, nodes k → prev' k = prev k) : Splits prev' nodes' chains where
  nodup := h.nodup
  mem k := (h.mem k).trans (hnodes k).symm
  first c hc := (hprev _ (h.mem_nodes hc List.mem_cons_self)).trans (h.first c hc)
  links c hc := by
    refine List.isChain_iff_forall_rel_of_append_cons_cons.mpr fun a b l₁ l₂ heq => ?_
    have hb : b ∈ c.1 :: c.2 := heq ▸ by simp
    rw [hprev b (h.mem_nodes hc hb)]
    exact h.link hc heq

/-- A node is in one chain only. -/
theorem unique (h : Splits prev nodes chains) {c c' : K × List K} (hc : c ∈ chains)
    (hc' : c' ∈ chains) {k : K} (hk : k ∈ c.1 :: c.2) (hk' : k ∈ c'.1 :: c'.2) :
    c = c' := by
  by_contra hne
  have : Std.Symm (Function.onFun List.Disjoint fun c : K × List K => c.1 :: c.2) :=
    ⟨fun _ _ hdisjoint => List.disjoint_symm hdisjoint⟩
  exact (List.nodup_flatMap.mp h.nodup).2.forall hc hc' hne hk hk'

theorem chain_nodup (h : Splits prev nodes chains) {c : K × List K} (hc : c ∈ chains) :
    (c.1 :: c.2).Nodup :=
  (List.nodup_flatMap.mp h.nodup).1 c hc

/-- A node stands right after its predecessor. -/
theorem exists_pred (h : Splits prev nodes chains) {k k' : K} (hk' : nodes k')
    (hprev : prev k' = some k) :
    ∃ c ∈ chains, ∃ l₁ l₂, c.1 :: c.2 = l₁ ++ k :: k' :: l₂ := by
  obtain ⟨c, hc, hmem⟩ := List.mem_flatMap.mp ((h.mem k').mpr hk')
  rcases List.mem_cons.mp hmem with rfl | hmem
  · rw [h.first c hc] at hprev
    cases hprev
  · -- what stands before it in its chain is the node it points to
    obtain ⟨k₀, l₁, l₂, hsplit⟩ := exists_before hmem
    have hlink := h.link hc hsplit
    rw [hprev] at hlink
    rw [← Option.some.inj hlink] at hsplit
    exact ⟨c, hc, l₁, l₂, hsplit⟩

/-- The last node of a chain is the one that no node points to. -/
theorem last_iff (h : Splits prev nodes chains) {c : K × List K} (hc : c ∈ chains) {k : K}
    (hk : k ∈ c.1 :: c.2) : k = (c.1 :: c.2).getLast (List.cons_ne_nil _ _) ↔
      ¬∃ k', nodes k' ∧ prev k' = some k := by
  constructor
  · rintro hlast ⟨k', hk', hprev⟩
    obtain ⟨c', hc', l₁, l₂, heq⟩ := h.exists_pred hk' hprev
    have hsame : c = c' := h.unique hc hc' hk (heq ▸ by simp)
    subst hsame
    -- the last node would occur twice
    have hnodup := h.chain_nodup hc
    have hmem : k ∈ k' :: l₂ := by
      have hlast' : k = (k' :: l₂).getLast (List.cons_ne_nil _ _) := by
        rw [hlast]
        simp only [heq, List.getLast_append_of_ne_nil _ (List.cons_ne_nil _ _),
          List.getLast_cons_cons]
      exact hlast' ▸ List.getLast_mem _
    rw [heq] at hnodup
    exact (List.nodup_cons.mp (List.nodup_append.mp hnodup).2.1).1 hmem
  · intro hnone
    obtain ⟨l₁, l₂, heq⟩ := List.append_of_mem hk
    -- whatever followed the node would point to it
    cases l₂ with
    | nil => simp only [heq, List.getLast_append_singleton]
    | cons k' l₂ =>
      exact absurd ⟨k', h.mem_nodes hc (heq ▸ by simp), h.link hc heq⟩ hnone

/-- A node without a predecessor starts a chain. -/
theorem start (h : Splits prev nodes chains) {k : K} (hk : ¬nodes k) (hprev : prev k = none) :
    Splits prev (fun x => x = k ∨ nodes x) ((k, []) :: chains) where
  nodup := List.nodup_cons.mpr ⟨fun hmem => hk ((h.mem k).mp hmem), h.nodup⟩
  mem x := List.mem_cons.trans (or_congr_right (h.mem x))
  first c hc := by
    rcases List.mem_cons.mp hc with rfl | hc
    · exact hprev
    · exact h.first c hc
  links c hc := by
    rcases List.mem_cons.mp hc with rfl | hc
    · exact .singleton _
    · exact h.links c hc

/-- A node after one that nothing points to yet extends a chain. -/
theorem extend (h : Splits prev nodes chains) {k k' : K} (hk : nodes k) (hk' : ¬nodes k')
    (hnone : ¬∃ x, nodes x ∧ prev x = some k) (hprev : prev k' = some k) :
    ∃ chains', Splits prev (fun x => x = k' ∨ nodes x) chains' := by
  obtain ⟨c, hc, hmem⟩ := List.mem_flatMap.mp ((h.mem k).mpr hk)
  have hlast := (h.last_iff hc hmem).mpr hnone
  obtain ⟨pre, post, rfl⟩ := List.append_of_mem hc
  -- the longer chains have one element more
  have hperm : (elements (pre ++ (c.1, c.2 ++ [k']) :: post)).Perm
      (k' :: elements (pre ++ c :: post)) := by
    have heq : elements (pre ++ (c.1, c.2 ++ [k']) :: post)
        = (elements pre ++ (c.1 :: c.2)) ++ k' :: elements post := by
      simp [elements]
    have heq' : elements (pre ++ c :: post)
        = (elements pre ++ (c.1 :: c.2)) ++ elements post := by
      simp [elements]
    rw [heq, heq']
    exact List.perm_middle
  refine ⟨pre ++ (c.1, c.2 ++ [k']) :: post, ?_, ?_, ?_, ?_⟩
  · -- nodup
    exact hperm.nodup_iff.mpr
      (List.nodup_cons.mpr ⟨fun hmem => hk' ((h.mem k').mp hmem), h.nodup⟩)
  · -- mem
    intro x
    rw [hperm.mem_iff, List.mem_cons, h.mem]
  · -- first
    intro d hd
    rcases List.mem_append.mp hd with hd | hd
    · exact h.first d (List.mem_append_left _ hd)
    · rcases List.mem_cons.mp hd with rfl | hd
      · exact h.first c hc
      · exact h.first d (List.mem_append_right _ (List.mem_cons_of_mem _ hd))
  · -- links: the element goes after the last of its chain
    intro d hd
    rcases List.mem_append.mp hd with hd | hd
    · exact h.links d (List.mem_append_left _ hd)
    · rcases List.mem_cons.mp hd with rfl | hd
      · show ((c.1 :: c.2) ++ [k']).IsChain _
        refine (h.links c hc).append (.singleton _) fun x hx y hy => ?_
        rw [List.getLast?_eq_some_getLast (List.cons_ne_nil _ _), Option.mem_some_iff,
          ← hlast] at hx
        rw [List.head?_cons, Option.mem_some_iff] at hy
        rw [← hx, ← hy]
        exact hprev
      · exact h.links d (List.mem_append_right _ (List.mem_cons_of_mem _ hd))

end Splits

/-! ## Sums -/

variable [AddCommGroup M]

/-- In a sum in which each summand undoes the one before it, an even number of them
cancel, but for what of the first is not undone. -/
theorem sum_alternating {f g : K → M} {k : K} {ks : List K}
    (h : (k :: ks).IsChain fun x y => f y = -f x - g x) (hg : ∀ x ∈ ks, g x = 0) :
    ((k :: ks).map f).sum = if Even ks.length then f k else -g k := by
  induction ks generalizing k with
  | nil => simp
  | cons k' ks ih =>
    obtain ⟨hlink, hrest⟩ := List.isChain_cons_cons.mp h
    obtain ⟨hk', hks⟩ := List.forall_mem_cons.mp hg
    rw [List.map_cons, List.sum_cons, ih hrest hks, hlink, hk', List.length_cons]
    by_cases heven : Even ks.length
    · rw [if_pos heven, if_neg (by simpa [Nat.even_add_one] using heven)]
      abel
    · simp [heven, Nat.even_add_one]

/-- The sum over all nodes, chain by chain. -/
theorem sum_elements_eq {f g : K → M} {chains : List (K × List K)}
    (h : ∀ c ∈ chains, (c.1 :: c.2).IsChain fun x y => f y = -f x - g x)
    (hg : ∀ c ∈ chains, ∀ x ∈ c.2, g x = 0) :
    ((elements chains).map f).sum
      = (chains.map fun c => if Even c.2.length then f c.1 else -g c.1).sum := by
  induction chains with
  | nil => rfl
  | cons c chains ih =>
    rw [elements, List.flatMap_cons, List.map_append, List.sum_append, ← elements,
      ih (fun c' hc' => h c' (List.mem_cons_of_mem _ hc'))
        fun c' hc' => hg c' (List.mem_cons_of_mem _ hc'),
      sum_alternating (h c List.mem_cons_self) (hg c List.mem_cons_self), List.map_cons,
      List.sum_cons]

namespace Splits

variable {prev : K → Option K} {nodes : K → Prop} {chains : List (K × List K)}

/-- What is not first in its chain has a predecessor. -/
theorem prev_of_mem_tail (h : Splits prev nodes chains) {c : K × List K} (hc : c ∈ chains)
    {k : K} (hk : k ∈ c.2) : ∃ k₀, prev k = some k₀ := by
  obtain ⟨k₀, l₁, l₂, hsplit⟩ := exists_before hk
  exact ⟨k₀, h.link hc hsplit⟩

/-- Where nodes undo their predecessors, the first nodes of the chains with an even
number of further nodes remain, and of the others what is not undone of them. -/
theorem sum_elements (h : Splits prev nodes chains) {f g : K → M}
    (hf : ∀ k k', nodes k' → prev k' = some k → f k' = -f k - g k)
    (hg : ∀ k k', nodes k' → prev k' = some k → g k' = 0) :
    ((elements chains).map f).sum
      = (chains.map fun c => if Even c.2.length then f c.1 else -g c.1).sum := by
  refine sum_elements_eq (fun c hc => ?_) fun c hc k hk => ?_
  · refine List.isChain_iff_forall_rel_of_append_cons_cons.mpr fun a b l₁ l₂ heq => ?_
    exact hf a b (h.mem_nodes hc (heq ▸ by simp)) (h.link hc heq)
  · obtain ⟨k₀, hprev⟩ := h.prev_of_mem_tail hc hk
    exact hg k₀ k (h.mem_nodes hc (List.mem_cons_of_mem _ hk)) hprev

/-- A node without a predecessor and the one node after it, the last, are a chain. -/
theorem eq_pair (h : Splits prev nodes chains) {k k' : K} (hk' : nodes k')
    (hprev : prev k' = some k) (hfirst : prev k = none)
    (hlast : ¬∃ x, nodes x ∧ prev x = some k') : (k, [k']) ∈ chains := by
  obtain ⟨c, hc, l₁, l₂, heq⟩ := h.exists_pred hk' hprev
  have hnil₁ : l₁ = [] := by
    cases l₁ with
    | nil => rfl
    | cons x l₁ =>
      -- `k` would come after another node
      rw [List.cons_append, List.cons.injEq] at heq
      have hmem : k ∈ c.2 := heq.2 ▸ by simp
      obtain ⟨k₀, hk₀⟩ := h.prev_of_mem_tail hc hmem
      rw [hfirst] at hk₀
      cases hk₀
  have hnil₂ : l₂ = [] := by
    cases l₂ with
    | nil => rfl
    | cons x l₂ =>
      -- `x` would come after `k'`
      have hsplit : c.1 :: c.2 = (l₁ ++ [k]) ++ k' :: x :: l₂ := by simp [heq]
      exact absurd ⟨x, h.mem_nodes hc (heq ▸ by simp), h.link hc hsplit⟩ hlast
  subst hnil₁ hnil₂
  obtain ⟨hfst, hsnd⟩ := List.cons.inj heq
  have hpair : c = (k, [k']) := Prod.ext hfst hsnd
  exact hpair ▸ hc

end Splits

end CoreBanking.Chains
