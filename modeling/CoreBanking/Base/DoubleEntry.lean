import CoreBanking.Base.GoMap

/-!
# Double-entry bookkeeping, abstractly

A posting moves signed amounts (debits positive, credits negative) on accounts
of any type, in any additive group; it is balanced when the amounts sum to
zero. A journal is a map of records that each carry a posting.

- `total_append`, `net_reverse`: totals and net movements under concatenation
  and reversal of postings;
- `sum_net`: over accounts that include all those of a posting, the net
  movements sum to the total of the posting;
- `trial_balance`: hence, over a journal of balanced postings, the net
  movements of all accounts sum to zero.
-/

namespace CoreBanking.DoubleEntry

variable {A M : Type} [AddCommGroup M]

/-- Signed amounts on accounts, debits positive. -/
abbrev Posting (A M : Type) : Type := List (A × M)

/-- The sum of all amounts of a posting. -/
def total (p : Posting A M) : M := (p.map Prod.snd).sum

/-- Debits equal credits. -/
def Balanced (p : Posting A M) : Prop := total p = 0

/-- The posting that undoes `p`. -/
def reverse (p : Posting A M) : Posting A M := p.map fun l => (l.1, -l.2)

@[simp] theorem total_nil : total ([] : Posting A M) = 0 := rfl

@[simp] theorem total_cons (l : A × M) (p : Posting A M) :
    total (l :: p) = l.2 + total p := by
  simp [total]

@[simp] theorem total_append (p q : Posting A M) :
    total (p ++ q) = total p + total q := by
  simp [total]

@[simp] theorem total_reverse (p : Posting A M) :
    total (reverse p) = -total p := by
  induction p with
  | nil => simp [reverse]
  | cons l p ih =>
    rw [reverse, List.map_cons, ← reverse, total_cons, total_cons, ih, neg_add]

theorem Balanced.reverse {p : Posting A M} (h : Balanced p) :
    Balanced (reverse p) := by
  rw [Balanced, total_reverse, h, neg_zero]

variable [DecidableEq A]

/-- The net movement of a posting on account `a`. -/
def net (a : A) (p : Posting A M) : M :=
  (p.map fun l => if l.1 = a then l.2 else 0).sum

@[simp] theorem net_nil (a : A) : net a ([] : Posting A M) = 0 := rfl

@[simp] theorem net_cons (a : A) (l : A × M) (p : Posting A M) :
    net a (l :: p) = (if l.1 = a then l.2 else 0) + net a p := by
  simp [net]

@[simp] theorem net_reverse (a : A) (p : Posting A M) :
    net a (reverse p) = -net a p := by
  induction p with
  | nil => simp [reverse]
  | cons l p ih =>
    rw [reverse, List.map_cons, ← reverse, net_cons, net_cons, ih, neg_add]
    by_cases h : l.1 = a <;> simp [h]

/-- The net movements of a posting on accounts that include its own sum to its
total. -/
theorem sum_net {V : Type} (accounts : GoMap A V) (p : Posting A M)
    (h : ∀ l ∈ p, l.1 ∈ accounts) :
    (accounts.sum fun a _ => net a p) = total p := by
  induction p with
  | nil => exact Finmap.sum_eq_zero fun _ _ _ => rfl
  | cons l p ih =>
    obtain ⟨v, hv⟩ := Finmap.mem_iff.mp (h l List.mem_cons_self)
    have hone : (accounts.sum fun a _ => if l.1 = a then l.2 else 0) = l.2 := by
      rw [Finmap.sum_eq_single hv, if_pos rfl]
      intro a _ _ hne
      exact if_neg (Ne.symm hne)
    simp only [net_cons, total_cons]
    rw [Finmap.sum_add, hone, ih fun l' h' => h l' (List.mem_cons_of_mem _ h')]

/-- **Trial balance**: over a journal of balanced postings whose accounts all
exist, the net movements of all accounts sum to zero. -/
theorem trial_balance {V T X : Type} [DecidableEq T] (accounts : GoMap A V)
    (journal : GoMap T X) (posting : X → Posting A M)
    (hbalanced : ∀ t x, journal.lookup t = some x → Balanced (posting x))
    (haccounts : ∀ t x, journal.lookup t = some x →
      ∀ l ∈ posting x, l.1 ∈ accounts) :
    (accounts.sum fun a _ => journal.sum fun _ x => net a (posting x)) = 0 := by
  rw [Finmap.sum_comm]
  refine Finmap.sum_eq_zero fun t x htx => ?_
  rw [sum_net accounts (posting x) (haccounts t x htx)]
  exact hbalanced t x htx

end CoreBanking.DoubleEntry
