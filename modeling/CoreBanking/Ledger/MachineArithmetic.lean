import CoreBanking.Base.Int64
import CoreBanking.Ledger.TrialBalance

/-!
# Postings under 64-bit arithmetic

`Amount` is an `int64` in the code, and Go's addition wraps modulo `2 ^ 64`.
`validateBalance` compares two wrapped sums of amounts that are only checked
to be positive.

- `unbalanced_posting`: a posting of four legs whose exact debits are `2 ^ 64`
  more than its exact credits is accepted;
- `posting_exact_iff`: `PostTransaction` keeps exact double entry for a request
  unless the exact totals differ by a nonzero multiple of `2 ^ 64` and no other
  check refuses the request;
- `posting_exact_of_lt`: so it does for all requests whose totals are below
  `2 ^ 64`;
- `wrap_exactBalance`: a balance is the exact balance, wrapped.
-/

namespace CoreBanking.Ledger

open DoubleEntry

/-! ## Exact totals -/

/-- The exact sum of the amounts in one direction. What is not a debit counts as a credit, as
it does in `validateBalance`. -/
def exactTotal (d : Direction) (entries : List (Entry Int64)) : ℤ :=
  (entries.map fun e => if e.direction.counted = d then e.amount.toInt else 0).sum

/-- The exact total of a posting wraps to its total. -/
theorem ofInt_exactTotal_sub (entries : List (Entry Int64)) :
    Int64.ofInt (exactTotal .debit entries - exactTotal .credit entries)
      = total (legs entries) := by
  induction entries with
  | nil => rfl
  | cons e es ih =>
    rw [legs_cons, total_cons, ← ih]
    simp only [exactTotal, List.map_cons, List.sum_cons, Entry.leg]
    by_cases hdebit : e.direction = .debit
    · have hreorder : ∀ x y z : ℤ, x + y - (0 + z) = x + (y - z) := by
        intros
        omega
      have hcounted : Direction.debit.counted = .debit := rfl
      simp only [hdebit, hcounted, if_true, reduceCtorEq, if_false]
      rw [hreorder, Int64.ofInt_add, Int64.ofInt_toInt]
    · have hreorder : ∀ x y z : ℤ, 0 + y - (x + z) = -x + (y - z) := by
        intros
        omega
      have hcounted : e.direction.counted = .credit := by
        cases hdir : e.direction with
        | debit => exact absurd hdir hdebit
        | credit | other => rfl
      simp only [hdebit, hcounted, if_true, reduceCtorEq, if_false]
      rw [hreorder, Int64.ofInt_add, Int64.ofInt_neg, Int64.ofInt_toInt]

/-- `validateBalance` sees the exact totals modulo `2 ^ 64`. -/
theorem validateBalance_iff_dvd (entries : List (Entry Int64)) :
    ValidateBalance entries ↔
      (2 ^ 64 : ℤ) ∣ exactTotal .debit entries - exactTotal .credit entries := by
  rw [validateBalance_iff, DoubleEntry.Balanced, ← ofInt_exactTotal_sub, ofInt_eq_zero_iff]

namespace Book

/-- The exact totals of the request differ, but by a multiple of `2 ^ 64`, and
it passes the five checks other than `validateBalance`. -/
structure Wraps (s : Book Int64) (req : PostTransactionRequest Int64) : Prop where
  nonempty : req.entries ≠ []
  positive : ∀ e ∈ req.entries, 0 < e.amount
  accounts : ∀ e ∈ req.entries, (s.accounts.lookup e.accountID).isSome
  key : req.idempotencyKey = "" ∨
    s.idempotencyIndex.lookup req.idempotencyKey = none
  sufficient : s.Sufficient req.entries
  differ : exactTotal .debit req.entries ≠ exactTotal .credit req.entries
  multiple : (2 ^ 64 : ℤ) ∣
    exactTotal .debit req.entries - exactTotal .credit req.entries

/-- If the posting succeeds, its exact debits equal its exact credits. -/
def PostsExactly (s : Book Int64) (now : Time)
    (req : PostTransactionRequest Int64) : Prop :=
  ∀ tx s', postTransaction now req s = .ok tx s' →
    exactTotal .debit req.entries = exactTotal .credit req.entries

/-- A request that wraps is accepted. -/
theorem Wraps.accepts {s : Book Int64} {req : PostTransactionRequest Int64}
    (h : s.Wraps req) : s.Accepts req where
  nonempty := h.nonempty
  positive := h.positive
  accounts := h.accounts
  key := h.key
  balanced := (validateBalance_iff_dvd _).mpr h.multiple
  sufficient := h.sufficient

theorem Wraps.not_postsExactly {s : Book Int64}
    {req : PostTransactionRequest Int64} (h : s.Wraps req) (now : Time) :
    ¬s.PostsExactly now req := by
  intro hexact
  exact h.differ (hexact _ _ (postTransaction_of_accepts h.accepts now))

theorem postsExactly_of_not_wraps {s : Book Int64}
    {req : PostTransactionRequest Int64} (h : ¬s.Wraps req) (now : Time) :
    s.PostsExactly now req := by
  intro tx s' hok
  obtain ⟨hacc, -, -⟩ := postTransaction_eq_ok.mp hok
  by_contra hne
  exact h
    { nonempty := hacc.nonempty
      positive := hacc.positive
      accounts := hacc.accounts
      key := hacc.key
      sufficient := hacc.sufficient
      differ := hne
      multiple := (validateBalance_iff_dvd _).mp hacc.balanced }

/-- **Double entry under machine arithmetic** holds for a request, in any book,
exactly if the request does not wrap. -/
theorem posting_exact_iff (s : Book Int64) (now : Time)
    (req : PostTransactionRequest Int64) :
    s.PostsExactly now req ↔ ¬s.Wraps req :=
  ⟨fun hexact hwraps => hwraps.not_postsExactly now hexact,
    fun hwraps => postsExactly_of_not_wraps hwraps now⟩

theorem exactTotal_nonneg {d : Direction} {entries : List (Entry Int64)}
    (h : ∀ e ∈ entries, 0 < e.amount) : 0 ≤ exactTotal d entries := by
  refine List.sum_nonneg fun x hx => ?_
  obtain ⟨e, he, rfl⟩ := List.mem_map.mp hx
  have hpos : (0 : Int64).toInt < e.amount.toInt :=
    Int64.lt_iff_toInt_lt.mp (h e he)
  rw [Int64.toInt_zero] at hpos
  split <;> omega

/-- Totals that fit in 64 bits, as any realistic request has, never wrap. -/
theorem posting_exact_of_lt (s : Book Int64) (now : Time)
    (req : PostTransactionRequest Int64)
    (hdebit : exactTotal .debit req.entries < 2 ^ 64)
    (hcredit : exactTotal .credit req.entries < 2 ^ 64) :
    s.PostsExactly now req := by
  refine postsExactly_of_not_wraps (fun hwraps => ?_) now
  have hd := exactTotal_nonneg (d := .debit) hwraps.positive
  have hc := exactTotal_nonneg (d := .credit) hwraps.positive
  obtain ⟨k, hk⟩ := hwraps.multiple
  have hne := hwraps.differ
  omega

/-! ## Exact balances -/

end Book

/-- The entry with its amount as an exact integer. -/
def Entry.exact (e : Entry Int64) : Entry ℤ where
  id := e.id
  accountID := e.accountID
  amount := e.amount.toInt
  direction := e.direction

theorem wrap_exact_effect (normal : Direction) (a : AccountID) (e : Entry Int64) :
    wrap (e.exact.effect normal a) = e.effect normal a := by
  unfold Entry.effect Entry.exact
  by_cases ha : e.accountID ≠ a
  · rw [if_pos ha, if_pos ha, map_zero]
  · rw [if_neg ha, if_neg ha]
    by_cases hd : e.direction = normal
    · rw [if_pos hd, if_pos hd, wrap_toInt]
    · rw [if_neg hd, if_neg hd, map_neg, wrap_toInt]

theorem wrap_effect (normal : Direction) (a : AccountID) (entries : List (Entry Int64)) :
    wrap (effect normal a (entries.map Entry.exact)) = effect normal a entries := by
  rw [effect, map_list_sum, List.map_map, List.map_map, effect]
  exact congrArg List.sum (List.map_congr_left fun e _ => wrap_exact_effect normal a e)

namespace Book

/-- The balance of an account, computed in exact integers. -/
def exactBalance (s : Book Int64) (a : AccountID) : ℤ :=
  match s.accounts.lookup a with
  | none => 0
  | some acct => s.transactions.sum fun _ tx =>
      effect acct.type.normalBalance a (tx.entries.map Entry.exact)

theorem wrap_exactBalance (s : Book Int64) (a : AccountID) :
    wrap (s.exactBalance a) = s.balance a := by
  cases ha : s.accounts.lookup a with
  | none =>
    rw [exactBalance, balance, bookBalance, ha]
    exact map_zero wrap
  | some acct =>
    rw [balance_of_lookup ha, exactBalance, ha, computeBookBalance, Finmap.map_sum]
    exact Finmap.sum_congr fun _ tx _ => wrap_effect _ a tx.entries

/-! ## A posting that wraps -/

/-- A book with two Liability accounts. -/
def twoLiabilities : Book Int64 :=
  reached ([.createLedger "General Ledger",
    .createSubledger ⟨"ldg_1"⟩ "Main",
    .createAccount ⟨"sub_3"⟩ "A" .liability,
    .createAccount ⟨"sub_3"⟩ "B" .liability].map fun op => (⟨1, 0⟩, op))

/-- Debits of `2 ^ 64 + 1` in all against a credit of 1. -/
def wrappingRequest : PostTransactionRequest Int64 :=
  let a : AccountID := ⟨"acct_5"⟩
  { entries :=
      [{ accountID := a, amount := 9223372036854775807, direction := .debit },
        { accountID := a, amount := 9223372036854775807, direction := .debit },
        { accountID := a, amount := 3, direction := .debit },
        { accountID := ⟨"acct_7"⟩, amount := 1, direction := .credit }] }

/-- The wrapping request is accepted. -/
theorem unbalanced_posting : ¬∀ (steps : List (Time × Op Int64)) (now : Time)
    (req : PostTransactionRequest Int64), (reached steps).PostsExactly now req := by
  intro h
  have hwraps : twoLiabilities.Wraps wrappingRequest :=
    { nonempty := by decide
      positive := by decide +kernel
      accounts := by decide +kernel
      key := .inl rfl
      sufficient := by
        intro a acct hacct htype
        have hliab : ∀ e ∈ twoLiabilities.accounts.pairs,
            e.2.type = .liability := by
          decide +kernel
        have := hliab (a, acct) (Finmap.mem_pairs.mpr hacct)
        rcases htype with htype | htype <;> rw [this] at htype <;> cases htype
      differ := by decide +kernel
      multiple := by decide +kernel }
  exact hwraps.not_postsExactly Time.zero (h _ _ _)

end Book

end CoreBanking.Ledger
