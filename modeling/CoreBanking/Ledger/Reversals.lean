import CoreBanking.Base.Chains
import CoreBanking.Ledger.Keyed
import CoreBanking.Ledger.TrialBalance

/-!
# Chains of reversals

A reversal is a transaction of its own, and may be reversed in turn. The replay of
`BookBalance` counts all of them, whatever their status.

- `chained_reached`: in a book reached by any calls the transactions split into chains, each
  an original and the reversals that follow it, of which only the last is not reversed;
- `Reversals.sum_effects`: in a chain each transaction undoes the one before it, but for
  what the balance misses of an original, which no reversal does;
- `reversal_chains_iff`: so the originals with an even number of reversals are what the
  balances show, throughout a run, exactly if no original is reversed of which a balance
  misses something;
- `reversal_doubles`: a run in which one is.
-/

namespace CoreBanking.Ledger

open Chains

namespace Book

variable {Amount : Type}

/-- The transaction that `k` reverses. -/
def reversalOf (s : Book Amount) (k : TransactionID) : Option TransactionID :=
  (s.transactions.lookup k).bind Transaction.reversalOf

theorem reversalOf_eq_some {s : Book Amount} {k r : TransactionID} :
    s.reversalOf k = some r ↔
      ∃ t, s.transactions.lookup k = some t ∧ t.reversalOf = some r :=
  Option.bind_eq_some_iff

theorem reversalOf_of_lookup {s : Book Amount} {k : TransactionID}
    {t : Transaction Amount} (h : s.transactions.lookup k = some t) :
    s.reversalOf k = t.reversalOf := by
  rw [reversalOf, h, Option.bind_some]

/-- What reversals have in common with what they reverse. -/
structure Reversals (s : Book Amount) : Prop where
  /-- A reversal has the value date and the opposite entries of its original. -/
  undoes : ∀ k t r, s.transactions.lookup k = some t → t.reversalOf = some r →
    ∃ t₀, s.transactions.lookup r = some t₀ ∧ t.valueDate = t₀.valueDate ∧
      t.entries.map Entry.anonymous = t₀.entries.map Entry.reversed
  /-- It has got its id after its original. -/
  later : ∀ k r, s.reversalOf k = some r →
    ∃ m n, r = ⟨ident "tx" m⟩ ∧ k = ⟨ident "tx" n⟩ ∧ m < n
  split : ∃ chains, Splits s.reversalOf (· ∈ s.transactions) chains

theorem reversals_newBook : (newBook Amount).Reversals where
  undoes k t r h := by simp [newBook] at h
  later k r h := by simp [newBook, reversalOf] at h
  split := by
    have hempty : Splits (newBook Amount).reversalOf (fun _ => False) [] := .empty
    exact ⟨[], hempty.congr (fun _ => iff_of_false Finmap.notMem_empty id) fun _ _ => rfl⟩

/-- Reversals are a matter of the stored transactions. -/
theorem Reversals.of_eq {s s' : Book Amount} (h : s.Reversals)
    (htx : s'.transactions = s.transactions) : s'.Reversals := by
  have hof : s'.reversalOf = s.reversalOf := by
    funext k
    rw [reversalOf, reversalOf, htx]
  exact ⟨htx ▸ h.undoes, hof ▸ h.later, hof ▸ htx ▸ h.split⟩

variable {s s' : Book Amount}

/-! ## What follows from the chains -/

/-- Following reversals back never comes around. -/
theorem Reversals.acyclic (hr : s.Reversals) (k : TransactionID) :
    ¬Relation.TransGen (fun r k => s.reversalOf k = some r) k k := by
  have hlater : ∀ r k, Relation.TransGen (fun r k => s.reversalOf k = some r) r k →
      ∃ m n, r = ⟨ident "tx" m⟩ ∧ k = ⟨ident "tx" n⟩ ∧ m < n := by
    intro r k hpath
    induction hpath with
    | single hlink => exact hr.later _ _ hlink
    | tail _ hlink ih =>
      obtain ⟨m, n, hm, hn, hlt⟩ := ih
      obtain ⟨m', n', hm', hn', hlt'⟩ := hr.later _ _ hlink
      have heq : n = m' := ident_inj.mp (TransactionID.mk.inj (hn.symm.trans hm'))
      exact ⟨m, n', hm, hn', by omega⟩
  intro hcycle
  obtain ⟨m, n, hm, hn, hlt⟩ := hlater k k hcycle
  have heq : m = n := ident_inj.mp (TransactionID.mk.inj (hm.symm.trans hn))
  omega

variable [AddCommGroup Amount]

/-- A reversal turns the effect of its original around, but for what the balance misses of
the original; of the reversal it misses nothing. -/
theorem Reversals.effect_eq (hr : s.Reversals) {k r : TransactionID}
    {t : Transaction Amount} (hk : s.transactions.lookup k = some t)
    (hof : t.reversalOf = some r) (type : AccountType) (a : AccountID) :
    ∃ t₀, s.transactions.lookup r = some t₀ ∧ t.valueDate = t₀.valueDate ∧
      effect type.normalBalance a t.entries
        = -effect type.normalBalance a t₀.entries - undercount type a t₀.entries ∧
      undercount type a t.entries = 0 := by
  obtain ⟨t₀, ht₀, hdate, hentries⟩ := hr.undoes k t r hk hof
  have heffect : effect type.normalBalance a (t.entries.map Entry.anonymous)
      = effect type.normalBalance a t.entries := by
    rw [effect, effect, List.map_map]
    rfl
  have hundercount : undercount type a (t.entries.map Entry.anonymous)
      = undercount type a t.entries := by
    rw [undercount, undercount, undeclaredOn, undeclaredOn, List.map_map]
    rfl
  refine ⟨t₀, ht₀, hdate, ?_, ?_⟩
  · rw [← heffect, hentries, effect_reversed]
  · rw [← hundercount, hentries, undercount_reversed]

/-- What `f` makes of the entries of transaction `k`, if its value date is among those that
count. -/
def dated (s : Book Amount) (counts : Time → Bool) (f : List (Entry Amount) → Amount)
    (k : TransactionID) : Amount :=
  ((s.transactions.lookup k).map fun t => if counts t.valueDate then f t.entries else 0).getD 0

theorem dated_of_lookup {k : TransactionID} {t : Transaction Amount}
    (h : s.transactions.lookup k = some t) (counts : Time → Bool)
    (f : List (Entry Amount) → Amount) :
    s.dated counts f k = if counts t.valueDate then f t.entries else 0 := by
  rw [dated, h, Option.map_some, Option.getD_some]

/-- Over the value dates that count, the sum of all effects on an account of the type is that
of the originals that stand after all reversals, less what the balance misses of the
others. -/
theorem Reversals.sum_effects (hr : s.Reversals)
    {chains : List (TransactionID × List TransactionID)}
    (hsplit : Splits s.reversalOf (· ∈ s.transactions) chains) (type : AccountType)
    (a : AccountID) (counts : Time → Bool) :
    (s.transactions.sum fun _ t =>
        if counts t.valueDate then effect type.normalBalance a t.entries else 0)
      = (chains.map fun c =>
          if Even c.2.length then s.dated counts (effect type.normalBalance a) c.1
          else -s.dated counts (undercount type a) c.1).sum := by
  have hundo : ∀ k k', k' ∈ s.transactions → s.reversalOf k' = some k →
      s.dated counts (effect type.normalBalance a) k'
        = -s.dated counts (effect type.normalBalance a) k
          - s.dated counts (undercount type a) k := by
    intro k k' _ hof
    obtain ⟨t, ht, hof⟩ := reversalOf_eq_some.mp hof
    obtain ⟨t₀, ht₀, hdate, heffect, -⟩ := hr.effect_eq ht hof type a
    rw [dated_of_lookup ht, dated_of_lookup ht₀, dated_of_lookup ht₀, hdate, heffect]
    split
    · rfl
    · simp
  have hnothing : ∀ k k', k' ∈ s.transactions → s.reversalOf k' = some k →
      s.dated counts (undercount type a) k' = 0 := by
    intro k k' _ hof
    obtain ⟨t, ht, hof⟩ := reversalOf_eq_some.mp hof
    obtain ⟨t₀, ht₀, -, -, hzero⟩ := hr.effect_eq ht hof type a
    rw [dated_of_lookup ht, hzero, ite_self]
  rw [← hsplit.sum_elements hundo hnothing]
  refine Finmap.sum_eq_sum_list (elements chains) s.transactions _ hsplit.nodup
    (fun k hk => (hsplit.mem k).mp hk) fun k t hk hno => ?_
  exact absurd ((hsplit.mem k).mpr (Finmap.mem_of_lookup_eq_some hk)) hno

variable [LinearOrder Amount] {now : Time} {op : Op Amount}

/-- In a chain only the last transaction is not reversed. -/
theorem WF.posted_iff_last (h : s.WF)
    {chains : List (TransactionID × List TransactionID)}
    (hsplit : Splits s.reversalOf (· ∈ s.transactions) chains)
    {c : TransactionID × List TransactionID} (hc : c ∈ chains) {k : TransactionID}
    (hk : k ∈ c.1 :: c.2) {t : Transaction Amount}
    (ht : s.transactions.lookup k = some t) :
    t.status = .posted ↔ k = (c.1 :: c.2).getLast (List.cons_ne_nil _ _) := by
  have hnot : t.status = .posted ↔ ¬t.status = .reversed := by
    cases t.status <;> simp
  rw [hnot, hsplit.last_iff hc hk, h.reversed k t ht]
  refine not_congr ⟨?_, ?_⟩
  · rintro ⟨k', t', ht', hof⟩
    exact ⟨k', Finmap.mem_of_lookup_eq_some ht', reversalOf_eq_some.mpr ⟨t', ht', hof⟩⟩
  · rintro ⟨k', -, hof⟩
    exact ⟨k', reversalOf_eq_some.mp hof⟩

/-! ## What the calls do to the chains -/
section Steps

variable {req : PostTransactionRequest Amount} {txID : TransactionID}
  {original : Transaction Amount} {description : String}

/-- Among the old transactions a posting changes nothing. -/
theorem WF.reversalOf_record (h : s.WF) {k : TransactionID} (hk : k ∈ s.transactions) :
    (s.record now (s.newTransaction now req)).reversalOf k = s.reversalOf k := by
  obtain ⟨t, ht⟩ := Finmap.mem_iff.mp hk
  rw [reversalOf_of_lookup ht, reversalOf_of_lookup (h.lookup_record.mpr (.inr ht))]

/-- Nor does a reversal. -/
theorem WF.reversalOf_recordReversal (h : s.WF)
    (hstored : s.transactions.lookup txID = some original) {k : TransactionID}
    (hk : k ∈ s.transactions) :
    (s.recordReversal now txID original description).reversalOf k = s.reversalOf k := by
  obtain ⟨t, ht⟩ := Finmap.mem_iff.mp hk
  rw [reversalOf_of_lookup ht,
    reversalOf_of_lookup (h.lookup_recordReversal_old now description hstored ht),
    apply_ite Transaction.reversalOf, ite_self]

/-- A posting starts a chain. -/
theorem Reversals.record (hr : s.Reversals) (h : s.WF) :
    (s.record now (s.newTransaction now req)).Reversals := by
  have hnone : (s.newTransaction now req).reversalOf = none := rfl
  have hnew : (s.newTransaction now req).id ∉ s.transactions :=
    Finmap.lookup_eq_none.mp (h.fresh_newTransaction now req)
  refine ⟨?_, ?_, ?_⟩
  · -- undoes
    intro k t r hk hof
    rcases h.lookup_record.mp hk with ⟨-, rfl⟩ | hk
    · rw [hnone] at hof
      cases hof
    · obtain ⟨t₀, ht₀, hterms⟩ := hr.undoes k t r hk hof
      exact ⟨t₀, h.lookup_record.mpr (.inr ht₀), hterms⟩
  · -- later
    intro k r hof
    obtain ⟨t, hk, hof⟩ := reversalOf_eq_some.mp hof
    rcases h.lookup_record.mp hk with ⟨-, rfl⟩ | hk
    · rw [hnone] at hof
      cases hof
    · exact hr.later k r (reversalOf_eq_some.mpr ⟨t, hk, hof⟩)
  · -- split: the new transaction is a chain of its own
    obtain ⟨chains, hsplit⟩ := hr.split
    have hold : Splits (s.record now (s.newTransaction now req)).reversalOf
        (· ∈ s.transactions) chains :=
      hsplit.congr (fun _ => Iff.rfl) fun k hk => h.reversalOf_record hk
    have hlook : (s.record now (s.newTransaction now req)).transactions.lookup
        (s.newTransaction now req).id = some (s.newTransaction now req) :=
      h.lookup_record.mpr (.inl ⟨rfl, rfl⟩)
    have hfirst := (reversalOf_of_lookup hlook).trans hnone
    exact ⟨_, (hold.start hnew hfirst).congr (fun _ => Finmap.mem_insert) fun _ _ => rfl⟩

/-- A reversal extends the chain of its original. -/
theorem Reversals.recordReversal (hr : s.Reversals) (h : s.WF)
    (hstored : s.transactions.lookup txID = some original)
    (hstatus : original.status ≠ .reversed) :
    (s.recordReversal now txID original description).Reversals := by
  have hid : original.id = txID := h.transaction_id txID original hstored
  have hmem : txID ∈ s.transactions := Finmap.mem_of_lookup_eq_some hstored
  have hnew : (s.newReversal now original description).id ∉ s.transactions :=
    Finmap.lookup_eq_none.mp (h.fresh_newReversal now original description)
  -- only the status of the original changes
  have hold : ∀ {k t}, s.transactions.lookup k = some t → ∃ t',
      (s.recordReversal now txID original description).transactions.lookup k = some t' ∧
        t'.valueDate = t.valueDate ∧ t'.entries = t.entries ∧
        t'.reversalOf = t.reversalOf := by
    intro k t ht
    refine ⟨_, h.lookup_recordReversal_old now description hstored ht, ?_⟩
    split <;> exact ⟨rfl, rfl, rfl⟩
  refine ⟨?_, ?_, ?_⟩
  · -- undoes: the new reversal undoes its original, and this is kept
    intro k t r hk hof
    rcases (h.lookup_recordReversal hstored).mp hk with ⟨-, rfl⟩ | ⟨t₁, ht₁, rfl⟩
    · rw [WF.newReversal_reversalOf, hid] at hof
      cases hof
      obtain ⟨t', ht', hdate, hentries, -⟩ := hold hstored
      refine ⟨t', ht', hdate.symm, ?_⟩
      rw [hentries]
      show (assignIDs s.idCounter (original.entries.map Entry.reversed)).map
        Entry.anonymous = _
      rw [map_assignIDs Entry.anonymous fun _ _ => rfl, List.map_map]
      rfl
    · rw [apply_ite Transaction.reversalOf, ite_self] at hof
      rw [apply_ite Transaction.valueDate, ite_self, apply_ite Transaction.entries, ite_self]
      obtain ⟨t₀, ht₀, hdate, hentries⟩ := hr.undoes k t₁ r ht₁ hof
      obtain ⟨t', ht', hdate', hentries', -⟩ := hold ht₀
      exact ⟨t', ht', hdate.trans hdate'.symm, hentries' ▸ hentries⟩
  · -- later: the id of the original was drawn before
    intro k r hof
    obtain ⟨t, hk, hof⟩ := reversalOf_eq_some.mp hof
    rcases (h.lookup_recordReversal hstored).mp hk with ⟨rfl, rfl⟩ | ⟨t₁, ht₁, rfl⟩
    · rw [WF.newReversal_reversalOf, hid] at hof
      cases hof
      obtain ⟨m, hm, heq⟩ := h.transactionIDs txID hmem
      exact ⟨m, _, heq, rfl, by omega⟩
    · rw [apply_ite Transaction.reversalOf, ite_self] at hof
      exact hr.later k r (reversalOf_eq_some.mpr ⟨t₁, ht₁, hof⟩)
  · -- split
    obtain ⟨chains, hsplit⟩ := hr.split
    have hsame : Splits (s.recordReversal now txID original description).reversalOf
        (· ∈ s.transactions) chains :=
      hsplit.congr (fun _ => Iff.rfl) fun k hk => h.reversalOf_recordReversal hstored hk
    -- nothing reverses the original yet, as it is not marked
    have hlast : ¬∃ x, x ∈ s.transactions ∧
        (s.recordReversal now txID original description).reversalOf x = some txID := by
      rintro ⟨x, hx, hof⟩
      rw [h.reversalOf_recordReversal hstored hx] at hof
      obtain ⟨t, ht, hof⟩ := reversalOf_eq_some.mp hof
      exact hstatus ((h.reversed txID original hstored).mpr ⟨x, t, ht, hof⟩)
    -- so the new reversal goes after it
    have hof : (s.recordReversal now txID original description).reversalOf
        (s.newReversal now original description).id = some txID := by
      have hlook : (s.recordReversal now txID original description).transactions.lookup
          (s.newReversal now original description).id
            = some (s.newReversal now original description) :=
        (h.lookup_recordReversal hstored).mpr (.inl ⟨rfl, rfl⟩)
      rw [reversalOf_of_lookup hlook, WF.newReversal_reversalOf, hid]
    obtain ⟨chains', hsplit'⟩ := hsame.extend hmem hnew hlast hof
    refine ⟨chains', hsplit'.congr (fun k => ?_) fun _ _ => rfl⟩
    rw [Book.recordReversal, Finmap.mem_insert, Finmap.mem_insert]
    refine or_congr_right (or_iff_right_of_imp ?_)
    rintro rfl
    exact hmem

end Steps

theorem Change.reversals (hc : Change now s op s') (h : s.WF) (hr : s.Reversals) :
    s'.Reversals := by
  cases hc with
  | refused => exact hr
  | ledger => exact hr.of_eq rfl
  | subledger => exact hr.of_eq rfl
  | account => exact hr.of_eq rfl
  | post req hacc => exact hr.record h
  | reverse txID description original hstored hstatus =>
    exact hr.recordReversal h hstored hstatus

theorem reversals_reached (steps : List (Time × Op Amount)) :
    (reached steps : Book Amount).Reversals := by
  have hstep : ∀ step (s : Book Amount), s.WF → s.Reversals → (exec step s).Reversals :=
    fun step s h hr => (exec_change step.1 step.2 s).reversals h hr
  exact run_invariant_of exec_wf hstep wf_newBook reversals_newBook steps

/-- A transaction has at most one reversal, and has one exactly if it is marked as reversed;
following reversals back never comes around. The transactions split into chains in which only
the last is posted. -/
structure Chained (s : Book Amount) : Prop where
  unique : ∀ k k₁ k₂, s.reversalOf k₁ = some k → s.reversalOf k₂ = some k → k₁ = k₂
  reversed : ∀ k t, s.transactions.lookup k = some t →
    (t.status = .reversed ↔ ∃! k', s.reversalOf k' = some k)
  acyclic : ∀ k, ¬Relation.TransGen (fun r k => s.reversalOf k = some r) k k
  split : ∃ chains : List (TransactionID × List TransactionID),
    Splits s.reversalOf (· ∈ s.transactions) chains ∧
    ∀ c ∈ chains, ∀ k ∈ c.1 :: c.2, ∀ t, s.transactions.lookup k = some t →
      (t.status = .posted ↔ k = (c.1 :: c.2).getLast (List.cons_ne_nil _ _))

theorem chained_reached (steps : List (Time × Op Amount)) :
    (reached steps : Book Amount).Chained := by
  let s : Book Amount := reached steps
  have h : s.WF := wf_reached steps
  have hr : s.Reversals := reversals_reached steps
  have hunique : ∀ k k₁ k₂, s.reversalOf k₁ = some k → s.reversalOf k₂ = some k →
      k₁ = k₂ := by
    intro k k₁ k₂ h₁ h₂
    obtain ⟨t₁, ht₁, hof₁⟩ := reversalOf_eq_some.mp h₁
    obtain ⟨t₂, ht₂, hof₂⟩ := reversalOf_eq_some.mp h₂
    exact h.reversal_unique k₁ k₂ t₁ t₂ k ht₁ ht₂ hof₁ hof₂
  obtain ⟨chains, hsplit⟩ := hr.split
  refine ⟨hunique, fun k t hk => ?_, hr.acyclic, chains, hsplit,
    fun c hc k hk t ht => h.posted_iff_last hsplit hc hk ht⟩
  rw [h.reversed k t hk]
  constructor
  · rintro ⟨k', t', ht', hof⟩
    have hof' := reversalOf_eq_some.mpr ⟨t', ht', hof⟩
    exact ⟨k', hof', fun k'' hof'' => hunique k k'' k' hof'' hof'⟩
  · rintro ⟨k', hof, -⟩
    exact ⟨k', reversalOf_eq_some.mp hof⟩

/-! ## What the balances show of the chains -/

section Standing

variable {s : Book ℤ} {chains : List (TransactionID × List TransactionID)}

/-- The effects on an account, over all transactions up to any cut-off date and over all that
there are, are those of the originals with an even number of reversals. -/
def AddsUp (s : Book ℤ) (chains : List (TransactionID × List TransactionID)) : Prop :=
  ∀ a acct, s.accounts.lookup a = some acct →
    (∀ cutoff : Time,
      (s.transactions.sum fun _ t =>
        if t.valueDate.ns ≤ cutoff.ns then effect acct.type.normalBalance a t.entries else 0)
      = (chains.map fun c => if Even c.2.length
          then s.dated (fun date => date.ns ≤ cutoff.ns) (effect acct.type.normalBalance a) c.1
          else 0).sum) ∧
    s.bookBalance a = .ok (chains.map fun c => if Even c.2.length
      then s.dated (fun _ => true) (effect acct.type.normalBalance a) c.1 else 0).sum

/-- Nothing is reversed of which a balance misses something. -/
def Cancels (s : Book ℤ) : Prop :=
  ∀ k k' t, s.reversalOf k' = some k → s.transactions.lookup k = some t →
    ∀ a acct, s.accounts.lookup a = some acct → Faithful acct.type a t.entries

theorem Cancels.addsUp (hcancels : s.Cancels) (hr : s.Reversals)
    (hsplit : Splits s.reversalOf (· ∈ s.transactions) chains) : s.AddsUp chains := by
  intro a acct hacct
  -- an original that is reversed is faithful
  have hzero : ∀ counts, ∀ c ∈ chains, ¬Even c.2.length →
      s.dated counts (undercount acct.type a) c.1 = 0 := by
    rintro counts ⟨k, ks⟩ hc hodd
    cases ks with
    | nil => exact absurd ⟨0, rfl⟩ hodd
    | cons k' ks =>
      obtain ⟨t, ht⟩ := Finmap.mem_iff.mp (hsplit.mem_nodes hc List.mem_cons_self)
      have hlink : s.reversalOf k' = some k := hsplit.link hc (List.nil_append _).symm
      rw [dated_of_lookup ht, (hcancels k k' t hlink ht a acct hacct).undercount_eq_zero,
        ite_self]
  have hsums : ∀ counts, (s.transactions.sum fun _ t =>
      if counts t.valueDate then effect acct.type.normalBalance a t.entries else 0)
        = (chains.map fun c => if Even c.2.length
            then s.dated counts (effect acct.type.normalBalance a) c.1 else 0).sum := by
    intro counts
    rw [hr.sum_effects hsplit]
    refine congrArg List.sum (List.map_congr_left fun c hc => ?_)
    split
    · rfl
    · next hodd => rw [hzero counts c hc hodd, neg_zero]
  refine ⟨fun cutoff => ?_, ?_⟩
  · rw [← hsums]
    simp only [decide_eq_true_eq]
  · rw [bookBalance_of_lookup hacct, balance_of_lookup hacct, computeBookBalance, ← hsums]
    simp only [if_true]

/-- Where the effects are those of the standing originals, an original that is reversed once
is faithful: what the balances miss of such originals is never negative, so it is zero. -/
theorem AddsUp.faithful (hadds : s.AddsUp chains) (h : s.WF) (hr : s.Reversals)
    (hsplit : Splits s.reversalOf (· ∈ s.transactions) chains) {k k' : TransactionID}
    (hc : (k, [k']) ∈ chains) {t : Transaction ℤ} (ht : s.transactions.lookup k = some t)
    {a : AccountID} {acct : Account} (hacct : s.accounts.lookup a = some acct) :
    Faithful acct.type a t.entries := by
  let missed (c : TransactionID × List TransactionID) : ℤ :=
    if Even c.2.length then 0 else s.dated (fun _ => true) (undercount acct.type a) c.1
  have hnonneg : ∀ x ∈ chains.map missed, 0 ≤ x := by
    intro x hx
    obtain ⟨c, hmem, rfl⟩ := List.mem_map.mp hx
    obtain ⟨t', ht'⟩ := Finmap.mem_iff.mp (hsplit.mem_nodes hmem List.mem_cons_self)
    simp only [missed, dated_of_lookup ht']
    split
    · rfl
    · exact undercount_nonneg (h.positive c.1 t' ht')
  have hsum : (chains.map missed).sum = 0 := by
    have hbalance := (hadds a acct hacct).2
    have hall := hr.sum_effects hsplit acct.type a fun _ => true
    rw [bookBalance_of_lookup hacct, balance_of_lookup hacct, computeBookBalance] at hbalance
    simp only [if_true] at hall
    have heq := hall.symm.trans (Except.ok.inj hbalance)
    have hsplits : (chains.map fun c => if Even c.2.length
          then s.dated (fun _ => true) (effect acct.type.normalBalance a) c.1 else 0).sum
        = (chains.map fun c => if Even c.2.length
            then s.dated (fun _ => true) (effect acct.type.normalBalance a) c.1
            else -s.dated (fun _ => true) (undercount acct.type a) c.1).sum
          + (chains.map missed).sum := by
      rw [← List.sum_map_add]
      refine congrArg List.sum (List.map_congr_left fun c _ => ?_)
      simp only [missed]
      split <;> omega
    omega
  have hle := List.single_le_sum hnonneg _ (List.mem_map.mpr ⟨_, hc, rfl⟩)
  have hmissed : missed (k, [k']) = undercount acct.type a t.entries := by
    simp only [missed, dated_of_lookup ht, if_true]
    rfl
  have hpositive := h.positive k t ht
  rw [faithful_iff hpositive]
  have hmin : 0 ≤ undercount acct.type a t.entries := undercount_nonneg hpositive
  omega

/-- A reversal that goes through finds an original that no balance misses anything of. -/
def ReversesFaithfully (s : Book ℤ) (step : Time × Op ℤ) : Prop :=
  match step.2 with
  | .reverseTransaction txID _ =>
    ∀ original, s.transactions.lookup txID = some original → original.status ≠ .reversed →
      ∀ a acct, s.accounts.lookup a = some acct → Faithful acct.type a original.entries
  | _ => True

/-- Of reversals no balance misses anything. -/
theorem Reversals.faithful (hr : s.Reversals) {k r : TransactionID} {t : Transaction ℤ}
    (hk : s.transactions.lookup k = some t) (hof : t.reversalOf = some r) (type : AccountType)
    (a : AccountID) : Faithful type a t.entries := by
  obtain ⟨t₀, -, -, hentries⟩ := hr.undoes k t r hk hof
  refine .inr fun e he _ => ?_
  have hmem := List.mem_map_of_mem (f := Entry.anonymous) he
  rw [hentries] at hmem
  obtain ⟨e₀, -, heq⟩ := List.mem_map.mp hmem
  have hdir : e₀.direction.opposite = e.direction := congrArg Entry.direction heq
  exact hdir ▸ e₀.direction.declared_opposite

/-- A new account is mentioned by no transaction yet. -/
theorem Cancels.addAccount (hcancels : s.Cancels) (h : s.WF) (now : Time)
    (subledgerID : SubledgerID) (name : String) (accountType : AccountType) :
    (s.addAccount now (s.newAccount now subledgerID name accountType)).Cancels := by
  intro k k' t hof hk a acct hacct
  have hfresh := h.fresh_newAccount now subledgerID name accountType
  rcases (Finmap.lookup_insert_fresh hfresh).mp hacct with ⟨rfl, -⟩ | hold
  · refine .inr fun e he heq => absurd (h.accounts k t hk e he) ?_
    exact heq ▸ Finmap.lookup_eq_none.mp hfresh
  · exact hcancels k k' t hof hk a acct hold

/-- A posting reverses nothing. -/
theorem Cancels.record (hcancels : s.Cancels) (h : s.WF) (now : Time)
    (req : PostTransactionRequest ℤ) :
    (s.record now (s.newTransaction now req)).Cancels := by
  intro k k' t hof hk a acct hacct
  obtain ⟨t', ht', hof'⟩ := reversalOf_eq_some.mp hof
  rcases h.lookup_record.mp ht' with ⟨-, rfl⟩ | hold'
  · cases hof'
  · rcases h.lookup_record.mp hk with ⟨rfl, -⟩ | hold
    · exact absurd (h.reversal_target k' t' _ hold' hof')
        (Finmap.lookup_eq_none.mp (h.fresh_newTransaction now req))
    · exact hcancels k k' t (reversalOf_eq_some.mpr ⟨t', hold', hof'⟩) hold a acct hacct

/-- A reversal reverses its original, and leaves the entries of all transactions. -/
theorem Cancels.recordReversal (hcancels : s.Cancels) (h : s.WF) (now : Time)
    {txID : TransactionID} {original : Transaction ℤ} (description : String)
    (hstored : s.transactions.lookup txID = some original)
    (hfaithful : ∀ a acct, s.accounts.lookup a = some acct →
      Faithful acct.type a original.entries) :
    (s.recordReversal now txID original description).Cancels := by
  intro k k' t hof hk a acct hacct
  obtain ⟨t', ht', hof'⟩ := reversalOf_eq_some.mp hof
  have hnew : (s.newReversal now original description).id ∉ s.transactions :=
    Finmap.lookup_eq_none.mp (h.fresh_newReversal now original description)
  have hmem : k ∈ s.transactions := by
    rcases (h.lookup_recordReversal hstored).mp ht' with ⟨-, rfl⟩ | ⟨t₁, ht₁, rfl⟩
    · rw [WF.newReversal_reversalOf, h.transaction_id txID original hstored] at hof'
      cases hof'
      exact Finmap.mem_of_lookup_eq_some hstored
    · rw [apply_ite Transaction.reversalOf, ite_self] at hof'
      exact h.reversal_target k' t₁ k ht₁ hof'
  rcases (h.lookup_recordReversal hstored).mp hk with ⟨rfl, -⟩ | ⟨t₀, ht₀, rfl⟩
  · exact absurd hmem hnew
  · rw [apply_ite Transaction.entries, ite_self]
    rcases (h.lookup_recordReversal hstored).mp ht' with ⟨-, rfl⟩ | ⟨t₁, ht₁, rfl⟩
    · rw [WF.newReversal_reversalOf, h.transaction_id txID original hstored] at hof'
      cases hof'
      cases hstored.symm.trans ht₀
      exact hfaithful a acct hacct
    · rw [apply_ite Transaction.reversalOf, ite_self] at hof'
      exact hcancels k k' t₀ (reversalOf_eq_some.mpr ⟨t₁, ht₁, hof'⟩) ht₀ a acct hacct

theorem Change.cancels {now : Time} {op : Op ℤ} {s' : Book ℤ} (hc : Change now s op s')
    (h : s.WF) (hcancels : s.Cancels) (hstep : s.ReversesFaithfully (now, op)) :
    s'.Cancels := by
  cases hc with
  | refused | ledger | subledger => exact hcancels
  | account subledgerID name accountType =>
    exact hcancels.addAccount h now subledgerID name accountType
  | post req hacc => exact hcancels.record h now req
  | reverse txID description original hstored hstatus =>
    exact hcancels.recordReversal h now description hstored (hstep original hstored hstatus)

/-- If the effects are those of the standing originals after a step, the step reverses
faithfully: what it reverses is a reversal, or an original that it makes one of those that
do not stand. -/
theorem reversesFaithfully_of_addsUp (h : s.WF) (hr : s.Reversals) {step : Time × Op ℤ}
    (hadds : ∀ chains, Splits (exec step s).reversalOf (· ∈ (exec step s).transactions) chains →
      (exec step s).AddsUp chains) : s.ReversesFaithfully step := by
  obtain ⟨now, op⟩ := step
  cases op with
  | reverseTransaction txID description =>
    intro original hstored hstatus a acct hacct
    cases hof : original.reversalOf with
    | some r => exact hr.faithful hstored hof acct.type a
    | none =>
      have hexec : exec (now, .reverseTransaction txID description) s
          = s.recordReversal now txID original description := by
        rw [exec, call, Call.final_discard,
          Call.final_of_ok (reverseTransaction_of_posted hstored hstatus now description)]
      have h' : (s.recordReversal now txID original description).WF :=
        h.recordReversal hstored hstatus
      have hr' : (s.recordReversal now txID original description).Reversals :=
        hr.recordReversal h hstored hstatus
      rw [hexec] at hadds
      obtain ⟨chains, hsplit⟩ := hr'.split
      have hnew : (s.recordReversal now txID original description).transactions.lookup
          (s.newReversal now original description).id
            = some (s.newReversal now original description) :=
        (h.lookup_recordReversal hstored).mpr (.inl ⟨rfl, rfl⟩)
      have hold := h.lookup_recordReversal_old now description hstored hstored
      rw [if_pos rfl] at hold
      -- the original and its reversal are a chain: the original reverses nothing, and nothing
      -- reverses the reversal yet
      have hpair : (txID, [(s.newReversal now original description).id]) ∈ chains := by
        refine hsplit.eq_pair (Finmap.mem_of_lookup_eq_some hnew) ?_ ?_ ?_
        · rw [reversalOf_of_lookup hnew, WF.newReversal_reversalOf,
            h.transaction_id txID original hstored]
        · rw [reversalOf_of_lookup hold]
          exact hof
        · rintro ⟨x, -, hx⟩
          have hreversed := (h'.reversed _ _ hnew).mpr ⟨x, reversalOf_eq_some.mp hx⟩
          cases hreversed
      exact (hadds chains hsplit).faithful h' hr' hsplit hpair hold hacct
  | _ => trivial

end Standing

/-- **Reversal chains.** In every book reached from `NewBook` the transactions split into
chains, an original and the reversals that follow it, in which only the last is posted. And
throughout a run, at every cut-off date and without one, the effects on every account are
those of the originals with an even number of reversals, exactly if no reversal of the run
finds an original with an entry on a credit-normal account in no declared direction. -/
theorem reversal_chains_iff (steps : List (Time × Op ℤ)) :
    (reached steps : Book ℤ).Chained ∧
    ((∀ pre, pre <+: steps → ∀ chains,
        Splits (reached pre : Book ℤ).reversalOf
            (· ∈ (reached pre : Book ℤ).transactions) chains →
          (reached pre).AddsUp chains) ↔
      Along exec ReversesFaithfully (newBook ℤ) steps) := by
  refine ⟨chained_reached steps, fun hall => ?_, fun hall pre hpre chains hsplit => ?_⟩
  · refine along_iff_split.mpr fun pre step post heq => ?_
    have hnext : reached (pre ++ [step]) = exec step (reached pre) := run_append ..
    refine reversesFaithfully_of_addsUp (wf_reached pre) (reversals_reached pre) ?_
    rw [← hnext]
    exact hall (pre ++ [step]) (heq ▸ ⟨post, by simp⟩)
  · obtain ⟨post, rfl⟩ := hpre
    have hcancels : (reached pre).Cancels := by
      refine Along.invariant_of exec_wf (fun step s h hcancels hstep => ?_) wf_newBook ?_
        (Along.append.mp hall).1
      · exact (exec_change step.1 step.2 s).cancels h hcancels hstep
      · intro k k' t hof hk
        simp [newBook] at hk
    exact hcancels.addsUp (reversals_reached pre) hsplit

/-- A posting of 100 to Alice in no declared direction, and its reversal, leave her at -200,
where nothing stands of the two. -/
theorem reversal_doubles :
    ¬∀ (steps : List (Time × Op ℤ)) chains,
      Splits (reached steps : Book ℤ).reversalOf
          (· ∈ (reached steps : Book ℤ).transactions) chains →
        (reached steps).AddsUp chains := by
  intro h
  let step : Time × Op ℤ := (⟨2, 0⟩, .reverseTransaction ⟨"tx_11"⟩ "undo")
  have hstep : (reached undeclaredPayment : Book ℤ).ReversesFaithfully step := by
    refine reversesFaithfully_of_addsUp (wf_reached _) (reversals_reached _) ?_
    have hnext : reached (undeclaredPayment ++ [step]) = exec step (reached undeclaredPayment) :=
      run_append ..
    rw [← hnext]
    exact h (undeclaredPayment ++ [step])
  have halice : (reached undeclaredPayment : Book ℤ).accounts.lookup ⟨"acct_7"⟩
      = some ⟨⟨"acct_7"⟩, ⟨"sub_3"⟩, "Alice", .liability, ⟨1, 0⟩⟩ := by
    decide +kernel
  let toAlice : Entry ℤ := ⟨⟨"ent_10"⟩, ⟨"acct_7"⟩, 100, .other 7⟩
  have hpayment : ((reached undeclaredPayment : Book ℤ).transactions.lookup ⟨"tx_11"⟩).map
      (fun t => (t.status, t.entries))
        = some (.posted, [⟨⟨"ent_9"⟩, ⟨"acct_5"⟩, 100, .debit⟩, toAlice]) := by
    decide +kernel
  obtain ⟨t, ht, hterms⟩ := Option.map_eq_some_iff.mp hpayment
  obtain ⟨hstatus, hentries⟩ := Prod.mk.inj hterms
  have hposted : t.status ≠ .reversed := fun heq => by
    rw [heq] at hstatus
    cases hstatus
  rcases hstep t ht hposted ⟨"acct_7"⟩ _ halice with hdebit | hdeclared
  · cases hdebit
  · exact hdeclared toAlice (by rw [hentries]; simp) rfl

end Book

end CoreBanking.Ledger
