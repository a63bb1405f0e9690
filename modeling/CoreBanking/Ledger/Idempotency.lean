import CoreBanking.Ledger.Keyed

/-!
# One transaction per idempotency key

A client that does not know whether a posting went through repeats it under the
same key. However often it does, and whatever else is called in between, at most
one transaction is posted under the key: once one is, it stays there
(`Change.keyed`), every further attempt is refused, and a lookup by the key answers
with it (`one_per_key`). Only its status may change, when it is reversed.
-/

namespace CoreBanking.Ledger

namespace Book

variable {Amount : Type} {s : Book Amount} {key : String} {tx : Transaction Amount}

/-- The transaction under `key` is `tx`, up to its status. -/
def KeyedAs (s : Book Amount) (key : String) (tx : Transaction Amount) : Prop :=
  ∃ status, s.keyed key = some { tx with status := status }

namespace KeyedAs

/-- A lookup by the key finds the transaction. -/
theorem getTransaction (h : s.KeyedAs key tx) :
    ∃ status, s.getTransactionByIdempotencyKey key
      = .ok { tx with status := status } := by
  obtain ⟨status, hk⟩ := h
  rw [keyed] at hk
  obtain ⟨k, hidx, ht⟩ := Option.bind_eq_some_iff.mp hk
  exact ⟨status, by simp only [getTransactionByIdempotencyKey, hidx, ht]⟩

variable [AddCommGroup Amount] [LinearOrder Amount]

/-- A key that is in use is refused. -/
theorem not_accepts (h : s.KeyedAs key tx) (hs : s.WF) {req : PostTransactionRequest Amount}
    (hreq : req.idempotencyKey = key) : ¬s.Accepts req := by
  intro hacc
  obtain ⟨status, hk⟩ := h
  obtain ⟨hne, -, -⟩ := hs.keyed_eq_some.mp hk
  rcases hacc.key with hempty | hunused
  · exact hne (hreq ▸ hempty)
  · rw [hs.keyed_eq_none.mpr (hreq ▸ hunused)] at hk
    cases hk

/-- The transaction is there right after it was posted. -/
theorem record (hs : s.WF) {now : Time} {req : PostTransactionRequest Amount}
    (hacc : s.Accepts req) (hne : req.idempotencyKey ≠ "") :
    (s.record now (s.newTransaction now req)).KeyedAs req.idempotencyKey
      (s.newTransaction now req) :=
  ⟨.posted, by rw [hs.keyed_record hacc, if_pos ⟨rfl, hne⟩]; rfl⟩

end KeyedAs

variable [AddCommGroup Amount] [LinearOrder Amount]

/-- A call leaves the transaction under a key in place, up to its status. -/
theorem Change.keyed {now : Time} {op : Op Amount} {s' : Book Amount}
    (hc : Change now s op s') (hs : s.WF) (h : s.KeyedAs key tx) : s'.KeyedAs key tx := by
  obtain ⟨status, hk⟩ := h
  cases hc with
  | refused => exact ⟨status, hk⟩
  | ledger => exact ⟨status, hk⟩
  | subledger => exact ⟨status, hk⟩
  | account => exact ⟨status, hk⟩
  | post req hacc =>
    refine ⟨status, ?_⟩
    -- a posting that is accepted uses a key that was unused
    rw [hs.keyed_record hacc, if_neg, hk]
    rintro ⟨rfl, -⟩
    exact KeyedAs.not_accepts ⟨status, hk⟩ hs rfl hacc
  | reverse txID description original hstored hstatus =>
    -- the transaction may be the one that is reversed, which keeps its key
    obtain ⟨hne, hlook, hkey⟩ := hs.keyed_eq_some.mp hk
    have hrev : (s.recordReversal now txID original description).WF :=
      hs.recordReversal hstored hstatus
    have hafter := hs.lookup_recordReversal_old now description hstored hlook
    split at hafter
    · exact ⟨.reversed, hrev.keyed_of_stored hafter hne hkey⟩
    · exact ⟨status, hrev.keyed_of_stored hafter hne hkey⟩

/-- A failing posting changes nothing, so it does not use up its key. -/
theorem postTransaction_error {now : Time} {req : PostTransactionRequest Amount}
    {e : Err} {s' : Book Amount} (h : postTransaction now req s = .error e s') :
    s' = s :=
  (postTransaction_eq_error h).1

/-- **One transaction per key.** In every book reached from `NewBook`, the index maps
the keys of the stored transactions to their ids, no two of them share a key, and a
posting that fails leaves everything as it was. Once a posting under a key has gone
through, every later one fails, and a lookup by the key finds what was posted. -/
theorem one_per_key (steps : List (Time × Op Amount)) :
    let s : Book Amount := reached steps
    (∀ key k, s.idempotencyIndex.lookup key = some k ↔
      key ≠ "" ∧ ∃ t, s.transactions.lookup k = some t ∧ t.id = k ∧
        t.idempotencyKey = key) ∧
    (∀ k k' t t', s.transactions.lookup k = some t → s.transactions.lookup k' = some t' →
      t.idempotencyKey = t'.idempotencyKey → t.idempotencyKey ≠ "" → k = k') ∧
    (∀ now req e s', postTransaction now req s = .error e s' → s' = s) ∧
    ∀ now req tx s', postTransaction now req s = .ok tx s' → req.idempotencyKey ≠ "" →
      ∀ later,
        (∀ now' req', req'.idempotencyKey = req.idempotencyKey →
          ∃ e, postTransaction now' req' (run exec s' later)
            = .error e (run exec s' later)) ∧
        ∃ status, (run exec s' later).getTransactionByIdempotencyKey req.idempotencyKey
          = .ok { tx with status := status } := by
  intro s
  have h : s.WF := wf_reached steps
  refine ⟨fun key k => ?_, fun k k' t t' => h.key_unique, fun now req e s' =>
    postTransaction_error, ?_⟩
  · rw [h.index key k]
    refine and_congr_right fun _ => exists_congr fun t => and_congr_right fun ht => ?_
    exact (and_iff_right (h.transaction_id k t ht)).symm
  · intro now req tx s' hok hne later
    obtain ⟨hacc, rfl, rfl⟩ := postTransaction_eq_ok.mp hok
    have hfirst : (s.record now (s.newTransaction now req)).KeyedAs req.idempotencyKey
        (s.newTransaction now req) := .record h hacc hne
    let Inv (b : Book Amount) : Prop := b.KeyedAs req.idempotencyKey (s.newTransaction now req)
    have hstep : ∀ step b, b.WF → Inv b → Inv (exec step b) :=
      fun step b hb hkeyed => (exec_change step.1 step.2 b).keyed hb hkeyed
    have hwf : (s.record now (s.newTransaction now req)).WF := h.record hacc
    have hlaterWF := run_invariant exec_wf hwf later
    have hlater : Inv _ := run_invariant_of exec_wf hstep hwf hfirst later
    refine ⟨fun now' req' hreq => ?_, hlater.getTransaction⟩
    obtain ⟨e, he, -⟩ := postTransaction_of_not_accepts (hlater.not_accepts hlaterWF hreq) now'
    exact ⟨e, he⟩

end Book

end CoreBanking.Ledger
