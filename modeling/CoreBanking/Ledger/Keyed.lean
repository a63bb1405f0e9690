import CoreBanking.Ledger.Transfer

/-!
# The transaction under an idempotency key

In a well-formed book at most one transaction carries a given key, so the
transactions that were posted under keys form a partial function, `Book.keyed`.

- `WF.keyed_record`: an accepted posting adds the transaction under its key and
  leaves the others;
- `WF.keyed_recordReversal`: a reversal changes the status of the one it
  reverses.
-/

namespace CoreBanking.Ledger

variable {Amount : Type}

/-- An entry without its id. -/
def Entry.anonymous (e : Entry Amount) : Entry Amount := { e with id := ⟨""⟩ }

/-- The transaction debits one account and credits another by the amount. -/
def Transaction.Moves (t : Transaction Amount) (debit credit : AccountID)
    (amount : Amount) : Prop :=
  t.entries.map Entry.anonymous = transfer debit credit amount

/-- The effect of a transaction is that of the transfer it makes. -/
theorem Transaction.Moves.effect_eq [AddCommGroup Amount] {t : Transaction Amount}
    {debit credit : AccountID} {amount : Amount} (h : t.Moves debit credit amount)
    (normal : Direction) (a : AccountID) :
    effect normal a t.entries = effect normal a (transfer debit credit amount) := by
  rw [← h, effect, effect, List.map_map]
  rfl

/-- Its reversal has that of the transfer back. -/
theorem Transaction.Moves.effect_reversed [AddCommGroup Amount] {t : Transaction Amount}
    {debit credit : AccountID} {amount : Amount} (h : t.Moves debit credit amount)
    (normal : Direction) (a : AccountID) :
    effect normal a (t.entries.map Entry.reversed)
      = effect normal a (transfer credit debit amount) := by
  have hreversed : t.entries.map Entry.reversed
      = (transfer debit credit amount).map Entry.reversed := by
    rw [← h, List.map_map]
    rfl
  have hback : (transfer debit credit amount).map Entry.reversed
      = (transfer credit debit amount).reverse := rfl
  rw [hreversed, hback, effect_perm normal a (List.reverse_perm _)]

namespace Book

/-- The transaction that was posted under a key. -/
def keyed (s : Book Amount) (key : String) : Option (Transaction Amount) :=
  (s.idempotencyIndex.lookup key).bind fun k => s.transactions.lookup k

/-- The later book has the keys of the earlier one, for the same transactions. -/
def KeepsKeys (s s' : Book Amount) : Prop :=
  ∀ key k, s.idempotencyIndex.lookup key = some k → s'.idempotencyIndex.lookup key = some k

theorem KeepsKeys.of_eq {s s' : Book Amount}
    (h : s'.idempotencyIndex = s.idempotencyIndex) : s.KeepsKeys s' :=
  fun _ _ hk => h ▸ hk

/-- The transaction of a request that posts a transfer. -/
theorem newTransaction_moves (s : Book Amount) (now : Time)
    {req : PostTransactionRequest Amount} {debit credit : AccountID}
    {amount : Amount} (h : req.entries = transfer debit credit amount) :
    (s.newTransaction now req).Moves debit credit amount := by
  show (assignIDs s.idCounter req.entries).map Entry.anonymous = _
  rw [map_assignIDs Entry.anonymous fun _ _ => rfl, h]
  rfl

variable [AddCommGroup Amount] [LinearOrder Amount]

/-- The transaction that has been posted is stored. -/
theorem postTransaction_stored {s s' : Book Amount} {now : Time}
    {req : PostTransactionRequest Amount} {tx : Transaction Amount}
    (h : postTransaction now req s = .ok tx s') : s'.transactions.lookup tx.id = some tx := by
  obtain ⟨-, -, rfl⟩ := postTransaction_eq_ok.mp h
  exact Finmap.lookup_insert _

theorem postTransaction_moves {s s' : Book Amount} {now : Time}
    {req : PostTransactionRequest Amount} {tx : Transaction Amount}
    (h : postTransaction now req s = .ok tx s') {debit credit : AccountID} {amount : Amount}
    (hentries : req.entries = transfer debit credit amount) : tx.Moves debit credit amount := by
  obtain ⟨-, rfl, -⟩ := postTransaction_eq_ok.mp h
  exact newTransaction_moves s now hentries

/-- An accepted posting has a new key, or none. -/
theorem Accepts.keepsKeys {s : Book Amount} {req : PostTransactionRequest Amount}
    (hacc : s.Accepts req) (now : Time) :
    s.KeepsKeys (s.record now (s.newTransaction now req)) := by
  intro key k hk
  show (if req.idempotencyKey = "" then s.idempotencyIndex else _).lookup key = some k
  split
  · exact hk
  · next hne => exact (Finmap.lookup_insert_fresh (hacc.key.resolve_left hne)).mpr (.inr hk)

/-- No call takes a key away. -/
theorem Change.keepsKeys {now : Time} {op : Op Amount} {s s' : Book Amount}
    (hc : Change now s op s') : s.KeepsKeys s' := by
  cases hc with
  | refused => exact .of_eq rfl
  | ledger => exact .of_eq rfl
  | subledger => exact .of_eq rfl
  | account => exact .of_eq rfl
  | post req hacc => exact hacc.keepsKeys now
  | reverse txID description original hstored => exact .of_eq rfl

namespace WF

variable {s : Book Amount}

/-- The transaction under a key is stored, carries the key, and is the only one
that does. -/
theorem keyed_eq_some (h : s.WF) {key : String} {t : Transaction Amount} :
    s.keyed key = some t ↔
      key ≠ "" ∧ s.transactions.lookup t.id = some t ∧ t.idempotencyKey = key := by
  rw [keyed, Option.bind_eq_some_iff]
  constructor
  · rintro ⟨k, hk, ht⟩
    obtain ⟨hne, t', ht', hkey⟩ := (h.index key k).mp hk
    cases ht.symm.trans ht'
    have hid : t.id = k := h.transaction_id k t ht
    exact ⟨hne, hid ▸ ht, hkey⟩
  · rintro ⟨hne, ht, hkey⟩
    exact ⟨t.id, (h.index key t.id).mpr ⟨hne, t, ht, hkey⟩, ht⟩

/-- The transaction that the index names. -/
theorem keyed_of_index (h : s.WF) {key : String} {k : TransactionID}
    (hk : s.idempotencyIndex.lookup key = some k) : ∃ t, s.keyed key = some t ∧ t.id = k := by
  obtain ⟨-, t, ht, -⟩ := (h.index key k).mp hk
  exact ⟨t, Option.bind_eq_some_iff.mpr ⟨k, hk, ht⟩, h.transaction_id k t ht⟩

/-- A key without a transaction is unused. -/
theorem keyed_eq_none (h : s.WF) {key : String} :
    s.keyed key = none ↔ s.idempotencyIndex.lookup key = none := by
  rw [keyed]
  cases hk : s.idempotencyIndex.lookup key with
  | none => simp
  | some k =>
    obtain ⟨-, t, ht, -⟩ := (h.index key k).mp hk
    simp [ht]

/-- A stored transaction that carries a key is the one under the key. -/
theorem keyed_of_stored (h : s.WF) {k : TransactionID} {t : Transaction Amount}
    (hk : s.transactions.lookup k = some t) {key : String} (hne : key ≠ "")
    (hkey : t.idempotencyKey = key) : s.keyed key = some t := by
  have hid : t.id = k := h.transaction_id k t hk
  exact h.keyed_eq_some.mpr ⟨hne, hid ▸ hk, hkey⟩

/-- A posting adds the transaction under its key, if it has one. -/
theorem keyed_record (h : s.WF) {now : Time} {req : PostTransactionRequest Amount}
    (hacc : s.Accepts req) (key : String) :
    (s.record now (s.newTransaction now req)).keyed key =
      if key = req.idempotencyKey ∧ key ≠ ""
      then some (s.newTransaction now req) else s.keyed key := by
  have hrec : (s.record now (s.newTransaction now req)).WF := h.record hacc
  refine Option.ext fun t => ?_
  rw [hrec.keyed_eq_some, h.lookup_record]
  split
  · next hkey =>
    obtain ⟨rfl, hne⟩ := hkey
    constructor
    · rintro ⟨-, ⟨-, rfl⟩ | hold, hk⟩
      · rfl
      · -- the key was not in use
        have hused := h.keyed_of_stored hold hne hk
        rw [h.keyed_eq_none.mpr (hacc.key.resolve_left hne)] at hused
        cases hused
    · intro heq
      cases heq
      exact ⟨hne, .inl ⟨rfl, rfl⟩, rfl⟩
  · next hkey =>
    rw [h.keyed_eq_some]
    refine and_congr_right fun hne => ⟨?_, fun ht => ⟨.inr ht.1, ht.2⟩⟩
    rintro ⟨⟨-, rfl⟩ | hold, hk⟩
    · exact absurd ⟨hk.symm, hne⟩ hkey
    · exact ⟨hold, hk⟩

/-- A reversal marks the transaction it reverses. -/
theorem keyed_recordReversal (h : s.WF) {now : Time} {original : Transaction Amount}
    {description : String} {key : String} (horig : s.keyed key = some original)
    (hstatus : original.status ≠ .reversed) (key' : String) :
    (s.recordReversal now original.id original description).keyed key' =
      if key' = key then some { original with status := .reversed }
      else s.keyed key' := by
  obtain ⟨hne, hstored, hkey⟩ := h.keyed_eq_some.mp horig
  have hrev : (s.recordReversal now original.id original description).WF :=
    h.recordReversal hstored hstatus
  by_cases heq : key' = key
  · subst heq
    rw [if_pos rfl]
    have hmarked : (s.recordReversal now original.id original
        description).transactions.lookup original.id
          = some { original with status := .reversed } :=
      (h.lookup_recordReversal hstored).mpr
        (.inr ⟨original, hstored, (if_pos rfl).symm⟩)
    exact hrev.keyed_of_stored hmarked hne hkey
  · rw [if_neg heq, keyed, keyed]
    show (s.idempotencyIndex.lookup key').bind _ = _
    refine Option.bind_congr fun k hk => ?_
    obtain ⟨-, t, ht, hkey'⟩ := (h.index key' k).mp hk
    -- a transaction has only one key, so the one under another key is not marked
    have hother : k ≠ original.id := by
      rintro rfl
      cases hstored.symm.trans ht
      exact heq (hkey'.symm.trans hkey)
    rw [ht]
    exact (h.lookup_recordReversal hstored).mpr (.inr ⟨t, ht, (if_neg hother).symm⟩)

end WF

end Book

end CoreBanking.Ledger
