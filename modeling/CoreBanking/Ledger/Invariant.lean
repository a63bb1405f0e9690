import CoreBanking.Base.Run
import CoreBanking.Ledger.Posting

/-!
# The invariant of a book

`Book.WF` holds of the empty book and is kept by every operation, so it holds
of every book reached by any calls (`wf_run`):

- the keys of every map are ids drawn so far, and a transaction is stored under
  its own id;
- every stored transaction has positive amounts, existing accounts and
  balanced legs, reversals included, although a reversal is not validated;
- the idempotency index is the map from the keys of the stored transactions;
- a transaction is marked as reversed exactly if a reversal of it is stored,
  and then exactly one is.
-/

namespace CoreBanking.Ledger

open DoubleEntry

variable {Amount : Type} [AddCommGroup Amount]

namespace Book

/-! ## Balances -/

/-- A new record adds the effect of its entries. -/
theorem computeBookBalance_record {s : Book Amount} {tx : Transaction Amount}
    (hfresh : s.transactions.lookup tx.id = none) (now : Time) (a : AccountID)
    (ty : AccountType) :
    (s.record now tx).computeBookBalance a ty
      = s.computeBookBalance a ty + effect ty.normalBalance a tx.entries := by
  rw [computeBookBalance, record, Finmap.sum_insert _ hfresh, add_comm]
  rfl

/-- A reversal adds the effect of the opposite entries. -/
theorem computeBookBalance_recordReversal {s : Book Amount} {txID : TransactionID}
    {original : Transaction Amount} {now : Time} {description : String}
    (hlook : s.transactions.lookup txID = some original)
    (hfresh : s.transactions.lookup (s.newReversal now original description).id
      = none) (a : AccountID) (ty : AccountType) :
    (s.recordReversal now txID original description).computeBookBalance a ty
      = s.computeBookBalance a ty
        + effect ty.normalBalance a (original.entries.map Entry.reversed) := by
  have hfresh' := Finmap.lookup_update_none hlook hfresh { original with status := .reversed }
  rw [computeBookBalance, recordReversal, Finmap.sum_insert _ hfresh',
    Finmap.sum_update _ hlook, computeBookBalance]
  simp only [newReversal, effect_assignIDs]
  abel

variable [LinearOrder Amount]

/-- The invariant of a book. -/
structure WF (s : Book Amount) : Prop where
  ledgerIDs : KeysUpTo LedgerID.mk "ldg" s.idCounter s.ledgers
  subledgerIDs : KeysUpTo SubledgerID.mk "sub" s.idCounter s.subledgers
  accountIDs : KeysUpTo AccountID.mk "acct" s.idCounter s.accounts
  transactionIDs : KeysUpTo TransactionID.mk "tx" s.idCounter s.transactions
  transaction_id : ∀ k t, s.transactions.lookup k = some t → t.id = k
  positive : ∀ k t, s.transactions.lookup k = some t →
    ∀ e ∈ t.entries, 0 < e.amount
  accounts : ∀ k t, s.transactions.lookup k = some t →
    ∀ e ∈ t.entries, e.accountID ∈ s.accounts
  balanced : ∀ k t, s.transactions.lookup k = some t →
    DoubleEntry.Balanced (legs t.entries)
  index : ∀ key k, s.idempotencyIndex.lookup key = some k ↔
    key ≠ "" ∧ ∃ t, s.transactions.lookup k = some t ∧ t.idempotencyKey = key
  reversed : ∀ k t, s.transactions.lookup k = some t →
    (t.status = .reversed ↔
      ∃ k' t', s.transactions.lookup k' = some t' ∧ t'.reversalOf = some k)
  reversal_unique : ∀ k k' t t' r, s.transactions.lookup k = some t →
    s.transactions.lookup k' = some t' → t.reversalOf = some r →
    t'.reversalOf = some r → k = k'
  reversal_target : ∀ k t r, s.transactions.lookup k = some t →
    t.reversalOf = some r → r ∈ s.transactions

theorem wf_newBook : (newBook Amount).WF where
  ledgerIDs := KeysUpTo.empty
  subledgerIDs := KeysUpTo.empty
  accountIDs := KeysUpTo.empty
  transactionIDs := KeysUpTo.empty
  transaction_id _ _ h := by simp [newBook] at h
  positive _ _ h := by simp [newBook] at h
  accounts _ _ h := by simp [newBook] at h
  balanced _ _ h := by simp [newBook] at h
  index _ _ := by simp [newBook]
  reversed _ _ h := by simp [newBook] at h
  reversal_unique _ _ _ _ _ h := by simp [newBook] at h
  reversal_target _ _ _ h := by simp [newBook] at h

namespace WF

variable {s : Book Amount}

/-- The id of a transaction yet to come is not in use. -/
theorem fresh_transaction (h : s.WF) {n : Nat} (hn : s.idCounter < n) :
    s.transactions.lookup ⟨ident "tx" n⟩ = none :=
  h.transactionIDs.fresh (fun _ _ => TransactionID.mk.inj) hn

theorem fresh_newTransaction (h : s.WF) (now : Time)
    (req : PostTransactionRequest Amount) :
    s.transactions.lookup (s.newTransaction now req).id = none :=
  h.fresh_transaction (by omega)

theorem fresh_newReversal (h : s.WF) (now : Time) (original : Transaction Amount)
    (description : String) :
    s.transactions.lookup (s.newReversal now original description).id = none :=
  h.fresh_transaction (by omega)

/-! ## The transactions after a posting and after a reversal -/

section Stored

variable {now : Time} {req : PostTransactionRequest Amount} {txID : TransactionID}
  {original : Transaction Amount} {description : String}

/-- After a posting, the stored transactions are the old ones and the new one. -/
theorem lookup_record (h : s.WF) {k : TransactionID} {t : Transaction Amount} :
    (s.record now (s.newTransaction now req)).transactions.lookup k = some t ↔
      (k = (s.newTransaction now req).id ∧ t = s.newTransaction now req) ∨
        s.transactions.lookup k = some t :=
  Finmap.lookup_insert_fresh (h.fresh_newTransaction now req)

/-- After a reversal, they are the reversal and the old ones, of which only the
original changes, and only in its status. -/
theorem lookup_recordReversal (h : s.WF)
    (hstored : s.transactions.lookup txID = some original) {k : TransactionID}
    {t : Transaction Amount} :
    (s.recordReversal now txID original description).transactions.lookup k = some t ↔
      (k = (s.newReversal now original description).id ∧
        t = s.newReversal now original description) ∨
      ∃ t₀, s.transactions.lookup k = some t₀ ∧
        t = if k = txID then { t₀ with status := .reversed } else t₀ := by
  have hfresh := h.fresh_newReversal now original description
  have hfresh' := Finmap.lookup_update_none hstored hfresh { original with status := .reversed }
  rw [Book.recordReversal, Finmap.lookup_insert_fresh hfresh',
    Finmap.lookup_insert_ite]
  by_cases hk : k = txID
  · subst hk
    simp [hstored, eq_comm]
  · simp [hk, eq_comm]

variable (now description) in
/-- An old transaction is still there, marked if it is the original. -/
theorem lookup_recordReversal_old (h : s.WF)
    (hstored : s.transactions.lookup txID = some original) {k : TransactionID}
    {t : Transaction Amount} (hk : s.transactions.lookup k = some t) :
    (s.recordReversal now txID original description).transactions.lookup k
      = some (if k = txID then { t with status := .reversed } else t) :=
  (h.lookup_recordReversal hstored).mpr (.inr ⟨t, hk, rfl⟩)

omit [AddCommGroup Amount] [LinearOrder Amount] in
/-- A reversal names the transaction it reverses. -/
theorem newReversal_reversalOf :
    (s.newReversal now original description).reversalOf = some original.id := rfl

/-- The entries of a new transaction are positive and on existing accounts. -/
theorem newTransaction_entry (hacc : s.Accepts req) {e : Entry Amount}
    (he : e ∈ (s.newTransaction now req).entries) :
    0 < e.amount ∧ e.accountID ∈ s.accounts := by
  obtain ⟨e', he', hid, hamount, -⟩ := mem_assignIDs he
  rw [hid, hamount]
  exact ⟨hacc.positive e' he', Finmap.lookup_isSome.mp (hacc.accounts e' he')⟩

/-- So are those of a reversal, as the original's are. -/
theorem newReversal_entry (h : s.WF)
    (hstored : s.transactions.lookup txID = some original) {e : Entry Amount}
    (he : e ∈ (s.newReversal now original description).entries) :
    0 < e.amount ∧ e.accountID ∈ s.accounts := by
  obtain ⟨e', he', hid, hamount, -⟩ := mem_assignIDs he
  obtain ⟨e₀, he₀, rfl⟩ := List.mem_map.mp he'
  rw [hid, hamount]
  exact ⟨h.positive txID original hstored e₀ he₀, h.accounts txID original hstored e₀ he₀⟩

/-! ### The index of keys -/

/-- A posting puts its key, if it has one, on its transaction. -/
theorem index_record (h : s.WF) (hacc : s.Accepts req) (key : String)
    (k : TransactionID) :
    (s.record now (s.newTransaction now req)).idempotencyIndex.lookup key = some k ↔
      key ≠ "" ∧ ∃ t,
        (s.record now (s.newTransaction now req)).transactions.lookup k = some t ∧
          t.idempotencyKey = key := by
  have hkey : (s.newTransaction now req).idempotencyKey = req.idempotencyKey := rfl
  simp only [h.lookup_record]
  by_cases hnew : key ≠ "" ∧ key = req.idempotencyKey
  · -- the key of the new transaction was unused
    obtain ⟨hne, rfl⟩ := hnew
    have hunused : s.idempotencyIndex.lookup req.idempotencyKey = none :=
      hacc.key.resolve_left hne
    have hidx : (s.record now (s.newTransaction now req)).idempotencyIndex.lookup
        req.idempotencyKey = some (s.newTransaction now req).id := by
      rw [Book.record, hkey, if_neg hne, Finmap.lookup_insert]
    rw [hidx]
    constructor
    · intro heq
      cases heq
      exact ⟨hne, _, .inl ⟨rfl, rfl⟩, rfl⟩
    · rintro ⟨-, t, ⟨rfl, rfl⟩ | ht, htk⟩
      · rfl
      · rw [(h.index req.idempotencyKey k).mpr ⟨hne, t, ht, htk⟩] at hunused
        cases hunused
  · -- any other key is on the transaction it was on
    have hidx : (s.record now (s.newTransaction now req)).idempotencyIndex.lookup
        key = s.idempotencyIndex.lookup key := by
      rw [Book.record, hkey]
      split
      · rfl
      · next hne =>
        refine Finmap.lookup_insert_of_ne _ fun heq => hnew ⟨?_, heq⟩
        rwa [heq]
    rw [hidx, h.index key k]
    refine and_congr_right fun hne => exists_congr fun t => and_congr_left fun htk => ?_
    constructor
    · exact .inr
    · rintro (⟨-, rfl⟩ | ht)
      · exact absurd ⟨hne, htk.symm⟩ hnew
      · exact ht

/-- A reversal has no key, and the original keeps its own. -/
theorem index_recordReversal (h : s.WF)
    (hstored : s.transactions.lookup txID = some original) (key : String)
    (k : TransactionID) :
    (s.recordReversal now txID original description).idempotencyIndex.lookup key
        = some k ↔
      key ≠ "" ∧ ∃ t,
        (s.recordReversal now txID original description).transactions.lookup k
          = some t ∧ t.idempotencyKey = key := by
  refine (h.index key k).trans (and_congr_right fun hne => ?_)
  constructor
  · rintro ⟨t, ht, hkey⟩
    refine ⟨_, (h.lookup_recordReversal hstored).mpr (.inr ⟨t, ht, rfl⟩), ?_⟩
    rw [apply_ite Transaction.idempotencyKey, ite_self]
    exact hkey
  · rintro ⟨t, ht, hkey⟩
    rcases (h.lookup_recordReversal hstored).mp ht with ⟨rfl, rfl⟩ | ⟨t₀, ht₀, rfl⟩
    · exact absurd hkey.symm hne
    · rw [apply_ite Transaction.idempotencyKey, ite_self] at hkey
      exact ⟨t₀, ht₀, hkey⟩

/-! ### Reversals -/

/-- A posting reverses nothing and is not reversed: its id is fresh. -/
theorem reversed_record (h : s.WF) {k : TransactionID} {t : Transaction Amount}
    (hk : (s.record now (s.newTransaction now req)).transactions.lookup k = some t) :
    t.status = .reversed ↔ ∃ k' t',
      (s.record now (s.newTransaction now req)).transactions.lookup k' = some t' ∧
        t'.reversalOf = some k := by
  have hnone : (s.newTransaction now req).reversalOf = none := rfl
  rcases h.lookup_record.mp hk with ⟨rfl, rfl⟩ | hk
  · refine iff_of_false (by simp [newTransaction]) ?_
    rintro ⟨k', t', ht', hrev⟩
    rcases h.lookup_record.mp ht' with ⟨-, rfl⟩ | ht'
    · rw [hnone] at hrev
      cases hrev
    · have hmem := h.reversal_target k' t' _ ht' hrev
      exact Finmap.lookup_eq_none.mp (h.fresh_newTransaction now req) hmem
  · rw [h.reversed k t hk]
    refine exists_congr fun k' => exists_congr fun t' => and_congr_left fun hrev => ?_
    rw [h.lookup_record]
    constructor
    · exact .inr
    · rintro (⟨-, rfl⟩ | ht')
      · rw [hnone] at hrev
        cases hrev
      · exact ht'

/-- A reversal marks the original, which it names, and nothing else. -/
theorem reversed_recordReversal (h : s.WF)
    (hstored : s.transactions.lookup txID = some original) {k : TransactionID}
    {t : Transaction Amount}
    (hk : (s.recordReversal now txID original description).transactions.lookup k
      = some t) :
    t.status = .reversed ↔ ∃ k' t',
      (s.recordReversal now txID original description).transactions.lookup k' = some t' ∧
        t'.reversalOf = some k := by
  have hid : original.id = txID := h.transaction_id txID original hstored
  have hfresh := h.fresh_newReversal now original description
  rcases (h.lookup_recordReversal hstored).mp hk with ⟨rfl, rfl⟩ | ⟨t₀, ht₀, rfl⟩
  · -- nothing reverses the reversal yet: its id is fresh
    refine iff_of_false (by simp [newReversal]) ?_
    rintro ⟨k', t', ht', hof⟩
    rcases (h.lookup_recordReversal hstored).mp ht' with ⟨-, rfl⟩ | ⟨t₀, ht₀, rfl⟩
    · rw [newReversal_reversalOf, hid] at hof
      rw [← Option.some.inj hof, hstored] at hfresh
      cases hfresh
    · rw [apply_ite Transaction.reversalOf, ite_self] at hof
      exact Finmap.lookup_eq_none.mp hfresh (h.reversal_target k' t₀ _ ht₀ hof)
  · by_cases htx : k = txID
    · -- the original is marked, and the reversal names it
      refine iff_of_true (by simp [htx])
        ⟨_, _, (h.lookup_recordReversal hstored).mpr (.inl ⟨rfl, rfl⟩), ?_⟩
      rw [newReversal_reversalOf, hid, htx]
    · -- any other transaction is reversed by what reversed it before
      rw [if_neg htx, h.reversed k t₀ ht₀]
      constructor
      · rintro ⟨k', t', ht', hof⟩
        refine ⟨k', _, (h.lookup_recordReversal hstored).mpr (.inr ⟨t', ht', rfl⟩), ?_⟩
        rw [apply_ite Transaction.reversalOf, ite_self]
        exact hof
      · rintro ⟨k', t', ht', hof⟩
        rcases (h.lookup_recordReversal hstored).mp ht' with ⟨rfl, rfl⟩ | ⟨t₁, ht₁, rfl⟩
        · rw [newReversal_reversalOf, hid] at hof
          exact absurd (Option.some.inj hof).symm htx
        · rw [apply_ite Transaction.reversalOf, ite_self] at hof
          exact ⟨k', t₁, ht₁, hof⟩

/-- The original had no reversal before, as it was not marked. -/
theorem reversal_unique_recordReversal (h : s.WF)
    (hstored : s.transactions.lookup txID = some original)
    (hstatus : original.status ≠ .reversed) {k k' : TransactionID}
    {t t' : Transaction Amount} {r : TransactionID}
    (hk : (s.recordReversal now txID original description).transactions.lookup k
      = some t)
    (hk' : (s.recordReversal now txID original description).transactions.lookup k'
      = some t') (hr : t.reversalOf = some r) (hr' : t'.reversalOf = some r) :
    k = k' := by
  have hof : (s.newReversal now original description).reversalOf = some txID := by
    rw [newReversal_reversalOf, h.transaction_id txID original hstored]
  have hnone : ∀ k₁ t₁, s.transactions.lookup k₁ = some t₁ →
      t₁.reversalOf ≠ some txID := fun k₁ t₁ h₁ hof₁ =>
    hstatus ((h.reversed txID original hstored).mpr ⟨k₁, t₁, h₁, hof₁⟩)
  rcases (h.lookup_recordReversal hstored).mp hk with ⟨rfl, rfl⟩ | ⟨t₀, ht₀, rfl⟩
  · rcases (h.lookup_recordReversal hstored).mp hk' with ⟨rfl, rfl⟩ | ⟨t₁, ht₁, rfl⟩
    · rfl
    · rw [apply_ite Transaction.reversalOf, ite_self, ← hr, hof] at hr'
      exact absurd hr' (hnone k' t₁ ht₁)
  · rw [apply_ite Transaction.reversalOf, ite_self] at hr
    rcases (h.lookup_recordReversal hstored).mp hk' with ⟨rfl, rfl⟩ | ⟨t₁, ht₁, rfl⟩
    · rw [← hr', hof] at hr
      exact absurd hr (hnone k t₀ ht₀)
    · rw [apply_ite Transaction.reversalOf, ite_self] at hr'
      exact h.reversal_unique k k' t₀ t₁ r ht₀ ht₁ hr hr'

/-! ## The operations keep the invariant -/

/-- A transaction that passes the checks may be recorded. -/
theorem record (h : s.WF) (hacc : s.Accepts req) :
    (s.record now (s.newTransaction now req)).WF := by
  have hcount : (s.record now (s.newTransaction now req)).idCounter
      = s.idCounter + req.entries.length + 2 := by
    simp [Book.record, newTransaction]
  have hle : s.idCounter ≤ (s.record now (s.newTransaction now req)).idCounter := by
    omega
  refine
    { ledgerIDs := h.ledgerIDs.mono hle
      subledgerIDs := h.subledgerIDs.mono hle
      accountIDs := h.accountIDs.mono hle
      transactionIDs := h.transactionIDs.insert hle (by omega) _
      transaction_id := ?_, positive := ?_, accounts := ?_, balanced := ?_
      index := h.index_record hacc
      reversed := fun _ _ => h.reversed_record
      reversal_unique := ?_, reversal_target := ?_ }
  · -- transaction_id
    intro k t hk
    rcases h.lookup_record.mp hk with ⟨rfl, rfl⟩ | hk
    · rfl
    · exact h.transaction_id k t hk
  · -- positive
    intro k t hk e he
    rcases h.lookup_record.mp hk with ⟨rfl, rfl⟩ | hk
    · exact (newTransaction_entry hacc he).1
    · exact h.positive k t hk e he
  · -- accounts
    intro k t hk e he
    rcases h.lookup_record.mp hk with ⟨rfl, rfl⟩ | hk
    · exact (newTransaction_entry hacc he).2
    · exact h.accounts k t hk e he
  · -- balanced
    intro k t hk
    rcases h.lookup_record.mp hk with ⟨rfl, rfl⟩ | hk
    · rw [newTransaction, legs_assignIDs]
      exact (validateBalance_iff _).mp hacc.balanced
    · exact h.balanced k t hk
  · -- the new transaction reverses nothing
    intro k k' t t' r hk hk' hr hr'
    rcases h.lookup_record.mp hk with ⟨-, rfl⟩ | hk
    · cases hr
    · rcases h.lookup_record.mp hk' with ⟨-, rfl⟩ | hk'
      · cases hr'
      · exact h.reversal_unique k k' t t' r hk hk' hr hr'
  · -- reversal_target: a new transaction reverses none
    intro k t r hk hr
    rcases h.lookup_record.mp hk with ⟨-, rfl⟩ | hk
    · cases hr
    · exact Finmap.mem_insert.mpr (.inr (h.reversal_target k t r hk hr))

/-- A posted transaction may be reversed. -/
theorem recordReversal (h : s.WF)
    (hstored : s.transactions.lookup txID = some original)
    (hstatus : original.status ≠ .reversed) :
    (s.recordReversal now txID original description).WF := by
  have hcount : (s.recordReversal now txID original description).idCounter
      = s.idCounter + original.entries.length + 2 := rfl
  have hle : s.idCounter ≤
      (s.recordReversal now txID original description).idCounter := by
    omega
  have hmem : txID ∈ s.transactions := Finmap.mem_of_lookup_eq_some hstored
  refine
    { ledgerIDs := h.ledgerIDs.mono hle
      subledgerIDs := h.subledgerIDs.mono hle
      accountIDs := h.accountIDs.mono hle
      transactionIDs := (h.transactionIDs.update hmem _).insert hle (by omega) _
      transaction_id := ?_, positive := ?_, accounts := ?_, balanced := ?_
      index := h.index_recordReversal hstored
      reversed := fun _ _ => h.reversed_recordReversal hstored
      reversal_unique := fun _ _ _ _ _ =>
        h.reversal_unique_recordReversal hstored hstatus
      reversal_target := ?_ }
  · -- transaction_id
    intro k t hk
    rcases (h.lookup_recordReversal hstored).mp hk with ⟨rfl, rfl⟩ | ⟨t₀, ht₀, rfl⟩
    · rfl
    · rw [apply_ite Transaction.id, ite_self]
      exact h.transaction_id k t₀ ht₀
  · -- positive
    intro k t hk e he
    rcases (h.lookup_recordReversal hstored).mp hk with ⟨rfl, rfl⟩ | ⟨t₀, ht₀, rfl⟩
    · exact (h.newReversal_entry hstored he).1
    · rw [apply_ite Transaction.entries, ite_self] at he
      exact h.positive k t₀ ht₀ e he
  · -- accounts
    intro k t hk e he
    rcases (h.lookup_recordReversal hstored).mp hk with ⟨rfl, rfl⟩ | ⟨t₀, ht₀, rfl⟩
    · exact (h.newReversal_entry hstored he).2
    · rw [apply_ite Transaction.entries, ite_self] at he
      exact h.accounts k t₀ ht₀ e he
  · -- balanced: the counter-entries balance as the original's do
    intro k t hk
    rcases (h.lookup_recordReversal hstored).mp hk with ⟨rfl, rfl⟩ | ⟨t₀, ht₀, rfl⟩
    · rw [newReversal, legs_assignIDs, legs_reversed]
      exact (h.balanced txID original hstored).reverse
    · rw [apply_ite Transaction.entries, ite_self]
      exact h.balanced k t₀ ht₀
  · -- reversal_target
    intro k t r hk hr
    have hsub : ∀ {x}, x ∈ s.transactions →
        x ∈ (s.recordReversal now txID original description).transactions :=
      fun hx => Finmap.mem_insert.mpr (.inr (Finmap.mem_insert.mpr (.inr hx)))
    rcases (h.lookup_recordReversal hstored).mp hk with ⟨rfl, rfl⟩ | ⟨t₀, ht₀, rfl⟩
    · rw [newReversal_reversalOf, h.transaction_id txID original hstored] at hr
      cases hr
      exact hsub hmem
    · rw [apply_ite Transaction.reversalOf, ite_self] at hr
      exact hsub (h.reversal_target k t₀ r ht₀ hr)

end Stored

/-- New ledgers, subledgers and accounts do not touch the transactions. -/
theorem of_chart {s' : Book Amount} (h : s.WF)
    (ledgerIDs : KeysUpTo LedgerID.mk "ldg" s'.idCounter s'.ledgers)
    (subledgerIDs : KeysUpTo SubledgerID.mk "sub" s'.idCounter s'.subledgers)
    (accountIDs : KeysUpTo AccountID.mk "acct" s'.idCounter s'.accounts)
    (hsub : ∀ a ∈ s.accounts, a ∈ s'.accounts)
    (htx : s'.transactions = s.transactions)
    (hidx : s'.idempotencyIndex = s.idempotencyIndex)
    (hle : s.idCounter ≤ s'.idCounter) : s'.WF where
  ledgerIDs := ledgerIDs
  subledgerIDs := subledgerIDs
  accountIDs := accountIDs
  transactionIDs := htx ▸ h.transactionIDs.mono hle
  transaction_id := htx ▸ h.transaction_id
  positive := htx ▸ h.positive
  accounts k t hk e he := hsub _ (h.accounts k t (htx ▸ hk) e he)
  balanced := htx ▸ h.balanced
  index := htx ▸ hidx ▸ h.index
  reversed := htx ▸ h.reversed
  reversal_unique := htx ▸ h.reversal_unique
  reversal_target := htx ▸ h.reversal_target

end WF

/-! ## Runs of book operations -/

/-- The mutating operations of a book, with their arguments. -/
inductive Op (Amount : Type) where
  | createLedger (name : String)
  | createSubledger (ledgerID : LedgerID) (name : String)
  | createAccount (subledgerID : SubledgerID) (name : String)
      (accountType : AccountType)
  | postTransaction (req : PostTransactionRequest Amount)
  | reverseTransaction (txID : TransactionID) (description : String)

/-- Call an operation and drop its result. -/
def call (now : Time) : Op Amount → Call (Book Amount) Err Unit
  | .createLedger name => (createLedger now name).discard
  | .createSubledger ledgerID name => (createSubledger now ledgerID name).discard
  | .createAccount subledgerID name accountType =>
    (createAccount now subledgerID name accountType).discard
  | .postTransaction req => (postTransaction now req).discard
  | .reverseTransaction txID description =>
    (reverseTransaction now txID description).discard

/-- One step of a run: a call at some time, successful or not. -/
def exec (step : Time × Op Amount) (s : Book Amount) : Book Amount :=
  (call step.1 step.2).final s

/-- What may be said of a call that fails. -/
def Refuses (s : Book Amount) : Op Amount → Prop
  | .postTransaction req => ¬s.Accepts req
  | .reverseTransaction txID _ =>
    ∀ original, s.transactions.lookup txID = some original → original.status = .reversed
  | _ => True

/-- What a call can do to a book: a failing call does nothing, and a
successful one makes one of five changes. -/
inductive Change (now : Time) (s : Book Amount) : Op Amount → Book Amount → Prop
  | refused (op : Op Amount) (hrefuses : s.Refuses op) : Change now s op s
  | ledger (name : String) : Change now s (.createLedger name)
      (s.addLedger now (s.newLedger now name))
  | subledger (ledgerID : LedgerID) (name : String) :
      Change now s (.createSubledger ledgerID name)
        (s.addSubledger now (s.newSubledger now ledgerID name))
  | account (subledgerID : SubledgerID) (name : String)
      (accountType : AccountType) :
      Change now s (.createAccount subledgerID name accountType)
        (s.addAccount now (s.newAccount now subledgerID name accountType))
  | post (req : PostTransactionRequest Amount) (hacc : s.Accepts req) :
      Change now s (.postTransaction req)
        (s.record now (s.newTransaction now req))
  | reverse (txID : TransactionID) (description : String)
      (original : Transaction Amount)
      (hstored : s.transactions.lookup txID = some original)
      (hstatus : original.status ≠ .reversed) :
      Change now s (.reverseTransaction txID description)
        (s.recordReversal now txID original description)

/-- A call fails without effect, or it makes a change and logs one event. -/
theorem call_cases (now : Time) (op : Op Amount) (s : Book Amount) :
    (s.Refuses op ∧ ∃ e, call now op s = .error e s) ∨
      ∃ s' event, call now op s = .ok () s' ∧ Change now s op s' ∧
        s'.auditLog = s.auditLog ++ [event] := by
  cases op with
  | createLedger name =>
    have hok := createLedger_eq s now name
    exact .inr ⟨_, _, Call.discard_of_ok hok, .ledger name, rfl⟩
  | createSubledger ledgerID name =>
    have heq := createSubledger_eq s now ledgerID name
    split at heq
    · exact .inl ⟨trivial, _, Call.discard_of_error heq⟩
    · exact .inr ⟨_, _, Call.discard_of_ok heq, .subledger ledgerID name, rfl⟩
  | createAccount subledgerID name accountType =>
    have heq := createAccount_eq s now subledgerID name accountType
    split at heq
    · exact .inl ⟨trivial, _, Call.discard_of_error heq⟩
    · exact .inr ⟨_, _, Call.discard_of_ok heq,
        .account subledgerID name accountType, rfl⟩
  | postTransaction req =>
    by_cases h : s.Accepts req
    · have hok := postTransaction_of_accepts h now
      exact .inr ⟨_, _, Call.discard_of_ok hok, .post req h, rfl⟩
    · obtain ⟨e, he, -⟩ := postTransaction_of_not_accepts h now
      exact .inl ⟨h, e, Call.discard_of_error he⟩
  | reverseTransaction txID description =>
    cases heq : reverseTransaction now txID description s with
    | ok tx s' =>
      obtain ⟨original, hstored, hstatus, -, rfl⟩ :=
        reverseTransaction_eq_ok.mp heq
      exact .inr ⟨_, _, Call.discard_of_ok heq,
        .reverse txID description original hstored hstatus, rfl⟩
    | error e s' =>
      obtain ⟨rfl, hrefuses⟩ := reverseTransaction_eq_error heq
      exact .inl ⟨hrefuses, e, Call.discard_of_error heq⟩

theorem exec_change (now : Time) (op : Op Amount) (s : Book Amount) :
    Change now s op (exec (now, op) s) := by
  rcases call_cases now op s with ⟨hrefuses, e, he⟩ | ⟨s', event, hok, hc, -⟩
  · rw [exec, Call.final_of_error he]
    exact .refused op hrefuses
  · rw [exec, Call.final_of_ok hok]
    exact hc

/-- A new account leaves the transactions as they are. -/
theorem WF.addAccount {s : Book Amount} (h : s.WF) (now : Time)
    (subledgerID : SubledgerID) (name : String) (accountType : AccountType) :
    (s.addAccount now (s.newAccount now subledgerID name accountType)).WF :=
  h.of_chart (h.ledgerIDs.mono (Nat.le_add_right ..))
    (h.subledgerIDs.mono (Nat.le_add_right ..))
    (h.accountIDs.insert (Nat.le_add_right ..) (Nat.le_succ _) _)
    (fun _ ha => Finmap.mem_insert.mpr (.inr ha)) rfl rfl (Nat.le_add_right ..)

theorem WF.addSubledger {s : Book Amount} (h : s.WF) (now : Time)
    (ledgerID : LedgerID) (name : String) :
    (s.addSubledger now (s.newSubledger now ledgerID name)).WF :=
  h.of_chart (h.ledgerIDs.mono (Nat.le_add_right ..))
    (h.subledgerIDs.insert (Nat.le_add_right ..) (Nat.le_succ _) _)
    (h.accountIDs.mono (Nat.le_add_right ..)) (fun _ ha => ha) rfl rfl
    (Nat.le_add_right ..)

theorem WF.addLedger {s : Book Amount} (h : s.WF) (now : Time) (name : String) :
    (s.addLedger now (s.newLedger now name)).WF :=
  h.of_chart (h.ledgerIDs.insert (Nat.le_add_right ..) (Nat.le_succ _) _)
    (h.subledgerIDs.mono (Nat.le_add_right ..))
    (h.accountIDs.mono (Nat.le_add_right ..)) (fun _ ha => ha) rfl rfl
    (Nat.le_add_right ..)

/-- Ids that are drawn are not in use. -/
theorem WF.fresh_newLedger {s : Book Amount} (h : s.WF) (now : Time)
    (name : String) :
    s.ledgers.lookup (s.newLedger now name).id = none :=
  h.ledgerIDs.fresh (fun _ _ => LedgerID.mk.inj) (Nat.lt_succ_self _)

@[inherit_doc WF.fresh_newLedger]
theorem WF.fresh_newSubledger {s : Book Amount} (h : s.WF) (now : Time)
    (ledgerID : LedgerID) (name : String) :
    s.subledgers.lookup (s.newSubledger now ledgerID name).id = none :=
  h.subledgerIDs.fresh (fun _ _ => SubledgerID.mk.inj) (Nat.lt_succ_self _)

@[inherit_doc WF.fresh_newLedger]
theorem WF.fresh_newAccount {s : Book Amount} (h : s.WF) (now : Time)
    (subledgerID : SubledgerID) (name : String) (accountType : AccountType) :
    s.accounts.lookup (s.newAccount now subledgerID name accountType).id = none :=
  h.accountIDs.fresh (fun _ _ => AccountID.mk.inj) (Nat.lt_succ_self _)

/-- Accounts stay as they are. -/
theorem Change.accounts_kept {now : Time} {op : Op Amount} {s s' : Book Amount}
    (hc : Change now s op s') (h : s.WF) {a : AccountID} {acct : Account}
    (ha : s.accounts.lookup a = some acct) : s'.accounts.lookup a = some acct := by
  cases hc with
  | account subledgerID name accountType =>
    have hfresh := h.fresh_newAccount now subledgerID name accountType
    exact (Finmap.lookup_insert_fresh hfresh).mpr (.inr ha)
  | refused => exact ha
  | ledger => exact ha
  | subledger => exact ha
  | post => exact ha
  | reverse => exact ha

theorem Change.wf {now : Time} {op : Op Amount} {s s' : Book Amount}
    (hc : Change now s op s') (h : s.WF) : s'.WF := by
  cases hc with
  | refused => exact h
  | ledger name => exact h.addLedger now name
  | subledger ledgerID name => exact h.addSubledger now ledgerID name
  | account subledgerID name accountType =>
    exact h.addAccount now subledgerID name accountType
  | post req hacc => exact h.record hacc
  | reverse txID description original hstored hstatus =>
    exact h.recordReversal hstored hstatus

theorem exec_wf (step : Time × Op Amount) (s : Book Amount) (h : s.WF) :
    (exec step s).WF :=
  (exec_change step.1 step.2 s).wf h

/-- The book after a run of calls from `NewBook`. -/
def reached (steps : List (Time × Op Amount)) : Book Amount :=
  run exec (newBook Amount) steps

theorem wf_reached (steps : List (Time × Op Amount)) : (reached steps).WF :=
  run_invariant exec_wf wf_newBook steps

end Book

end CoreBanking.Ledger
