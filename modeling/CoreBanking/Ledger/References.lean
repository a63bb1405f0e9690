import CoreBanking.Base.Guarantee
import CoreBanking.Ledger.Invariant

/-!
# References within a book

A book stores ledgers, subledgers and accounts under their own ids, a subledger names a
ledger that is there, and an account a subledger (`Book.Resolves`). The references of
transactions and of the idempotency index are part of `Book.WF`; `Book.Linked` puts the two
together.

- `exec_resolves`, `resolves_reached`: nothing is ever taken out of a map, so a reference
  that has resolved once does so ever after;
- `call_not_panics`, `call_guarantees`: no operation reads through a missing entry,
  whatever the state;
- `Linked.getTransactionByIdempotencyKey`: neither does the lookup by a key.
-/

namespace CoreBanking.Ledger

/-- The run-time panic of reading through a missing map entry. -/
def Err.Panics (e : Err) : Prop := e = .nilDereference

namespace Book

variable {Amount : Type}

/-- The chart of accounts is stored by id, and what it refers to is there. -/
structure Resolves (s : Book Amount) : Prop where
  ledger_id : ∀ k l, s.ledgers.lookup k = some l → l.id = k
  subledger_id : ∀ k sl, s.subledgers.lookup k = some sl → sl.id = k
  account_id : ∀ k acct, s.accounts.lookup k = some acct → acct.id = k
  ledger : ∀ k sl, s.subledgers.lookup k = some sl → sl.ledgerID ∈ s.ledgers
  subledger : ∀ k acct, s.accounts.lookup k = some acct → acct.subledgerID ∈ s.subledgers

theorem resolves_newBook : (newBook Amount).Resolves where
  ledger_id := Finmap.forall_lookup_empty
  subledger_id := Finmap.forall_lookup_empty
  account_id := Finmap.forall_lookup_empty
  ledger := Finmap.forall_lookup_empty
  subledger := Finmap.forall_lookup_empty

namespace Resolves

variable {s : Book Amount}

/-- Transactions, keys and the log are not part of the chart. -/
theorem of_eq {s' : Book Amount} (h : s.Resolves) (hledgers : s'.ledgers = s.ledgers)
    (hsubledgers : s'.subledgers = s.subledgers) (haccounts : s'.accounts = s.accounts) :
    s'.Resolves where
  ledger_id := hledgers ▸ h.ledger_id
  subledger_id := hsubledgers ▸ h.subledger_id
  account_id := haccounts ▸ h.account_id
  ledger := hledgers ▸ hsubledgers ▸ h.ledger
  subledger := hsubledgers ▸ haccounts ▸ h.subledger

theorem addLedger (h : s.Resolves) (now : Time) (l : Ledger) :
    (s.addLedger now l).Resolves where
  ledger_id := Finmap.forall_lookup_insert h.ledger_id rfl
  subledger_id := h.subledger_id
  account_id := h.account_id
  ledger k sl hk := Finmap.mem_insert.mpr (.inr (h.ledger k sl hk))
  subledger := h.subledger

theorem addSubledger (h : s.Resolves) (now : Time) {sl : Subledger}
    (hledger : sl.ledgerID ∈ s.ledgers) : (s.addSubledger now sl).Resolves where
  ledger_id := h.ledger_id
  subledger_id := Finmap.forall_lookup_insert h.subledger_id rfl
  account_id := h.account_id
  ledger := Finmap.forall_lookup_insert h.ledger hledger
  subledger k acct hk := Finmap.mem_insert.mpr (.inr (h.subledger k acct hk))

theorem addAccount (h : s.Resolves) (now : Time) {acct : Account}
    (hsubledger : acct.subledgerID ∈ s.subledgers) : (s.addAccount now acct).Resolves where
  ledger_id := h.ledger_id
  subledger_id := h.subledger_id
  account_id := Finmap.forall_lookup_insert h.account_id rfl
  ledger := h.ledger
  subledger := Finmap.forall_lookup_insert h.subledger hsubledger

end Resolves

variable [AddCommGroup Amount] [LinearOrder Amount]

/-- A call that creates a subledger or an account has found what that belongs to. -/
theorem exec_resolves (step : Time × Op Amount) (s : Book Amount) (h : s.Resolves) :
    (exec step s).Resolves := by
  obtain ⟨now, op⟩ := step
  cases op with
  | createLedger name => exact h.addLedger now _
  | createSubledger ledgerID name =>
    have heq := createSubledger_eq s now ledgerID name
    cases hl : s.ledgers.lookup ledgerID with
    | none =>
      rw [hl] at heq
      have hexec : exec (now, .createSubledger ledgerID name) s = s :=
        Call.final_of_error (Call.discard_of_error heq)
      rw [hexec]
      exact h
    | some l =>
      rw [hl] at heq
      have hexec : exec (now, .createSubledger ledgerID name) s = s.addSubledger now _ :=
        Call.final_of_ok (Call.discard_of_ok heq)
      rw [hexec]
      exact h.addSubledger now (Finmap.mem_of_lookup_eq_some hl)
  | createAccount subledgerID name accountType =>
    have heq := createAccount_eq s now subledgerID name accountType
    cases hsl : s.subledgers.lookup subledgerID with
    | none =>
      rw [hsl] at heq
      have hexec : exec (now, .createAccount subledgerID name accountType) s = s :=
        Call.final_of_error (Call.discard_of_error heq)
      rw [hexec]
      exact h
    | some sl =>
      rw [hsl] at heq
      have hexec : exec (now, .createAccount subledgerID name accountType) s
          = s.addAccount now _ := Call.final_of_ok (Call.discard_of_ok heq)
      rw [hexec]
      exact h.addAccount now (Finmap.mem_of_lookup_eq_some hsl)
  | postTransaction req =>
    have hc := exec_change now (.postTransaction req) s
    generalize exec (now, .postTransaction req) s = s' at hc ⊢
    cases hc with
    | refused => exact h
    | post => exact h.of_eq rfl rfl rfl
  | reverseTransaction txID description =>
    have hc := exec_change now (.reverseTransaction txID description) s
    generalize exec (now, .reverseTransaction txID description) s = s' at hc ⊢
    cases hc with
    | refused => exact h
    | reverse => exact h.of_eq rfl rfl rfl

theorem resolves_reached (steps : List (Time × Op Amount)) : (reached steps).Resolves :=
  run_invariant exec_resolves resolves_newBook steps

/-- Some run leads to the book. -/
def Reachable (s : Book Amount) : Prop := ∃ steps, s = reached steps

variable (Amount) in
theorem reachable_newBook : (newBook Amount).Reachable := ⟨[], rfl⟩

theorem Reachable.run {s : Book Amount} (h : s.Reachable) (steps : List (Time × Op Amount)) :
    (run exec s steps).Reachable := by
  obtain ⟨before, rfl⟩ := h
  exact ⟨before ++ steps, (run_append _ before steps).symm⟩

theorem Reachable.exec {s : Book Amount} (h : s.Reachable) (step : Time × Op Amount) :
    (exec step s).Reachable :=
  h.run [step]

/-! ## No lookup misses -/

/-- Every reference in the book leads to something. -/
structure Linked (s : Book Amount) : Prop where
  entry : ∀ k t, s.transactions.lookup k = some t → ∀ e ∈ t.entries, e.accountID ∈ s.accounts
  account : ∀ k acct, s.accounts.lookup k = some acct → acct.subledgerID ∈ s.subledgers
  subledger : ∀ k sl, s.subledgers.lookup k = some sl → sl.ledgerID ∈ s.ledgers
  key : ∀ key k, s.idempotencyIndex.lookup key = some k → k ∈ s.transactions
  reversal : ∀ k t r, s.transactions.lookup k = some t → t.reversalOf = some r →
    r ∈ s.transactions

theorem WF.linked {s : Book Amount} (h : s.WF) (hr : s.Resolves) : s.Linked where
  entry := h.accounts
  account := hr.subledger
  subledger := hr.ledger
  key key k hk := by
    obtain ⟨-, t, ht, -⟩ := (h.index key k).mp hk
    exact Finmap.mem_of_lookup_eq_some ht
  reversal := h.reversal_target

omit [AddCommGroup Amount] [LinearOrder Amount] in
/-- What `GetTransactionByIdempotencyKey` looks up is there. -/
theorem Linked.getTransactionByIdempotencyKey {s : Book Amount} (h : s.Linked) {key : String}
    {e : Err} (he : s.getTransactionByIdempotencyKey key = .error e) : ¬e.Panics := by
  rw [Book.getTransactionByIdempotencyKey] at he
  cases hk : s.idempotencyIndex.lookup key with
  | none =>
    rw [hk] at he
    cases he
    exact nofun
  | some k =>
    obtain ⟨t, ht⟩ := Finmap.mem_iff.mp (h.key key k hk)
    simp only [hk, ht] at he
    cases he

/-- No operation panics. `PostTransaction` has found the accounts of all entries before
`checkSufficientBalance` reads through them. -/
theorem call_not_panics {now : Time} {op : Op Amount} {s : Book Amount} {e : Err}
    (h : Call.failure (call now op s) = some e) : ¬e.Panics := by
  rintro rfl
  cases op with
  | createLedger name => cases h
  | createSubledger ledgerID name =>
    rw [call, Call.failure_discard, createSubledger_eq] at h
    split at h <;> cases h
  | createAccount subledgerID name accountType =>
    rw [call, Call.failure_discard, createAccount_eq] at h
    split at h <;> cases h
  | postTransaction req =>
    rw [call, Call.failure_discard] at h
    by_cases hacc : s.Accepts req
    · rw [postTransaction_of_accepts hacc] at h
      cases h
    · obtain ⟨e, he, hne⟩ := postTransaction_of_not_accepts hacc now
      rw [he] at h
      exact hne (Option.some.inj h)
  | reverseTransaction txID description =>
    rw [call, Call.failure_discard] at h
    cases hstored : s.transactions.lookup txID with
    | none =>
      rw [reverseTransaction, Call.get_bind, hstored] at h
      cases h
    | some original =>
      by_cases hposted : original.status ≠ .reversed
      · rw [reverseTransaction_of_posted hstored hposted] at h
        cases h
      · rw [reverseTransaction, Call.get_bind, hstored, orThrow_some_bind,
          require_bind_of_not hposted] at h
        cases h

/-- A call makes its step, whatever its outcome, and does not panic. -/
theorem call_guarantees {α : Type} {x : Call (Book Amount) Err α} {now : Time} (op : Op Amount)
    (hx : call now op = x.discard) (s : Book Amount) :
    Call.Guarantees (fun s' => s' = exec (now, op) s) (fun e => ¬e.Panics) x s
      fun a s' => x s = .ok a s' :=
  .of_discard hx fun _ => call_not_panics

omit [LinearOrder Amount] in
/-- The accounts that the second loop of `checkSufficientBalance` looks up are those that the
first one has found. -/
theorem mem_of_impact {s : Book Amount} {entries : List (Entry Amount)}
    {impact impact' : GoMap AccountID Amount} (himpact : ∀ a ∈ impact, a ∈ s.accounts)
    (h : entries.foldlM s.addImpact impact = .ok impact') : ∀ a ∈ impact', a ∈ s.accounts := by
  induction entries generalizing impact with
  | nil =>
    cases h
    exact himpact
  | cons e es ih =>
    rw [List.foldlM_cons] at h
    obtain ⟨next, hnext, hrest⟩ := Call.except_bind_eq_ok.mp h
    refine ih (fun a ha => ?_) hrest
    rw [addImpact] at hnext
    split at hnext
    · cases hnext
    · rename_i acct hacct
      cases hnext
      rcases Finmap.mem_insert.mp ha with rfl | hold
      · exact Finmap.mem_of_lookup_eq_some hacct
      · exact himpact a hold

/-- Nothing that a book does reads through a missing entry. -/
structure NeverPanics (s : Book Amount) : Prop where
  call : ∀ now op e, Call.failure (call now op s) = some e → ¬e.Panics
  impact : ∀ (entries : List (Entry Amount)) (impact : GoMap AccountID Amount),
    entries.foldlM s.addImpact ∅ = .ok impact → ∀ a ∈ impact, a ∈ s.accounts
  key : ∀ key e, s.getTransactionByIdempotencyKey key = .error e → ¬e.Panics

theorem Linked.neverPanics {s : Book Amount} (h : s.Linked) : s.NeverPanics where
  call _ _ _ := call_not_panics
  impact _ _ := mem_of_impact fun _ ha => absurd ha Finmap.notMem_empty
  key _ _ := h.getTransactionByIdempotencyKey

theorem linked_reached (steps : List (Time × Op Amount)) : (reached steps).Linked :=
  (wf_reached steps).linked (resolves_reached steps)

omit [AddCommGroup Amount] [LinearOrder Amount] in
/-- A new account is there. -/
theorem createAccount_mem {s s' : Book Amount} {now : Time} {subledgerID : SubledgerID}
    {name : String} {accountType : AccountType} {acct : Account}
    (h : createAccount now subledgerID name accountType s = .ok acct s') :
    acct.id ∈ s'.accounts := by
  rw [createAccount_eq] at h
  split at h <;> cases h
  exact Finmap.mem_insert.mpr (.inl rfl)

/-- A call leaves a book that a run leads to, if it finds one. -/
theorem Reachable.call {α : Type} {x : Call (Book Amount) Err α} {now : Time} (op : Op Amount)
    (hx : call now op = x.discard) {s : Book Amount} (h : s.Reachable) :
    Call.Guarantees Reachable (fun e => ¬e.Panics) x s fun _ _ => True := by
  refine (call_guarantees op hx s).mono ?_ fun _ _ _ _ => trivial
  rintro s' rfl
  exact h.exec (now, op)

end Book

end CoreBanking.Ledger
