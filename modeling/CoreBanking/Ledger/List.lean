import CoreBanking.Base.Creation
import CoreBanking.Ledger.References
import CoreBanking.Ledger.TrialBalance

/-!
# Listings of a book (list.go)

The listings collect what a map holds, in the order in which Go visits it, and sort it
by creation time, then id. Each takes the order of its map and a sort.

`account_statement`: the statement of an account lists what touches it, and adds up to its
balance. What the sort by id does to entities created at one time is with the deposit
layer's listings, which share it.
-/

namespace CoreBanking.Ledger

instance : LinearOrder LedgerID :=
  LinearOrder.lift' LedgerID.val fun _ _ h => congrArg LedgerID.mk h

instance : LinearOrder TransactionID :=
  LinearOrder.lift' TransactionID.val fun _ _ h => congrArg TransactionID.mk h

namespace Book

variable {Amount : Type}

/-! ## The entities of a book -/

def ledgerKind : EntityKind (Book Amount) LedgerID Ledger :=
  ⟨Book.ledgers, Ledger.id, LedgerID.val, Ledger.createdAt,
    fun _ _ => congrArg LedgerID.mk⟩

def subledgerKind : EntityKind (Book Amount) SubledgerID Subledger :=
  ⟨Book.subledgers, Subledger.id, SubledgerID.val, Subledger.createdAt,
    fun _ _ => congrArg SubledgerID.mk⟩

def accountKind : EntityKind (Book Amount) AccountID Account :=
  ⟨Book.accounts, Account.id, AccountID.val, Account.createdAt,
    fun _ _ => congrArg AccountID.mk⟩

def transactionKind : EntityKind (Book Amount) TransactionID (Transaction Amount) :=
  ⟨Book.transactions, Transaction.id, TransactionID.val, Transaction.createdAt,
    fun _ _ => congrArg TransactionID.mk⟩

/-! ## Listings -/

/-- `ListLedgers`: all ledgers. -/
def listLedgers (order : MapOrder LedgerID Ledger) (sorter : SliceSort Ledger)
    (s : Book Amount) : List Ledger :=
  listed order sorter (ByCreation Ledger.createdAt fun l => l.id.val) (fun _ => True) s.ledgers

/-- `ListSubledgers`: the subledgers of a ledger, none if there is no such ledger. -/
def listSubledgers (order : MapOrder SubledgerID Subledger) (sorter : SliceSort Subledger)
    (s : Book Amount) (ledgerID : LedgerID) : List Subledger :=
  listed order sorter (ByCreation Subledger.createdAt fun sl => sl.id.val)
    (fun sl => sl.ledgerID = ledgerID) s.subledgers

/-- `ListAccounts`: the accounts of a subledger, none if there is no such subledger. -/
def listAccounts (order : MapOrder AccountID Account) (sorter : SliceSort Account)
    (s : Book Amount) (subledgerID : SubledgerID) : List Account :=
  listed order sorter (ByCreation Account.createdAt fun a => a.id.val)
    (fun a => a.subledgerID = subledgerID) s.accounts

/-- `ListTransactions`: all transactions. -/
def listTransactions (order : MapOrder TransactionID (Transaction Amount))
    (sorter : SliceSort (Transaction Amount)) (s : Book Amount) : List (Transaction Amount) :=
  listed order sorter (ByCreation Transaction.createdAt fun tx => tx.id.val) (fun _ => True)
    s.transactions

/-- The inner loop of `ListTransactionsForAccount`: it breaks off at the first entry on
the account. -/
def Touches (a : AccountID) (tx : Transaction Amount) : Prop :=
  ∃ e ∈ tx.entries, e.accountID = a

instance (a : AccountID) (tx : Transaction Amount) : Decidable (Touches a tx) :=
  inferInstanceAs (Decidable (∃ e ∈ _, _))

/-- `ListTransactionsForAccount`: the transactions with an entry on the account. -/
def listTransactionsForAccount (order : MapOrder TransactionID (Transaction Amount))
    (sorter : SliceSort (Transaction Amount)) (s : Book Amount) (a : AccountID) :
    List (Transaction Amount) :=
  listed order sorter (ByCreation Transaction.createdAt fun tx => tx.id.val) (Touches a)
    s.transactions

variable [AddCommGroup Amount] [LinearOrder Amount]

/-! ## Each step creates at most one entity -/

/-- The invariant that the listings rest on. -/
structure Sound (s : Book Amount) : Prop where
  wf : s.WF
  resolves : s.Resolves

theorem exec_sound (step : Time × Op Amount) (s : Book Amount) (h : s.Sound) :
    (exec step s).Sound :=
  ⟨exec_wf step s h.wf, exec_resolves step s h.resolves⟩

theorem sound_newBook : (newBook Amount).Sound := ⟨wf_newBook, resolves_newBook⟩

section Creation

variable {now : Time} {op : Op Amount} {s s' : Book Amount}

theorem Change.creates_ledger (hc : Change now s op s') (h : s.WF) :
    ledgerKind.Creates now s s' := by
  cases hc with
  | ledger name => exact .of_insert rfl (h.fresh_newLedger now name) rfl
  | refused => exact .of_eq rfl
  | subledger => exact .of_eq rfl
  | account => exact .of_eq rfl
  | post => exact .of_eq rfl
  | reverse => exact .of_eq rfl

theorem Change.creates_subledger (hc : Change now s op s') (h : s.WF) :
    subledgerKind.Creates now s s' := by
  cases hc with
  | subledger ledgerID name => exact .of_insert rfl (h.fresh_newSubledger now ledgerID name) rfl
  | refused => exact .of_eq rfl
  | ledger => exact .of_eq rfl
  | account => exact .of_eq rfl
  | post => exact .of_eq rfl
  | reverse => exact .of_eq rfl

theorem Change.creates_account (hc : Change now s op s') (h : s.WF) :
    accountKind.Creates now s s' := by
  cases hc with
  | account subledgerID name accountType =>
    exact .of_insert rfl (h.fresh_newAccount now subledgerID name accountType) rfl
  | refused => exact .of_eq rfl
  | ledger => exact .of_eq rfl
  | subledger => exact .of_eq rfl
  | post => exact .of_eq rfl
  | reverse => exact .of_eq rfl

/-- A reversal creates one transaction; the original is marked and keeps its stamp. -/
theorem creates_recordReversal (h : s.WF) {txID : TransactionID}
    {original : Transaction Amount} (hstored : s.transactions.lookup txID = some original)
    (description : String) :
    transactionKind.Creates now s (s.recordReversal now txID original description) := by
  have hmem : txID ∈ s.transactions := Finmap.mem_of_lookup_eq_some hstored
  have hnew : ∀ k, k ∈ (s.recordReversal now txID original description).transactions →
      k ∉ s.transactions → k = (s.newReversal now original description).id := by
    intro k hk hnot
    refine (Finmap.mem_insert.mp hk).resolve_right fun hk' => ?_
    rcases Finmap.mem_insert.mp hk' with rfl | hold
    · exact hnot hmem
    · exact hnot hold
  constructor
  · intro k t hk
    refine ⟨_, h.lookup_recordReversal_old now description hstored hk, ?_⟩
    show Transaction.createdAt (if k = txID then _ else t) = t.createdAt
    rw [apply_ite Transaction.createdAt, ite_self]
  · intro k t hk hnot
    rcases (h.lookup_recordReversal hstored).mp hk with ⟨-, rfl⟩ | ⟨t₀, ht₀, -⟩
    · rfl
    · exact absurd (Finmap.mem_of_lookup_eq_some ht₀) hnot
  · intro k k' hk hk' hnot hnot'
    rw [hnew k hk hnot, hnew k' hk' hnot']

theorem Change.creates_transaction (hc : Change now s op s') (h : s.WF) :
    transactionKind.Creates now s s' := by
  cases hc with
  | post req hacc => exact .of_insert rfl (h.fresh_newTransaction now req) rfl
  | reverse txID description original hstored hstatus =>
    exact creates_recordReversal h hstored description
  | refused => exact .of_eq rfl
  | ledger => exact .of_eq rfl
  | subledger => exact .of_eq rfl
  | account => exact .of_eq rfl

end Creation

theorem ledger_creation :
    (ledgerKind : EntityKind (Book Amount) _ _).Creation exec Sound where
  keeps := exec_sound
  creates step s h := (exec_change step.1 step.2 s).creates_ledger h.wf
  id _ h := h.resolves.ledger_id

theorem subledger_creation :
    (subledgerKind : EntityKind (Book Amount) _ _).Creation exec Sound where
  keeps := exec_sound
  creates step s h := (exec_change step.1 step.2 s).creates_subledger h.wf
  id _ h := h.resolves.subledger_id

theorem account_creation :
    (accountKind : EntityKind (Book Amount) _ _).Creation exec Sound where
  keeps := exec_sound
  creates step s h := (exec_change step.1 step.2 s).creates_account h.wf
  id _ h := h.resolves.account_id

theorem transaction_creation :
    (transactionKind : EntityKind (Book Amount) _ _).Creation exec Sound where
  keeps := exec_sound
  creates step s h := (exec_change step.1 step.2 s).creates_transaction h.wf
  id _ h := h.wf.transaction_id

/-! ## The statement of an account -/

omit [LinearOrder Amount] in
/-- A transaction without an entry on the account has no effect on it. -/
theorem effect_of_not_touches {a : AccountID} {tx : Transaction Amount} (h : ¬Touches a tx)
    (normal : Direction) : effect normal a tx.entries = 0 :=
  effect_eq_zero fun e he ha => h ⟨e, he, ha⟩

/-- **The statement of an account and its balance agree.** In every book that a run
reaches, each account has one statement, whatever the order of the map and the sort. It
lists the stored transactions with an entry on the account, each once, in strictly
increasing order of creation time and id, and their net effects add up to the balance;
the others have none. -/
theorem account_statement (steps : List (Time × Op Amount)) (a : AccountID) :
    let s := reached steps
    ∃ l, (∀ order sorter, listTransactionsForAccount order sorter s a = l) ∧
      (∀ tx, tx ∈ l ↔ s.transactions.lookup tx.id = some tx ∧
        ∃ e ∈ tx.entries, e.accountID = a) ∧
      l.Nodup ∧
      (l.Pairwise fun tx tx' => tx.createdAt.ns < tx'.createdAt.ns ∨
        tx.createdAt.ns = tx'.createdAt.ns ∧ tx.id.val < tx'.id.val) ∧
      (∀ acct, s.accounts.lookup a = some acct → s.bookBalance a
        = .ok (l.map fun tx => effect acct.type.normalBalance a tx.entries).sum) ∧
      ∀ normal k tx, s.transactions.lookup k = some tx → tx ∉ l →
        effect normal a tx.entries = 0 := by
  intro s
  have h : s.WF := wf_reached steps
  -- any order of the map and any sort give the statement
  let order : MapOrder TransactionID (Transaction Amount) := .byKey
  let sorter : SliceSort (Transaction Amount) := .breaking fun _ _ => True
  have hmem : ∀ tx, tx ∈ listTransactionsForAccount order sorter s a ↔
      s.transactions.lookup tx.id = some tx ∧ ∃ e ∈ tx.entries, e.accountID = a :=
    fun tx => mem_listed_of_id h.transaction_id
  have hname : ∀ tx tx' : Transaction Amount,
      toLex (tx.createdAt.ns, tx.id.val) = toLex (tx'.createdAt.ns, tx'.id.val) →
        tx.id = tx'.id := by
    intro tx tx' heq
    exact congrArg TransactionID.mk (Prod.mk.inj (toLex_inj.mp heq)).2
  refine ⟨listTransactionsForAccount order sorter s a, fun order' sorter' => ?_, hmem, ?_, ?_,
    ?_, ?_⟩
  · exact listed_congr byCreation_iff h.transaction_id hname
  · exact (nodup_listed h.transaction_id).of_map Transaction.id
  · refine (pairwise_listed byCreation_iff h.transaction_id hname).imp fun hless => ?_
    exact Prod.Lex.toLex_lt_toLex.mp ((byCreation_iff _ _).mp hless)
  · intro acct hacct
    rw [bookBalance, hacct, listTransactionsForAccount,
      sum_listed fun k tx _ hkeep => effect_of_not_touches hkeep _]
    rfl
  · intro normal k tx hk hunlisted
    refine effect_of_not_touches (fun htouches => hunlisted ((hmem tx).mpr ⟨?_, htouches⟩)) normal
    rwa [h.transaction_id k tx hk]

end Book

end CoreBanking.Ledger
