import CoreBanking.Ledger.AuditLog
import CoreBanking.Ledger.Keyed
import CoreBanking.Ledger.TrialBalance

/-!
# Rebuilding the books from the audit log

`replay` reads the events of a log one after the other and rebuilds the ledgers,
subledgers, accounts and transactions from what they say. A reversal is logged by two
ids only: its entries are those of the transaction it reverses, which an earlier event
has rebuilt, the other way round.

`replay_reached`: the replay of the log of a book gives back the book, and with it
every balance.
-/

namespace CoreBanking.Ledger

variable {Amount : Type}

/-- What the log tells about a transaction. Its entries have no ids. -/
structure TransactionSummary (Amount : Type) where
  id : TransactionID
  status : TransactionStatus
  entries : List (Entry Amount)

def Transaction.summary (tx : Transaction Amount) : TransactionSummary Amount :=
  ⟨tx.id, tx.status, tx.entries.map Entry.anonymous⟩

/-- The books as a replay rebuilds them. -/
structure Replica (Amount : Type) where
  ledgers : GoMap LedgerID Ledger
  subledgers : GoMap SubledgerID Subledger
  accounts : GoMap AccountID Account
  transactions : GoMap TransactionID (TransactionSummary Amount)

namespace Replica

/-- Nothing has been replayed yet. -/
def empty : Replica Amount := ⟨∅, ∅, ∅, ∅⟩

/-- Mark a transaction as reversed and add its reversal. -/
def reverse (r : Replica Amount) (originalID reversalID : TransactionID) :
    Replica Amount :=
  match r.transactions.lookup originalID with
  | none => r
  | some t => { r with
      transactions := (r.transactions.insert originalID
        { t with status := .reversed }).insert reversalID
          ⟨reversalID, .posted, t.entries.map Entry.reversed⟩ }

/-- Replay one event, looking at its type, its entity and its payload. -/
def apply (r : Replica Amount) (e : AuditRecord Amount) : Replica Amount :=
  match e.type, e.payload with
  | .ledgerCreated, some (.ledger l) =>
    { r with ledgers := r.ledgers.insert ⟨e.entityID⟩ l }
  | .subledgerCreated, some (.subledger sl) =>
    { r with subledgers := r.subledgers.insert ⟨e.entityID⟩ sl }
  | .accountCreated, some (.account acct) =>
    { r with accounts := r.accounts.insert ⟨e.entityID⟩ acct }
  | .transactionPosted, some (.transaction tx) =>
    { r with
      transactions := r.transactions.insert ⟨e.entityID⟩ tx.asPosted.summary }
  | .transactionReversed, some (.reversal originalID reversalID) =>
    r.reverse originalID reversalID
  | _, _ => r

/-- `BookBalance` on the rebuilt books. -/
def bookBalance [AddCommGroup Amount] (r : Replica Amount) (a : AccountID) :
    Except Err Amount :=
  match r.accounts.lookup a with
  | none => .error .accountNotFound
  | some acct => .ok (r.transactions.sum fun _ t =>
      effect acct.type.normalBalance a t.entries)

end Replica

/-- Replay a log from the beginning. -/
def replay (log : List (AuditRecord Amount)) : Replica Amount :=
  log.foldl Replica.apply .empty

/-- The rebuilt books are those of `s`. -/
structure Replica.Mirrors (r : Replica Amount) (s : Book Amount) : Prop where
  ledgers : r.ledgers = s.ledgers
  subledgers : r.subledgers = s.subledgers
  accounts : r.accounts = s.accounts
  transactions : ∀ k,
    r.transactions.lookup k = (s.transactions.lookup k).map Transaction.summary

/-- Books that agree on the transactions have the same balances. -/
theorem Replica.Mirrors.bookBalance_eq [AddCommGroup Amount] {r : Replica Amount}
    {s : Book Amount} (h : r.Mirrors s) (a : AccountID) :
    r.bookBalance a = s.bookBalance a := by
  rw [Replica.bookBalance, Book.bookBalance, h.accounts]
  cases s.accounts.lookup a with
  | none => rfl
  | some acct =>
    refine congrArg Except.ok (Finmap.sum_eq_of_lookup fun k => ?_)
    rw [h.transactions k, Option.map_map]
    refine congrFun (congrArg Option.map (funext fun t => ?_)) _
    show effect _ a (t.entries.map Entry.anonymous) = _
    rw [effect, effect, List.map_map]
    rfl

/-- A replay looks at a transaction as it was when it was posted. -/
theorem Replica.apply_congr (r : Replica Amount) {e e' : AuditRecord Amount}
    (htype : e.type = e'.type) (hentity : e.entityID = e'.entityID)
    (hpayload : e.payload.map Record.asPosted = e'.payload.map Record.asPosted) :
    r.apply e = r.apply e' := by
  -- the status of a transaction is not looked at
  have hread : ∀ e : AuditRecord Amount,
      r.apply e = r.apply { e with payload := e.payload.map Record.asPosted } := by
    rintro ⟨id, time, type, entity, payload⟩
    cases payload with
    | none => rfl
    | some p => cases p <;> cases type <;> rfl
  rw [hread e, hread e', Replica.apply, Replica.apply, htype, hentity, hpayload]

namespace Book

variable {now : Time} {s s' : Book Amount}

/-- A posting is rebuilt from the transaction it logged. -/
theorem mirrors_record {r : Replica Amount} {tx : Transaction Amount}
    (hr : r.Mirrors s) (hposted : tx.status = .posted) :
    Replica.Mirrors { r with transactions := r.transactions.insert tx.id tx.asPosted.summary }
      (s.record now tx) where
  ledgers := hr.ledgers
  subledgers := hr.subledgers
  accounts := hr.accounts
  transactions k := by
    have hsame : tx.asPosted = tx := by rw [Transaction.asPosted, ← hposted]
    rw [record, Finmap.lookup_insert_ite, Finmap.lookup_insert_ite, hsame, hr.transactions k]
    split <;> rfl

/-- A reversal is rebuilt from the transaction it reverses. -/
theorem mirrors_recordReversal {r : Replica Amount} (hr : r.Mirrors s)
    {txID : TransactionID} {original : Transaction Amount} {description : String}
    (hid : original.id = txID) (hstored : s.transactions.lookup txID = some original) :
    (r.reverse original.id (s.newReversal now original description).id).Mirrors
      (s.recordReversal now txID original description) := by
  subst hid
  have hlook : r.transactions.lookup original.id = some original.summary := by
    rw [hr.transactions, hstored, Option.map_some]
  -- the ids of the entries are not part of a summary
  have hentries : (s.newReversal now original description).entries.map Entry.anonymous
      = original.summary.entries.map Entry.reversed := by
    show (assignIDs s.idCounter (original.entries.map Entry.reversed)).map Entry.anonymous = _
    rw [map_assignIDs Entry.anonymous fun _ _ => rfl, Transaction.summary, List.map_map,
      List.map_map]
    rfl
  rw [Replica.reverse, hlook]
  refine ⟨hr.ledgers, hr.subledgers, hr.accounts, fun k => ?_⟩
  show ((r.transactions.insert original.id _).insert
    (s.newReversal now original description).id _).lookup k = _
  rw [recordReversal, Finmap.lookup_insert_ite, Finmap.lookup_insert_ite,
    Finmap.lookup_insert_ite, Finmap.lookup_insert_ite, hr.transactions k, ← hentries]
  split
  · rfl
  · split <;> rfl

variable [AddCommGroup Amount] [LinearOrder Amount] {op : Op Amount}

/-- Reading the log of an earlier book later gives the same replay, so a replay goes
on from where it was with the new event. -/
theorem Change.replay_append (hc : Change now s op s') (h : s.WF) (hl : s.Logged)
    (event : AuditEvent) (hlog : s'.auditLog = s.auditLog ++ [event]) :
    replay s'.getAuditLog = (replay s.getAuditLog).apply (s'.readEvent event) := by
  -- by induction on the events, from any replica
  have hold : ∀ (events : List AuditEvent) (r : Replica Amount),
      (∀ e ∈ events, e ∈ s.auditLog) →
      (events.map s'.readEvent).foldl Replica.apply r
        = (events.map s.readEvent).foldl Replica.apply r := by
    intro events
    induction events with
    | nil => exact fun _ _ => rfl
    | cons e events ih =>
      intro r hmem
      rw [List.map_cons, List.map_cons, List.foldl_cons, List.foldl_cons,
        ih _ fun e' he' => hmem e' (List.mem_cons_of_mem _ he')]
      have happly : r.apply (s'.readEvent e) = r.apply (s.readEvent e) :=
        r.apply_congr rfl rfl
          (hc.asPosted_read h (hl.resolved e (hmem e List.mem_cons_self)))
      rw [happly]
  rw [getAuditLog, hlog, List.map_append, replay, List.foldl_append,
    hold _ _ fun _ he => he]
  rfl

/-- A call keeps the replay of the log equal to the book. -/
theorem Change.mirrors (hc : Change now s op s') (h : s.WF) (hl : s.Logged)
    (hr : (replay s.getAuditLog).Mirrors s) : (replay s'.getAuditLog).Mirrors s' := by
  have happend := hc.replay_append h hl
  cases hc with
  | refused => exact hr
  | ledger name =>
    rw [happend _ rfl, readEvent, read_addLedger]
    exact ⟨congrArg (Finmap.insert _ _) hr.ledgers, hr.subledgers, hr.accounts,
      hr.transactions⟩
  | subledger ledgerID name =>
    rw [happend _ rfl, readEvent, read_addSubledger]
    exact ⟨hr.ledgers, congrArg (Finmap.insert _ _) hr.subledgers, hr.accounts,
      hr.transactions⟩
  | account subledgerID name accountType =>
    rw [happend _ rfl, readEvent, read_addAccount]
    exact ⟨hr.ledgers, hr.subledgers, congrArg (Finmap.insert _ _) hr.accounts,
      hr.transactions⟩
  | post req hacc =>
    rw [happend _ rfl, readEvent, read_record]
    have hposted : (s.newTransaction now req).status = .posted := rfl
    exact mirrors_record hr hposted
  | reverse txID description original hstored hstatus =>
    rw [happend _ rfl]
    exact mirrors_recordReversal hr (h.transaction_id txID original hstored) hstored

/-- What every call keeps, for the replay of the log to give back the book. -/
structure Rebuilt (s : Book Amount) : Prop where
  wf : s.WF
  logged : s.Logged
  mirrors : (replay s.getAuditLog).Mirrors s

theorem rebuilt_newBook : (newBook Amount).Rebuilt where
  wf := wf_newBook
  logged := logged_newBook
  mirrors := ⟨rfl, rfl, rfl, fun _ => rfl⟩

theorem exec_rebuilt (step : Time × Op Amount) (s : Book Amount) (h : s.Rebuilt) :
    (exec step s).Rebuilt :=
  have hc := exec_change step.1 step.2 s
  { wf := hc.wf h.wf
    logged := hc.logged h.wf h.logged
    mirrors := hc.mirrors h.wf h.logged h.mirrors }

/-- **The log is enough.** The replay of the log of a book reached from `NewBook` gives
back its ledgers, subledgers, accounts and transactions, and with them every balance.
Every call adds to the end of the log: one event if it succeeds, none if it fails. -/
theorem replay_reached (steps : List (Time × Op Amount)) :
    let s : Book Amount := reached steps
    let r := replay s.getAuditLog
    (r.ledgers = s.ledgers ∧ r.subledgers = s.subledgers ∧ r.accounts = s.accounts ∧
      ∀ k, r.transactions.lookup k = (s.transactions.lookup k).map Transaction.summary) ∧
    (∀ a, r.bookBalance a = s.bookBalance a) ∧
    ∀ now op,
      (∀ s', call now op s = .ok () s' →
        ∃ event, s'.auditLog = s.auditLog ++ [event]) ∧
      (∀ e s', call now op s = .error e s' → s'.auditLog = s.auditLog) ∧
      s.auditLog <+: (exec (now, op) s).auditLog := by
  intro s r
  have h : s.Rebuilt := run_invariant exec_rebuilt rebuilt_newBook steps
  have hm : r.Mirrors s := h.mirrors
  refine ⟨⟨hm.ledgers, hm.subledgers, hm.accounts, hm.transactions⟩, hm.bookBalance_eq, ?_⟩
  intro now op
  rw [exec]
  rcases call_cases now op s with ⟨-, e, he⟩ | ⟨s', event, hok, -, hlog⟩
  · rw [he, Call.final_of_error he]
    refine ⟨?_, ?_, List.prefix_rfl⟩
    · intro s' h
      cases h
    · intro e' s' h
      cases h
      rfl
  · rw [hok, Call.final_of_ok hok]
    refine ⟨?_, ?_, ⟨[event], hlog.symm⟩⟩
    · intro s'' h
      cases h
      exact ⟨event, hlog⟩
    · intro e s'' h
      cases h

end Book

end CoreBanking.Ledger
