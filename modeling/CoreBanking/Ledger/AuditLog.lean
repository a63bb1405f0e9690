import CoreBanking.Base.Log
import CoreBanking.Ledger.Invariant

/-!
# The audit log

The log stores what an event concerns as a reference to the stored record, so what
a reader of the log sees depends on when it reads. `getAuditLog` is the log as it is
read in a state. A stored transaction in turn refers to the map of metadata that the caller
of `PostTransaction` passed, and may have kept (`SharedBook`).

- `Logged`: every reference leads to a record, and a transaction is referred to
  unless it is a reversal, which is logged by its id only;
- `Change.read_eq`: what a reference leads to stays the same, but for the status of
  a transaction that is reversed (`Change.asPosted_read`);
- `SharedBook.getAuditLog_of_unheld`: as long as no caller keeps a map that it passes, the log
  is that of the book;
- `SharedBook.auditLog_grows_iff`: so what has been logged reads the same ever after exactly
  if no logged transaction is reversed, and no map that one holds is written to.
-/

namespace CoreBanking.Ledger

/-- The record that a payload leads to. -/
inductive Record (Amount : Type) where
  | ledger (l : Ledger)
  | subledger (sl : Subledger)
  | account (acct : Account)
  | transaction (tx : Transaction Amount)
  | reversal (originalID reversalID : TransactionID)

/-- An audit event as its reader sees it. -/
structure AuditRecord (Amount : Type) where
  id : String
  timestamp : Time
  type : AuditEventType
  entityID : String
  payload : Option (Record Amount)

/-- A transaction with its status as it was when it was posted. -/
def Transaction.asPosted {Amount : Type} (tx : Transaction Amount) : Transaction Amount :=
  { tx with status := .posted }

/-- A record, any transaction in it as it was posted. -/
def Record.asPosted {Amount : Type} : Record Amount → Record Amount
  | .transaction tx => .transaction tx.asPosted
  | r => r

namespace Book

variable {Amount : Type}

/-- What a payload leads to in the present state of the book. -/
def read (s : Book Amount) : Payload → Option (Record Amount)
  | .ledger ref => (s.ledgers.lookup ref).map .ledger
  | .subledger ref => (s.subledgers.lookup ref).map .subledger
  | .account ref => (s.accounts.lookup ref).map .account
  | .transaction ref => (s.transactions.lookup ref).map .transaction
  | .reversal originalID reversalID => some (.reversal originalID reversalID)

/-- An event with its payload read. -/
def readEvent (s : Book Amount) (e : AuditEvent) : AuditRecord Amount :=
  ⟨e.id, e.timestamp, e.type, e.entityID, s.read e.payload⟩

/-- `GetAuditLog`: all events, in the order they were logged. -/
def getAuditLog (s : Book Amount) : List (AuditRecord Amount) :=
  s.auditLog.map s.readEvent

/-- `GetAuditLogForEntity`: the events of one entity. -/
def getAuditLogForEntity (s : Book Amount) (entityID : String) : List (AuditRecord Amount) :=
  s.getAuditLog.filter fun e => e.entityID = entityID

/-! ## A new record is read back -/

@[simp] theorem read_addLedger (s : Book Amount) (now : Time) (l : Ledger) :
    (s.addLedger now l).read (.ledger l.id) = some (.ledger l) := by
  rw [read, addLedger, Finmap.lookup_insert, Option.map_some]

@[simp] theorem read_addSubledger (s : Book Amount) (now : Time) (sl : Subledger) :
    (s.addSubledger now sl).read (.subledger sl.id) = some (.subledger sl) := by
  rw [read, addSubledger, Finmap.lookup_insert, Option.map_some]

@[simp] theorem read_addAccount (s : Book Amount) (now : Time) (acct : Account) :
    (s.addAccount now acct).read (.account acct.id) = some (.account acct) := by
  rw [read, addAccount, Finmap.lookup_insert, Option.map_some]

@[simp] theorem read_record (s : Book Amount) (now : Time) (tx : Transaction Amount) :
    (s.record now tx).read (.transaction tx.id) = some (.transaction tx) := by
  rw [read, record, Finmap.lookup_insert, Option.map_some]

/-! ## Every reference leads somewhere -/

/-- What the log refers to. -/
structure Logged (s : Book Amount) : Prop where
  resolved : ∀ e ∈ s.auditLog, (s.read e.payload).isSome
  referred : ∀ k t, s.transactions.lookup k = some t →
    (t.reversalOf = none ↔ ∃ e ∈ s.auditLog, e.payload = .transaction k)

theorem logged_newBook : (newBook Amount).Logged where
  resolved e he := absurd he List.not_mem_nil
  referred k t h := by simp [newBook] at h

variable {s s' : Book Amount}

/-- One more event, which leads somewhere. -/
theorem Logged.append (hl : s.Logged) {event : AuditEvent}
    (hlog : s'.auditLog = s.auditLog ++ [event])
    (hkept : ∀ p, (s.read p).isSome → (s'.read p).isSome)
    (hevent : (s'.read event.payload).isSome)
    (hreferred : ∀ k t, s'.transactions.lookup k = some t → (t.reversalOf = none ↔
      (∃ e ∈ s.auditLog, e.payload = .transaction k) ∨ event.payload = .transaction k)) :
    s'.Logged where
  resolved e he := by
    rw [hlog, List.mem_append, List.mem_singleton] at he
    rcases he with he | rfl
    · exact hkept _ (hl.resolved e he)
    · exact hevent
  referred k t hk := by
    rw [hreferred k t hk, hlog]
    simp only [List.mem_append, List.mem_singleton, or_and_right, exists_or,
      exists_eq_left]

/-- An id that is not in use is not referred to. -/
theorem Logged.not_referred (hl : s.Logged) {k : TransactionID}
    (hfresh : s.transactions.lookup k = none) :
    ¬∃ e ∈ s.auditLog, e.payload = .transaction k := by
  rintro ⟨e, he, heq⟩
  have hsome := hl.resolved e he
  rw [heq, read, hfresh] at hsome
  cases hsome

variable [AddCommGroup Amount] [LinearOrder Amount] {now : Time} {op : Op Amount}

/-! ## What a reference leads to -/

/-- What a reference leads to stays as it is, unless it is a transaction that the
call reverses. -/
theorem Change.read_eq (hc : Change now s op s') (h : s.WF) {p : Payload}
    (hp : (s.read p).isSome)
    (hop : ∀ txID description, op = .reverseTransaction txID description →
      p ≠ .transaction txID) : s'.read p = s.read p := by
  cases hc with
  | refused => rfl
  | ledger name =>
    cases p with
    | ledger ref => exact Finmap.map_lookup_insert_fresh (h.fresh_newLedger now name) hp
    | subledger => rfl
    | account => rfl
    | transaction => rfl
    | reversal => rfl
  | subledger ledgerID name =>
    cases p with
    | subledger ref =>
      exact Finmap.map_lookup_insert_fresh (h.fresh_newSubledger now ledgerID name) hp
    | ledger => rfl
    | account => rfl
    | transaction => rfl
    | reversal => rfl
  | account subledgerID name accountType =>
    cases p with
    | account ref =>
      exact Finmap.map_lookup_insert_fresh
        (h.fresh_newAccount now subledgerID name accountType) hp
    | ledger => rfl
    | subledger => rfl
    | transaction => rfl
    | reversal => rfl
  | post req hacc =>
    cases p with
    | transaction ref =>
      exact Finmap.map_lookup_insert_fresh (h.fresh_newTransaction now req) hp
    | ledger => rfl
    | subledger => rfl
    | account => rfl
    | reversal => rfl
  | reverse txID description original hstored hstatus =>
    cases p with
    | transaction ref =>
      have hne : ref ≠ txID := fun heq => hop txID description rfl (heq ▸ rfl)
      obtain ⟨t, ht⟩ := Option.isSome_iff_exists.mp (Option.isSome_map.symm.trans hp)
      rw [read, read, ht, h.lookup_recordReversal_old now description hstored ht,
        if_neg hne]
    | ledger => rfl
    | subledger => rfl
    | account => rfl
    | reversal => rfl

/-- A transaction that is reversed keeps everything but its status. -/
theorem Change.asPosted_read (hc : Change now s op s') (h : s.WF) {p : Payload}
    (hp : (s.read p).isSome) :
    (s'.read p).map Record.asPosted = (s.read p).map Record.asPosted := by
  by_cases hop : ∃ txID description, op = .reverseTransaction txID description ∧
      p = .transaction txID
  · obtain ⟨txID, description, rfl, rfl⟩ := hop
    cases hc with
    | refused => rfl
    | reverse _ _ original hstored hstatus =>
      rw [read, read, hstored, h.lookup_recordReversal_old now description hstored hstored,
        if_pos rfl]
      rfl
  · rw [hc.read_eq h hp fun txID description heq hp =>
      hop ⟨txID, description, heq, hp⟩]

/-- A call keeps every reference to a record. -/
theorem Change.logged (hc : Change now s op s') (h : s.WF) (hl : s.Logged) :
    s'.Logged := by
  have hkept : ∀ p, (s.read p).isSome → (s'.read p).isSome := by
    intro p hp
    have heq := congrArg Option.isSome (hc.asPosted_read h hp)
    rw [Option.isSome_map, Option.isSome_map] at heq
    exact heq.trans hp
  -- an event that is not about a transaction leaves the references to these as they are
  have hother : ∀ {event : AuditEvent} {k t}, (∀ k, event.payload ≠ .transaction k) →
      s.transactions.lookup k = some t → (t.reversalOf = none ↔
        (∃ e ∈ s.auditLog, e.payload = .transaction k) ∨
          event.payload = .transaction k) := by
    intro event k t hevent hk
    rw [hl.referred k t hk, or_iff_left (hevent k)]
  cases hc with
  | refused => exact hl
  | ledger name =>
    refine hl.append rfl hkept ?_ fun k t hk => hother (fun k => by simp) hk
    simp
  | subledger ledgerID name =>
    refine hl.append rfl hkept ?_ fun k t hk => hother (fun k => by simp) hk
    simp
  | account subledgerID name accountType =>
    refine hl.append rfl hkept ?_ fun k t hk => hother (fun k => by simp) hk
    simp
  | post req hacc =>
    have hfresh := h.fresh_newTransaction now req
    refine hl.append rfl hkept ?_ fun k t hk => ?_
    · simp
    · rcases h.lookup_record.mp hk with ⟨rfl, rfl⟩ | hk
      · exact iff_of_true rfl (.inr rfl)
      · rw [hl.referred k t hk, or_iff_left]
        rintro heq
        cases heq
        rw [hfresh] at hk
        cases hk
  | reverse txID description original hstored hstatus =>
    have hfresh := h.fresh_newReversal now original description
    refine hl.append rfl hkept rfl fun k t hk => ?_
    rcases (h.lookup_recordReversal hstored).mp hk with ⟨rfl, rfl⟩ | ⟨t₀, ht₀, rfl⟩
    · refine iff_of_false (by simp [newReversal]) ?_
      rintro (hold | hnew)
      · exact hl.not_referred hfresh hold
      · cases hnew
    · rw [apply_ite Transaction.reversalOf, ite_self]
      show t₀.reversalOf = none ↔ _
      exact hother (fun k => by simp) ht₀

theorem exec_logged (step : Time × Op Amount) (s : Book Amount) (h : s.WF) (hl : s.Logged) :
    (exec step s).Logged :=
  (exec_change step.1 step.2 s).logged h hl

/-! ## What rewrites the log -/

/-- The step reverses a transaction whose posting is logged: one that is not a reversal
itself. -/
def Rewrites (s : Book Amount) (step : Time × Op Amount) : Prop :=
  match step.2 with
  | .reverseTransaction txID _ =>
    ∃ t, s.transactions.lookup txID = some t ∧ t.status ≠ .reversed ∧ t.reversalOf = none
  | _ => False

/-- A step that does not reverse a logged transaction leaves what the log refers to as it
is. -/
theorem exec_read_eq (h : s.WF) (hl : s.Logged) {step : Time × Op Amount}
    (hno : ¬s.Rewrites step) {e : AuditEvent} (he : e ∈ s.auditLog) :
    (exec step s).read e.payload = s.read e.payload := by
  obtain ⟨now, op⟩ := step
  have hc := exec_change now op s
  have hsome := hl.resolved e he
  generalize exec (now, op) s = s' at hc
  have hread := fun hop => hc.read_eq h hsome hop
  cases hc with
  | refused => rfl
  | reverse txID description original hstored hstatus =>
    refine hread ?_
    rintro _ _ ⟨⟩ hpayload
    exact hno ⟨original, hstored, hstatus,
      (hl.referred txID original hstored).mpr ⟨e, he, hpayload⟩⟩
  | _ => exact hread fun _ _ heq => by cases heq

/-- A reversal leaves its mark on the original. -/
theorem exec_reverse_read (h : s.WF) {txID : TransactionID} {t : Transaction Amount}
    (ht : s.transactions.lookup txID = some t) (hposted : t.status ≠ .reversed) (now : Time)
    (description : String) :
    (exec (now, .reverseTransaction txID description) s).read (.transaction txID)
      = some (.transaction { t with status := .reversed }) := by
  have hdone : exec (now, .reverseTransaction txID description) s
      = s.recordReversal now txID t description :=
    Call.final_of_ok (Call.discard_of_ok
      (reverseTransaction_of_posted ht hposted now description))
  rw [hdone, read, h.lookup_recordReversal_old now description ht ht, if_pos rfl]
  rfl

/-- The log grows. -/
theorem exec_auditLog (step : Time × Op Amount) (s : Book Amount) :
    s.auditLog <+: (exec step s).auditLog := by
  rcases call_cases step.1 step.2 s with ⟨-, e, he⟩ | ⟨s', event, hok, -, hlog⟩
  · rw [exec, Call.final_of_error he]
  · rw [exec, Call.final_of_ok hok, hlog]
    exact List.prefix_append _ _

end Book

/-! ## Maps that callers keep -/

/-- A map of metadata that a caller keeps. -/
structure MapRef where
  val : Nat
deriving DecidableEq

/-- A book and the maps of metadata that its callers keep. `PostTransaction` stores the map
that it is given, not a copy of it: `held` says which map a transaction holds. -/
structure SharedBook (Amount : Type) where
  book : Book Amount
  maps : MapRef → GoMap String String
  held : GoMap TransactionID MapRef

namespace SharedBook

/-- What callers do: they call the book, pass `PostTransaction` a map that they keep, and
write to such a map. -/
inductive Act (Amount : Type) where
  | call (op : Book.Op Amount)
  | post (req : PostTransactionRequest Amount) (ref : MapRef)
  | write (ref : MapRef) (contents : GoMap String String)

section Reading

variable {Amount : Type}

/-- A new book, of whose metadata no caller keeps a map. -/
def start : SharedBook Amount := ⟨newBook Amount, fun _ => ∅, ∅⟩

/-- A transaction has the metadata that is now in the map it holds. -/
def current (s : SharedBook Amount) : Payload → Record Amount → Record Amount
  | .transaction k, .transaction tx =>
    .transaction { tx with metadata := (s.held.lookup k).elim tx.metadata s.maps }
  | _, record => record

/-- What a payload leads to in the present state of the book and of the maps. -/
def read (s : SharedBook Amount) (p : Payload) : Option (Record Amount) :=
  (s.book.read p).map (s.current p)

/-- An event with its payload read. -/
def readEvent (s : SharedBook Amount) (e : AuditEvent) : AuditRecord Amount :=
  ⟨e.id, e.timestamp, e.type, e.entityID, s.read e.payload⟩

/-- `GetAuditLog`: all events, in the order they were logged. -/
def getAuditLog (s : SharedBook Amount) : List (AuditRecord Amount) :=
  s.book.auditLog.map s.readEvent

theorem readEvent_eq_iff {s s' : SharedBook Amount} {e : AuditEvent} :
    s'.readEvent e = s.readEvent e ↔ s'.read e.payload = s.read e.payload := by
  simp only [readEvent, AuditRecord.mk.injEq, true_and]

theorem read_transaction {s : SharedBook Amount} {k : TransactionID} {t : Transaction Amount}
    (ht : s.book.transactions.lookup k = some t) :
    s.read (.transaction k) = some (.transaction
      { t with metadata := (s.held.lookup k).elim t.metadata s.maps }) := by
  rw [read, Book.read, ht]
  rfl

/-- If no map is kept, the log reads as that of the book. -/
theorem getAuditLog_of_unheld {s : SharedBook Amount} (h : s.held = ∅) :
    s.getAuditLog = s.book.getAuditLog := by
  have hcurrent : ∀ p (record : Record Amount), s.current p record = record := by
    intro p record
    cases p <;> cases record <;> simp [current, h]
  have hread : s.read = s.book.read := by
    funext p
    rw [read, show s.current p = id from funext (hcurrent p), Option.map_id]
    rfl
  rw [getAuditLog, Book.getAuditLog, show s.readEvent = s.book.readEvent from by
    funext e
    rw [readEvent, Book.readEvent, hread]]

end Reading

variable {Amount : Type} [AddCommGroup Amount] [LinearOrder Amount]

/-- One step of a run. -/
def exec (step : Time × Act Amount) (s : SharedBook Amount) : SharedBook Amount :=
  match step.2 with
  | .call op => { s with book := Book.exec (step.1, op) s.book }
  | .post req ref =>
    match Book.postTransaction step.1 { req with metadata := s.maps ref } s.book with
    | .ok tx book => { s with book := book, held := s.held.insert tx.id ref }
    | .error _ book => { s with book := book }
  | .write ref contents => { s with maps := Function.update s.maps ref contents }

def reached (steps : List (Time × Act Amount)) : SharedBook Amount := run exec start steps

variable {s : SharedBook Amount}

theorem exec_write (now : Time) (ref : MapRef) (contents : GoMap String String)
    (s : SharedBook Amount) :
    exec (now, .write ref contents) s = { s with maps := Function.update s.maps ref contents } :=
  rfl

/-- A posting with a map that is kept: the new transaction holds it. -/
theorem exec_post (now : Time) (req : PostTransactionRequest Amount) (ref : MapRef)
    (s : SharedBook Amount) :
    exec (now, .post req ref) s = s ∨
      let given := { req with metadata := s.maps ref }
      let tx := s.book.newTransaction now given
      s.book.Accepts given ∧ exec (now, .post req ref) s =
        { s with
          book := Book.exec (now, .postTransaction given) s.book
          held := s.held.insert tx.id ref } := by
  by_cases hacc : s.book.Accepts { req with metadata := s.maps ref }
  · have hok := Book.postTransaction_of_accepts hacc now
    have hbook : Book.exec (now, .postTransaction { req with metadata := s.maps ref }) s.book = _ :=
      Call.final_of_ok (Call.discard_of_ok hok)
    refine .inr ⟨hacc, ?_⟩
    rw [hbook, exec]
    simp only [hok]
  · obtain ⟨e, he, -⟩ := Book.postTransaction_of_not_accepts hacc now
    left
    rw [exec]
    simp only [he]

/-- The transactions that hold a map are stored, and no reversals. -/
structure Ready (s : SharedBook Amount) : Prop where
  wf : s.book.WF
  logged : s.book.Logged
  held : ∀ k ref, s.held.lookup k = some ref →
    ∃ t, s.book.transactions.lookup k = some t ∧ t.reversalOf = none

theorem ready_start : (start : SharedBook Amount).Ready where
  wf := Book.wf_newBook
  logged := Book.logged_newBook
  held := Finmap.forall_lookup_empty

/-- A call on the book removes no transaction, and makes none a reversal. -/
theorem Ready.call (h : s.Ready) (step : Time × Book.Op Amount) :
    ({ s with book := Book.exec step s.book } : SharedBook Amount).Ready where
  wf := Book.exec_wf step s.book h.wf
  logged := Book.exec_logged step s.book h.wf h.logged
  held k ref hk := by
    obtain ⟨t, ht, hno⟩ := h.held k ref hk
    have hsome : (s.book.read (.transaction k)).isSome := by rw [Book.read, ht]; rfl
    have hread := (Book.exec_change step.1 step.2 s.book).asPosted_read h.wf hsome
    rw [Book.read, Book.read, ht] at hread
    obtain ⟨t', ht', hsame⟩ := Option.map_eq_some_iff.mp hread
    obtain ⟨t'', ht'', rfl⟩ := Option.map_eq_some_iff.mp ht'
    refine ⟨t'', ht'', ?_⟩
    have hkept := congrArg Transaction.reversalOf (Record.transaction.inj hsame)
    exact hkept.trans hno

theorem exec_ready (step : Time × Act Amount) (s : SharedBook Amount) (h : s.Ready) :
    (exec step s).Ready := by
  obtain ⟨now, act⟩ := step
  cases act with
  | call op => exact h.call (now, op)
  | write ref contents => exact ⟨h.wf, h.logged, h.held⟩
  | post req ref =>
    rcases exec_post now req ref s with heq | ⟨hacc, heq⟩
    · rw [heq]
      exact h
    · let posting : Book.Op Amount := .postTransaction { req with metadata := s.maps ref }
      have hcall := h.call (now, posting)
      have hbook : Book.exec (now, posting) s.book = _ :=
        Call.final_of_ok (Call.discard_of_ok (Book.postTransaction_of_accepts hacc now))
      rw [heq]
      refine ⟨hcall.wf, hcall.logged, Finmap.forall_lookup_insert hcall.held ?_⟩
      refine ⟨s.book.newTransaction now { req with metadata := s.maps ref }, ?_, rfl⟩
      show (Book.exec _ s.book).transactions.lookup _ = _
      rw [hbook]
      exact h.wf.lookup_record.mpr (.inl ⟨rfl, rfl⟩)

/-- The step reverses a logged transaction, or changes what is in a map that one holds. -/
def Rewrites (s : SharedBook Amount) (step : Time × Act Amount) : Prop :=
  match step.2 with
  | .call op => s.book.Rewrites (step.1, op)
  | .post _ _ => False
  | .write ref contents => contents ≠ s.maps ref ∧ ∃ k, s.held.lookup k = some ref

/-- Such a step makes an old event read differently. -/
theorem Ready.not_fixes (h : s.Ready) {step : Time × Act Amount} (hw : s.Rewrites step) :
    ¬Log.Fixes exec (fun s => s.book.auditLog) readEvent s step := by
  intro hfix
  have hread : ∀ k t, s.book.transactions.lookup k = some t → t.reversalOf = none →
      (exec step s).read (.transaction k) = s.read (.transaction k) := by
    intro k t ht hno
    obtain ⟨e, he, hpayload⟩ := (h.logged.referred k t ht).mp hno
    rw [← hpayload]
    exact readEvent_eq_iff.mp (hfix e he)
  obtain ⟨now, act⟩ := step
  cases act with
  | post req ref => exact hw
  | call op =>
    cases op with
    | reverseTransaction txID description =>
      obtain ⟨t, ht, hposted, hno⟩ := hw
      have hsame := hread txID t ht hno
      rw [read_transaction ht, read, exec, Book.exec_reverse_read h.wf ht hposted] at hsame
      have hstatus := congrArg Transaction.status
        (Record.transaction.inj (Option.some.inj hsame))
      exact hposted hstatus.symm
    | _ => exact hw
  | write ref contents =>
    obtain ⟨hne, k, hk⟩ := hw
    obtain ⟨t, ht, hno⟩ := h.held k ref hk
    have hsame := hread k t ht hno
    rw [exec_write, read_transaction ht, read_transaction (by exact ht), hk, Option.elim_some,
      Option.elim_some] at hsame
    have hmetadata : Function.update s.maps ref contents ref = s.maps ref :=
      congrArg Transaction.metadata (Record.transaction.inj (Option.some.inj hsame))
    rw [Function.update_self] at hmetadata
    exact hne hmetadata

/-- Any other step leaves what the log refers to as it is. -/
theorem Ready.fixes (h : s.Ready) {step : Time × Act Amount} (hw : ¬s.Rewrites step) :
    Log.Fixes exec (fun s => s.book.auditLog) readEvent s step := by
  intro e he
  refine readEvent_eq_iff.mpr ?_
  obtain ⟨now, act⟩ := step
  cases act with
  | call op =>
    have hread := Book.exec_read_eq h.wf h.logged (show ¬s.book.Rewrites (now, op) from hw) he
    exact congrArg (Option.map (s.current e.payload)) hread
  | post req ref =>
    rcases exec_post now req ref s with heq | ⟨hacc, heq⟩
    · rw [heq]
    · -- the new transaction is not yet referred to
      have hno : ¬s.book.Rewrites
          (now, .postTransaction { req with metadata := s.maps ref }) := not_false
      have hread := Book.exec_read_eq h.wf h.logged hno he
      have hfresh := h.wf.fresh_newTransaction now { req with metadata := s.maps ref }
      rw [heq, read, read, hread]
      refine Option.map_congr fun record _ => ?_
      cases hp : e.payload with
      | transaction k =>
        have hne : k ≠ (s.book.newTransaction now { req with metadata := s.maps ref }).id := by
          rintro rfl
          exact h.logged.not_referred hfresh ⟨e, he, hp⟩
        cases record with
        | transaction tx => simp [current, Finmap.lookup_insert_of_ne _ hne]
        | _ => rfl
      | _ => rfl
  | write ref contents =>
    show (s.book.read e.payload).map _ = (s.book.read e.payload).map _
    refine Option.map_congr fun record _ => ?_
    by_cases hsame : contents = s.maps ref
    · rw [exec_write, hsame, Function.update_eq_self]
    · cases hp : e.payload with
      | transaction k =>
        have hne : s.held.lookup k ≠ some ref := fun hk => hw ⟨hsame, k, hk⟩
        cases record with
        | transaction tx =>
          cases hk : s.held.lookup k with
          | none => simp [current, exec_write, hk]
          | some other =>
            have hother : other ≠ ref := by
              rintro rfl
              exact hne hk
            simp [current, exec_write, hk, hother]
        | _ => rfl
      | _ => rfl

theorem exec_auditLog (step : Time × Act Amount) (s : SharedBook Amount) :
    s.book.auditLog <+: (exec step s).book.auditLog := by
  obtain ⟨now, act⟩ := step
  cases act with
  | call op => exact Book.exec_auditLog (now, op) s.book
  | write ref contents => exact List.prefix_rfl
  | post req ref =>
    rcases exec_post now req ref s with heq | ⟨-, heq⟩
    · rw [heq]
    · rw [heq]
      exact Book.exec_auditLog _ s.book

/-- The log grows, and nothing in it reads differently later on, exactly if no logged
transaction is reversed and no map that one holds is written to. -/
theorem auditLog_grows_iff (steps : List (Time × Act Amount)) :
    (∀ pre mid, pre ++ mid <+: steps →
        (reached pre).getAuditLog <+: (reached (pre ++ mid)).getAuditLog) ↔
      Along exec (fun s step => ¬s.Rewrites step) (start : SharedBook Amount) steps := by
  have hfixes : ∀ step (s : SharedBook Amount), s.Ready →
      (Log.Fixes exec (fun s => s.book.auditLog) readEvent s step ↔ ¬s.Rewrites step) :=
    fun step s hs => ⟨fun hfix hw => hs.not_fixes hw hfix, hs.fixes⟩
  exact (Log.view_grows_iff exec_auditLog start steps).trans
    (Along.congr exec_ready hfixes ready_start steps)

end SharedBook

end CoreBanking.Ledger
