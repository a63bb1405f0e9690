import CoreBanking.Deposit.Holds
import CoreBanking.Ledger.AuditLog

/-!
# The audit log of a register

As in the ledger, events about accounts and holds refer to the stored records, and
these are written to by every change of status, release and capture. So the log of a
register keeps reading the same exactly until the first of these
(`auditLog_grows_iff`).

`audit_logs_fixed_iff` puts the logs of both layers together, and
`audit_logs_rewritten` has a run for either in which an old event changes.
-/

namespace CoreBanking.Deposit

open Ledger (Book SharedBook newBook)

/-- The record that a payload leads to. -/
inductive Record (Amount : Type) where
  | account (acct : Account Amount)
  | hold (h : Hold Amount)
  | capture (holdID : HoldID) (transactionID : Ledger.TransactionID)
  | snapshot (snap : Snapshot Amount)

/-- An audit event as its reader sees it. -/
structure AuditRecord (Amount : Type) where
  id : String
  timestamp : Time
  type : AuditEventType
  entityID : String
  payload : Option (Record Amount)

namespace Register

section Reading

variable {Amount : Type}

/-- What a payload leads to in the present state of the register. -/
def read (r : Register Amount) : Payload Amount → Option (Record Amount)
  | .account ref => (r.accounts.lookup ref).map .account
  | .hold ref => (r.holds.lookup ref).map .hold
  | .capture holdID transactionID => some (.capture holdID transactionID)
  | .snapshot snap => some (.snapshot snap)

/-- An event with its payload read. -/
def readEvent (r : Register Amount) (e : AuditEvent Amount) : AuditRecord Amount :=
  ⟨e.id, e.timestamp, e.type, e.entityID, r.read e.payload⟩

/-- `GetAuditLog`: all events, in the order they were logged. -/
def getAuditLog (r : Register Amount) : List (AuditRecord Amount) :=
  r.auditLog.map r.readEvent

/-- An event reads as before if its reference leads to what it led to before. -/
theorem readEvent_eq_iff {r r' : Register Amount} {e : AuditEvent Amount} :
    r'.readEvent e = r.readEvent e ↔ r'.read e.payload = r.read e.payload := by
  simp only [readEvent, AuditRecord.mk.injEq, true_and]

/-- Every reference leads to a record, and every account and every hold is referred to. -/
structure Logged (r : Register Amount) : Prop where
  resolved : ∀ e ∈ r.auditLog, (r.read e.payload).isSome
  account : ∀ id ∈ r.accounts, ∃ e ∈ r.auditLog, e.payload = .account id
  hold : ∀ k ∈ r.holds, ∃ e ∈ r.auditLog, e.payload = .hold k

theorem logged_newRegister (b : Book Amount) : (newRegister b).Logged where
  resolved _ he := absurd he List.not_mem_nil
  account _ h := absurd h Finmap.notMem_empty
  hold _ h := absurd h Finmap.notMem_empty

variable {r r' : Register Amount}

/-- Records are not removed, and new ones are logged. -/
theorem Logged.append (hl : r.Logged) {event : AuditEvent Amount}
    (hlog : r'.auditLog = r.auditLog ++ [event])
    (haccts : ∀ id, id ∈ r'.accounts ↔ id ∈ r.accounts ∨ event.payload = .account id)
    (hholds : ∀ k, k ∈ r'.holds ↔ k ∈ r.holds ∨ event.payload = .hold k) : r'.Logged where
  resolved e he := by
    have hmem : ∀ p : Payload Amount, (r.read p).isSome ∨ event.payload = p →
        (r'.read p).isSome := by
      intro p hp
      cases p with
      | account id =>
        rw [read, Option.isSome_map, Finmap.lookup_isSome] at hp ⊢
        exact (haccts id).mpr hp
      | hold k =>
        rw [read, Option.isSome_map, Finmap.lookup_isSome] at hp ⊢
        exact (hholds k).mpr hp
      | capture => rfl
      | snapshot => rfl
    rw [hlog, List.mem_append, List.mem_singleton] at he
    rcases he with he | rfl
    · exact hmem _ (.inl (hl.resolved e he))
    · exact hmem _ (.inr rfl)
  account id hid := by
    rw [hlog]
    simp only [List.mem_append, List.mem_singleton, or_and_right, exists_or, exists_eq_left]
    exact ((haccts id).mp hid).imp_left (hl.account id)
  hold k hk := by
    rw [hlog]
    simp only [List.mem_append, List.mem_singleton, or_and_right, exists_or, exists_eq_left]
    exact ((hholds k).mp hk).imp_left (hl.hold k)

end Reading

/-! ## What a call leaves in the log -/

section Steps

variable {Amount : Type} [AddCommGroup Amount] [LinearOrder Amount]
  {r r' : Register Amount} {now : Time} {op : Op Amount}

/-- A successful call logs one event. -/
theorem Transition.auditLog (ht : Transition now r op r') :
    ∃ event, r'.auditLog = r.auditLog ++ [event] := by
  cases ht with
  | opened => exact ⟨_, rfl⟩
  | status => exact ⟨_, rfl⟩
  | held => exact ⟨_, rfl⟩
  | released => exact ⟨_, rfl⟩
  | captured => exact ⟨_, rfl⟩
  | snapshot => exact ⟨_, rfl⟩

theorem Transition.logged (ht : Transition now r op r') (h : r.WF) (hi : r.Indexed)
    (hl : r.Logged) : r'.Logged := by
  cases ht with
  | opened subledger name limit =>
    refine hl.append rfl (fun id => ?_) fun k => (or_iff_left (by simp)).symm
    rw [Payload.account.injEq, or_comm, eq_comm]
    exact Finmap.mem_insert
  | status id target eventType acct hmoves hacct =>
    refine hl.append rfl (fun id' => ?_) fun k => (or_iff_left (by simp)).symm
    rw [Payload.account.injEq, or_comm, eq_comm, h.account_id id acct hacct]
    exact Finmap.mem_insert
  | held req acct available hacct =>
    refine hl.append rfl (fun id => (or_iff_left (by simp)).symm) fun k => ?_
    rw [Payload.hold.injEq, or_comm, eq_comm]
    exact Finmap.mem_insert
  | released k hd hk =>
    refine hl.append rfl (fun id => (or_iff_left (by simp)).symm) fun k' => ?_
    rw [Payload.hold.injEq, or_comm, eq_comm, hi.hold_id k hd hk]
    exact Finmap.mem_insert
  | captured k counterparty captureAmount description hd acct hk =>
    refine hl.append rfl (fun id => (or_iff_left (by simp)).symm) fun k' => ?_
    refine Finmap.mem_insert.trans ((or_iff_right_of_imp ?_).trans (or_iff_left (by simp)).symm)
    -- the hold was logged when it was placed
    rintro rfl
    exact Finmap.mem_of_lookup_eq_some hk
  | snapshot =>
    exact hl.append rfl (fun _ => (or_iff_left (by simp)).symm)
      fun _ => (or_iff_left (by simp)).symm

/-! ## What rewrites the log -/

/-- The call goes through and writes to a stored account or hold, all of which are logged:
it changes a status, or it releases or captures a hold. -/
inductive Writes (r : Register Amount) : Op Amount → Prop
  | status {op : Op Amount} (id : AccountID) (target : AccountStatus)
      (eventType : AuditEventType) (acct : Account Amount)
      (hmoves : op.Moves id acct.status target eventType)
      (hacct : r.accounts.lookup id = some acct)
      (hempty : target = .closed → r.bookBalance acct = .ok 0) : Writes r op
  | released (k : HoldID) (h : Hold Amount) (hk : r.holds.lookup k = some h)
      (hactive : h.status = .active) : Writes r (.releaseHold k)
  | captured {op : Op Amount} (h : Hold Amount) (acct : Account Amount)
      (counterparty : Ledger.AccountID) (amount : Amount)
      (hcap : r.Captures op h acct counterparty amount) : Writes r op

/-- A change of status that is allowed goes through. -/
theorem Op.Moves.exec {id : AccountID} {target : AccountStatus}
    {eventType : AuditEventType} {acct : Account Amount}
    (hmoves : op.Moves id acct.status target eventType)
    (hacct : r.accounts.lookup id = some acct)
    (hempty : target = .closed → r.bookBalance acct = .ok 0) (now : Time) :
    Register.exec (now, .register op) r = r.withStatus now id acct target eventType := by
  have hchange : ∀ (source : AccountStatus), acct.status = source →
      changeStatus source target eventType now id r
        = .ok () (r.withStatus now id acct target eventType) := by
    intro source hsource
    rw [changeStatus_eq, hacct]
    exact if_pos hsource
  -- closing is the one change that also looks at the balance
  generalize hsource : acct.status = source at hmoves
  cases hmoves with
  | freeze => exact Call.final_of_ok (hchange .active hsource)
  | unfreeze => exact Call.final_of_ok (hchange .frozen hsource)
  | markDormant => exact Call.final_of_ok (hchange .active hsource)
  | reactivate => exact Call.final_of_ok (hchange .dormant hsource)
  | close _ _ hopen =>
    exact Call.final_of_ok (close_of_empty hacct (hsource ▸ hopen) (hempty rfl) now)

/-- A call that writes to a record makes an old event read differently. -/
theorem Writes.not_fixes (hw : r.Writes op) (hl : r.Logged) (now : Time) :
    ¬Log.Fixes exec Register.auditLog readEvent r (now, .register op) := by
  intro hfix
  have hread : ∀ {p}, (∃ e ∈ r.auditLog, e.payload = p) →
      (exec (now, .register op) r).read p = r.read p := by
    rintro p ⟨e, he, rfl⟩
    exact readEvent_eq_iff.mp (hfix e he)
  -- every hold is logged, and an active one reads as such
  have hholds : ∀ {k hd}, r.holds.lookup k = some hd → hd.status = .active →
      ∀ status, status ≠ .active →
        (exec (now, .register op) r).holds = (r.withHold k hd status).holds → False := by
    intro k hd hk hactive status hstatus hafter
    have hsame := hread (hl.hold k (Finmap.mem_of_lookup_eq_some hk))
    rw [read, read, hafter, withHold, Finmap.lookup_insert, hk] at hsame
    have hsame := congrArg Hold.status (Record.hold.inj (Option.some.inj hsame))
    exact hstatus (hsame.trans hactive)
  cases hw with
  | status id target eventType acct hmoves hacct hempty =>
    have hsame := hread (hl.account id (Finmap.mem_of_lookup_eq_some hacct))
    rw [hmoves.exec hacct hempty now, read, read, withStatus, log, Finmap.lookup_insert,
      hacct] at hsame
    have hsame := congrArg Account.status (Record.account.inj (Option.some.inj hsame))
    exact hmoves.target_ne hsame
  | released k hd hk hactive =>
    have hdone : exec (now, .register (.releaseHold k)) r
        = (r.withHold k hd .released).log now .holdReleased hd.id.val (.hold hd.id) :=
      Call.final_of_ok (releaseHold_of_active hk hactive now)
    exact hholds hk hactive .released (by decide) (by rw [hdone]; rfl)
  | captured hd acct counterparty amount hcap =>
    cases hcap with
    | intro k counterparty captureAmount description hd acct hk hactive hacct hacc =>
      refine hholds hk hactive .captured (by decide) ?_
      rw [exec_captureHold hk hactive hacct hacc now]
      rfl

/-- Any other call leaves the stored accounts and holds as they are. -/
theorem Transition.fixes (ht : Transition now r op r') (h : r.WF) (hw : ¬r.Writes op)
    {p : Payload Amount} (hp : (r.read p).isSome) : r'.read p = r.read p := by
  cases ht with
  | opened subledger name limit =>
    cases p with
    | account id =>
      exact Finmap.map_lookup_insert_fresh (h.fresh_account now subledger name limit) hp
    | hold => rfl
    | capture => rfl
    | snapshot => rfl
  | held req =>
    cases p with
    | hold k => exact Finmap.map_lookup_insert_fresh (h.fresh_hold now req) hp
    | account => rfl
    | capture => rfl
    | snapshot => rfl
  | snapshot => cases p <;> rfl
  | status id target eventType acct hmoves hacct hempty =>
    exact absurd (.status id target eventType acct hmoves hacct hempty) hw
  | released k hd hk hactive => exact absurd (.released k hd hk hactive) hw
  | captured k counterparty captureAmount description hd acct hk hactive hacct hacc =>
    exact absurd (.captured hd acct counterparty _ (.intro k counterparty captureAmount
      description hd acct hk hactive hacct hacc)) hw

/-- The step is a call on the register that writes to a logged record. -/
def Rewrites (r : Register Amount) (step : Time × Step Amount) : Prop :=
  match step.2 with
  | .register op => r.Writes op
  | .ledger _ => False

theorem fixes_iff (h : r.WF) (hl : r.Logged) (step : Time × Step Amount) :
    Log.Fixes exec Register.auditLog readEvent r step ↔ ¬r.Rewrites step := by
  obtain ⟨now, step⟩ := step
  cases step with
  | register op =>
    refine ⟨fun hfix hw => hw.not_fixes hl now hfix, fun hw e he => ?_⟩
    rcases exec_register now op r with heq | ht
    · rw [heq]
    · exact readEvent_eq_iff.mpr (ht.fixes h hw (hl.resolved e he))
  | ledger op =>
    exact iff_of_true (fun e _ => readEvent_eq_iff.mpr (by cases e.payload <;> rfl)) not_false

/-- The log grows. -/
theorem exec_auditLog (step : Time × Step Amount) (r : Register Amount) :
    r.auditLog <+: (exec step r).auditLog := by
  obtain ⟨now, step⟩ := step
  cases step with
  | register op =>
    rcases exec_register now op r with heq | ht
    · rw [heq]
    · obtain ⟨event, hlog⟩ := ht.auditLog
      rw [hlog]
      exact List.prefix_append _ _
  | ledger op => exact List.prefix_rfl

theorem exec_logged (step : Time × Step Amount) (r : Register Amount)
    (h : r.WF ∧ r.Indexed) (hl : r.Logged) : (exec step r).Logged := by
  obtain ⟨now, step⟩ := step
  cases step with
  | register op =>
    rcases exec_register now op r with heq | ht
    · rw [heq]
      exact hl
    · exact ht.logged h.1 h.2 hl
  | ledger op =>
    -- the ledger holds neither accounts nor holds
    have hread : ∀ p, (exec (now, .ledger op) r).read p = r.read p := fun p => by
      cases p <;> rfl
    exact ⟨fun e he => (hread e.payload).symm ▸ hl.resolved e he, hl.account, hl.hold⟩

/-- The log of a register grows, and nothing in it reads differently later on, exactly if
no status changes and no hold is released or captured. -/
theorem auditLog_grows_iff (steps : List (Time × Step Amount)) :
    (∀ pre mid, pre ++ mid <+: steps →
        (reached pre).getAuditLog <+: (reached (pre ++ mid)).getAuditLog) ↔
      Along exec (fun r step => ¬r.Rewrites step) (newRegister (newBook Amount)) steps := by
  let inv (r : Register Amount) : Prop := (r.WF ∧ r.Indexed) ∧ r.Logged
  have hstep : ∀ step r, inv r → inv (exec step r) :=
    fun step r hr => ⟨exec_ready step r hr.1, exec_logged step r hr.1 hr.2⟩
  have hinit : inv (newRegister (newBook Amount)) :=
    ⟨⟨wf_newRegister Book.wf_newBook, indexed_newRegister _⟩, logged_newRegister _⟩
  have hfixes : ∀ step r, inv r →
      (Log.Fixes exec Register.auditLog readEvent r step ↔ ¬r.Rewrites step) :=
    fun step r hr => fixes_iff hr.1.1 hr.2 step
  exact (Log.view_grows_iff exec_auditLog (newRegister (newBook Amount)) steps).trans
    (Along.congr hstep hfixes hinit steps)

end Steps

end Register

/-! ## Both logs -/

/-- **Audit logs** only grow, with everything in them reading the same ever after, exactly
if no logged transaction is reversed, no caller writes to a map of metadata that one holds,
and no deposit account or hold changes its status. -/
theorem audit_logs_fixed_iff {Amount : Type} [AddCommGroup Amount] [LinearOrder Amount] :
    (∀ steps : List (Time × SharedBook.Act Amount),
      (∀ pre mid, pre ++ mid <+: steps →
        (SharedBook.reached pre).getAuditLog <+: (SharedBook.reached (pre ++ mid)).getAuditLog) ↔
      Along SharedBook.exec (fun s step => ¬s.Rewrites step) SharedBook.start steps) ∧
    ∀ steps : List (Time × Register.Step Amount),
      (∀ pre mid, pre ++ mid <+: steps →
        (Register.reached pre).getAuditLog <+: (Register.reached (pre ++ mid)).getAuditLog) ↔
      Along Register.exec (fun r step => ¬r.Rewrites step) (newRegister (newBook Amount))
        steps :=
  ⟨SharedBook.auditLog_grows_iff, Register.auditLog_grows_iff⟩

/-- The status of the account that an event leads to. -/
def AuditRecord.accountStatus {Amount : Type} (e : AuditRecord Amount) : Option AccountStatus :=
  match e.payload with
  | some (.account acct) => some acct.status
  | _ => none

/-- The status of the transaction that an event of the ledger leads to, and the invoice that
its metadata names. -/
def transactionNotes {Amount : Type} (e : Ledger.AuditRecord Amount) :
    Option (Ledger.TransactionStatus × Option String) :=
  match e.payload with
  | some (.transaction tx) => some (tx.status, tx.metadata.lookup "invoice")
  | _ => none

/-- A transaction of 100, with metadata in a map that the caller keeps. -/
def paidIn : List (Time × SharedBook.Act ℤ) :=
  [.call (.createLedger "General Ledger"),
    .call (.createSubledger ⟨"ldg_1"⟩ "Main"),
    .call (.createAccount ⟨"sub_3"⟩ "Cash" .asset),
    .call (.createAccount ⟨"sub_3"⟩ "Alice" .liability),
    .write ⟨0⟩ (Finmap.singleton "invoice" "1"),
    .post { entries := Ledger.transfer ⟨"acct_5"⟩ ⟨"acct_7"⟩ 100 } ⟨0⟩].map
      fun act => (⟨1, 0⟩, act)

/-- A reversal rewrites the event of the posting, as does the caller who uses the map again,
and a freeze rewrites the event of the opening. -/
theorem audit_logs_rewritten :
    (¬∀ (pre : List (Time × SharedBook.Act ℤ)) (mid : List (Time × Book.Op ℤ)),
      (SharedBook.reached pre).getAuditLog <+:
        (SharedBook.reached (pre ++ mid.map fun step => (step.1, .call step.2))).getAuditLog) ∧
    (¬∀ (pre : List (Time × SharedBook.Act ℤ)) (now : Time) (ref : Ledger.MapRef)
        (contents : GoMap String String),
      (SharedBook.reached pre).getAuditLog <+:
        (SharedBook.reached (pre ++ [(now, .write ref contents)])).getAuditLog) ∧
    ¬∀ pre mid : List (Time × Register.Step ℤ),
      (Register.reached pre).getAuditLog <+: (Register.reached (pre ++ mid)).getAuditLog := by
  refine ⟨fun h => ?_, fun h => ?_, fun h => ?_⟩
  · have hnotes := (h paidIn [(⟨1, 0⟩, .reverseTransaction ⟨"tx_11"⟩ "undo")]).map
      transactionNotes
    revert hnotes
    decide +kernel
  · have hnotes := (h paidIn ⟨1, 0⟩ ⟨0⟩ (Finmap.singleton "invoice" "2")).map transactionNotes
    revert hnotes
    decide +kernel
  · have hstatus := (h (Register.aliceRun 0 []) [(⟨1, 0⟩, .register (.freeze ⟨"dep_1"⟩))]).map
      AuditRecord.accountStatus
    revert hstatus
    decide +kernel

end CoreBanking.Deposit
