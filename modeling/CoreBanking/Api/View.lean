import CoreBanking.Api.Handlers
import CoreBanking.Payment.References

/-!
# What requests see

A GET is a look at the network: `view` says what it sees, as a function of the network.

- `alone_of_view`: run alone, the handler answers with that and changes nothing.
-/

namespace CoreBanking.Api

open Concurrent
open Ledger (Book)
open Deposit (Register)
open Payment (Network Participant ParticipantID)

variable {Amount α β : Type}

/-! ## Looks -/

/-- The response to what has been found, or the refusal. -/
def see (x : Except Payment.Err α) (g : α → Response Amount) :
    Except Refusal (Response Amount) :=
  (x.map g).mapError .error

/-- A look at the ledger of a bank. -/
def atLedger (s : Network Amount) (pid : String) (f : Book Amount → Except Ledger.Err α) :
    Except Payment.Err α := do
  let p ← s.getParticipant ⟨pid⟩
  (f p.ledger).mapError .ledger

/-- A look at the register of a bank. -/
def atDeposit (s : Network Amount) (pid : String) (f : Register Amount → Except Deposit.Err α) :
    Except Payment.Err α := do
  let p ← s.getParticipant ⟨pid⟩
  (f p.deposit).mapError .deposit

/-- What `handleGetSnapshots` sees: one snapshot, or all of the account. -/
def viewSnapshots (c : Choices Amount) (s : Network Amount) (pid did date : String) :
    Except Refusal (Response Amount) :=
  if date ≠ "" then do
    let _ ← (s.getParticipant ⟨pid⟩).mapError .error
    let day ← (parseDay date).mapError .badRequest
    see (atDeposit s pid fun r => r.getSnapshot ⟨did⟩ day) fun snap =>
      ok (.snapshot (toSnapshotDTO snap))
  else
    see (atDeposit s pid fun r => .ok
      (r.listSnapshots c.snapshots.order c.snapshots.sorter ⟨did⟩)) fun snaps =>
      listOK (snaps.map fun snap => .snapshot (toSnapshotDTO snap))

/-- What a GET sees. -/
def view [AddCommGroup Amount] (c : Choices Amount) (now : Time) (s : Network Amount) :
    Request Amount → Option (Except Refusal (Response Amount))
  | .listParticipants => some (see
    (.ok (s.listParticipants c.participants.order c.participants.sorter)) fun parts =>
      listOK (parts.map fun p => .participant (toParticipantDTO p)))
  | .getParticipant pid => some (see (s.getParticipant ⟨pid⟩) fun p =>
    ok (.participant (toParticipantDTO p)))
  | .listSchemes => some (see (.ok (s.listSchemes c.schemes.order c.schemes.sorter))
    fun schemes => listOK (schemes.map fun sc => .scheme (toSchemeDTO sc)))
  | .listReserves => some (see
    ((s.listParticipants c.participants.order c.participants.sorter).mapM fun p =>
      (s.reserveBalance p.id).map fun bal => .reserve ⟨p.id.val, bal⟩) listOK)
  | .getReserve pid => some (see (s.reserveBalance ⟨pid⟩) fun bal => ok (.reserve ⟨pid, bal⟩))
  | .centralBankAudit => some (see (.ok s.centralBank.getAuditLog) fun events =>
    listOK (events.map fun e => .auditEvent (toLedgerAuditDTO e)))
  | .listLedgers pid => some (see
    (atLedger s pid fun b => .ok (b.listLedgers c.ledgers.order c.ledgers.sorter)) fun ledgers =>
      listOK (ledgers.map fun l => .ledger (toLedgerDTO l)))
  | .getLedger pid lid => some (see (atLedger s pid fun b => b.getLedger ⟨lid⟩) fun l =>
    ok (.ledger (toLedgerDTO l)))
  | .listSubledgers pid lid => some (see
    (atLedger s pid fun b =>
      .ok (b.listSubledgers c.subledgers.order c.subledgers.sorter ⟨lid⟩)) fun subs =>
      listOK (subs.map fun sl => .subledger (toSubledgerDTO sl)))
  | .getSubledger pid sid => some (see (atLedger s pid fun b => b.getSubledger ⟨sid⟩) fun sl =>
    ok (.subledger (toSubledgerDTO sl)))
  | .listAccounts pid sid => some (see
    (atLedger s pid fun b =>
      .ok (b.listAccounts c.accounts.order c.accounts.sorter ⟨sid⟩)) fun accts =>
      listOK (accts.map fun a => .account (toAccountDTO a)))
  | .getAccount pid aid => some (see (atLedger s pid fun b => b.getAccount ⟨aid⟩) fun acct =>
    ok (.account (toAccountDTO acct)))
  | .bookBalance pid aid => some (see (atLedger s pid fun b => b.bookBalance ⟨aid⟩) fun bal =>
    ok (.bookBalance aid bal))
  | .listTransactions pid account => some (see
    (atLedger s pid fun b => .ok (
      if account ≠ "" then
        b.listTransactionsForAccount c.transactions.order c.transactions.sorter ⟨account⟩
      else b.listTransactions c.transactions.order c.transactions.sorter)) fun txs =>
      listOK (txs.map fun tx => .transaction (toTransactionDTO tx)))
  | .getTransaction pid tid => some (see (atLedger s pid fun b => b.getTransaction ⟨tid⟩)
    fun tx => ok (.transaction (toTransactionDTO tx)))
  | .ledgerAudit pid entity => some (see
    (atLedger s pid fun b =>
      .ok (if entity ≠ "" then b.getAuditLogForEntity entity else b.getAuditLog)) fun events =>
      listOK (events.map fun e => .auditEvent (toLedgerAuditDTO e)))
  | .listDepositAccounts pid => some (see
    (atDeposit s pid fun r =>
      .ok (r.listAccounts c.depositAccounts.order c.depositAccounts.sorter)) fun accts =>
      listOK (accts.map fun a => .depositAccount (toDepositAccountDTO a)))
  | .getDepositAccount pid did => some (see (atDeposit s pid fun r => r.getAccount ⟨did⟩)
    fun acct => ok (.depositAccount (toDepositAccountDTO acct)))
  | .depositBalance pid did => some (see (atDeposit s pid fun r => r.getBalance now ⟨did⟩)
    fun bal => ok (.balance (toBalanceDTO bal)))
  | .listHolds pid did => some (see
    (atDeposit s pid fun r => .ok (r.listHolds c.holds ⟨did⟩)) fun holds =>
      listOK (holds.map fun h => .hold (toHoldDTO h)))
  | .getHold pid hid => some (see (atDeposit s pid fun r => r.getHold ⟨hid⟩) fun h =>
    ok (.hold (toHoldDTO h)))
  | .getSnapshots pid did date => some (viewSnapshots c s pid did date)
  | .depositAudit pid => some (see (atDeposit s pid fun r => .ok r.getAuditLog) fun events =>
    listOK (events.map fun e => .auditEvent (toDepositAuditDTO e)))
  | .listMandates => some (see (.ok (s.listMandates c.mandates.order c.mandates.sorter))
    fun mandates => listOK (mandates.map fun m => .mandate (toMandateDTO m)))
  | .getMandate mid => some (see (s.getMandate ⟨mid⟩) fun m => ok (.mandate (toMandateDTO m)))
  | .listPayments => some (see (.ok (s.listPayments c.payments.order c.payments.sorter))
    fun payments => listOK (payments.map fun p => .payment (toPaymentDTO p)))
  | .getPayment payid => some (see (s.getPayment ⟨payid⟩) fun p =>
    ok (.payment (toPaymentDTO p)))
  | .listCycles => some (see (.ok (s.listCycles c.cycles.order c.cycles.sorter)) fun cycles =>
    listOK (cycles.map fun cy => .clearingCycle (toClearingCycleDTO cy)))
  | .getCycle cid => some (see (s.getCycle ⟨cid⟩) fun cy =>
    ok (.clearingCycle (toClearingCycleDTO cy)))
  | .listSettlements => some (see
    (.ok (s.listSettlements c.settlements.order c.settlements.sorter)) fun settlements =>
      listOK (settlements.map fun st => .settlement (toSettlementDTO st)))
  | .getSettlement sid => some (see (s.getSettlement ⟨sid⟩) fun st =>
    ok (.settlement (toSettlementDTO st)))
  | _ => none

/-! ## Handlers alone -/

section Alone

variable {s : Network Amount} (now : Time)

/-- The handler, run alone, answers with what is seen. -/
def Sees (p : Handling Amount α) (now : Time) (s : Network Amount) (x : Except Refusal α) :
    Prop :=
  p.alone now s = Call.ofExcept x s

variable {now}

theorem sees_call {p : Program Amount α} {x : Except Payment.Err α}
    (hp : p.alone now s = Call.ofExcept x s) (g : α → Response Amount) :
    Sees (call p >>= fun a => pure (g a)) now s (see x g) := by
  show (call p >>= fun a => pure (g a) : Handling Amount (Response Amount)).alone now s = _
  rw [Prog.alone_bind, call, Prog.alone_mapError]
  cases x with
  | ok a =>
    rw [Call.bind_of_ok (Prog.adaptExcept_of_ok hp _)]
    rfl
  | error e =>
    rw [Call.bind_of_error (Prog.adaptExcept_of_error hp _)]
    rfl

theorem sees_query (f : Network Amount → Except Payment.Err α) (g : α → Response Amount) :
    Sees (call (query f) >>= fun a => pure (g a)) now s (see (f s) g) := by
  refine sees_call ?_ g
  rw [alone_query]
  rfl

theorem alone_bankOf (pid : String) (now : Time) (s : Network Amount) :
    (participant pid : Handling Amount _).alone now s
      = Call.ofExcept ((s.getParticipant ⟨pid⟩).mapError .error) s := by
  have hfind : (query fun s => s.getParticipant ⟨pid⟩ : Program Amount _).alone now s
      = Call.ofExcept (s.getParticipant ⟨pid⟩) s := by
    rw [alone_query]
    rfl
  rw [participant, call, Prog.alone_mapError]
  cases hp : s.getParticipant ⟨pid⟩ with
  | ok p =>
    rw [hp] at hfind
    exact Prog.adaptExcept_of_ok hfind _
  | error e =>
    rw [hp] at hfind
    exact Prog.adaptExcept_of_error hfind _

/-- The bank in the path is looked up first. -/
theorem sees_participant {pid : String} {f : Participant Amount → Handling Amount α}
    {x : Participant Amount → Except Refusal α}
    (hf : ∀ p, s.participants.lookup ⟨pid⟩ = some p → Sees (f p) now s (x p)) :
    Sees (participant pid >>= f) now s
      ((s.getParticipant ⟨pid⟩).mapError .error >>= x) := by
  show (participant pid >>= f).alone now s = _
  have hbank := alone_bankOf pid now s
  rw [Prog.alone_bind]
  cases hp : s.getParticipant ⟨pid⟩ with
  | ok p =>
    rw [hp] at hbank
    rw [Call.bind_of_ok hbank]
    exact hf p (Finmap.find_eq_ok.mp hp)
  | error e =>
    rw [hp] at hbank
    rw [Call.bind_of_error hbank]
    rfl

theorem onLedger_reading {i : ParticipantID} {p : Participant Amount}
    (hp : s.participants.lookup i = some p) (f : Book Amount → Except Ledger.Err α) :
    Network.onLedger i (.reading f) s = Call.ofExcept ((f p.ledger).mapError .ledger) s := by
  have hread : Call.reading f p.ledger = Call.ofExcept (f p.ledger) p.ledger := rfl
  cases hf : f p.ledger with
  | ok a =>
    rw [hf] at hread
    rw [Network.onLedger_of_ok hp hread]
    exact congrArg _ (Network.setParticipant_self hp)
  | error e =>
    rw [hf] at hread
    rw [Network.onLedger_of_error hp hread]
    rfl

/-- The bank is still the same when its ledger is looked at. -/
theorem see_atLedger (s : Network Amount) (pid : String)
    (f : Book Amount → Except Ledger.Err α) (g : α → Response Amount) :
    ((s.getParticipant ⟨pid⟩).mapError .error >>= fun p => see ((f p.ledger).mapError .ledger) g)
      = see (atLedger s pid f) g := by
  rw [atLedger]
  cases s.getParticipant ⟨pid⟩ <;> rfl

@[inherit_doc see_atLedger]
theorem see_atDeposit (s : Network Amount) (pid : String)
    (f : Register Amount → Except Deposit.Err α) (g : α → Response Amount) :
    ((s.getParticipant ⟨pid⟩).mapError .error >>=
        fun p => see ((f p.deposit).mapError .deposit) g)
      = see (atDeposit s pid f) g := by
  rw [atDeposit]
  cases s.getParticipant ⟨pid⟩ <;> rfl

theorem sees_ledger (pid : String) (f : Book Amount → Except Ledger.Err α)
    (g : α → Response Amount) :
    Sees (participant pid >>= fun _ => readLedger pid f >>= fun a => pure (g a)) now s
      (see (atLedger s pid f) g) := by
  rw [← see_atLedger]
  refine sees_participant fun p hp => sees_call ?_ g
  rw [alone_onLedger]
  exact onLedger_reading hp f

theorem sees_deposit (pid : String) {x : Program Amount α}
    {f : Register Amount → Except Deposit.Err α} (g : α → Response Amount)
    (hx : x.alone now = Network.onDeposit ⟨pid⟩ (.reading f)) :
    Sees (participant pid >>= fun _ => call x >>= fun a => pure (g a)) now s
      (see (atDeposit s pid f) g) := by
  rw [← see_atDeposit]
  refine sees_participant fun p hp => sees_call ?_ g
  rw [hx]
  exact onDeposit_reading hp f

theorem sees_register (pid : String) (f : Register Amount → Except Deposit.Err α)
    (g : α → Response Amount) :
    Sees (participant pid >>= fun _ => readDeposit pid f >>= fun a => pure (g a)) now s
      (see (atDeposit s pid f) g) :=
  sees_deposit pid g (alone_onRegister now _ _ _)

theorem sees_snapshots (c : Choices Amount) (pid did date : String) :
    Sees (handleGetSnapshots c pid did date) now s (viewSnapshots c s pid did date) := by
  rw [viewSnapshots]
  split
  · refine sees_participant fun p hp => ?_
    rw [if_pos ‹_›]
    cases hday : parseDay date with
    | error e => rfl
    | ok day =>
      show Sees (call (getSnapshot ⟨pid⟩ ⟨did⟩ day) >>= fun snap =>
        pure (ok (.snapshot (toSnapshotDTO snap)))) now s _
      have hat : atDeposit s pid (fun r => r.getSnapshot ⟨did⟩ day)
          = (p.deposit.getSnapshot ⟨did⟩ day).mapError .deposit := by
        rw [atDeposit, Network.getParticipant, Finmap.find_eq_ok.mpr hp]
        rfl
      show Sees _ now s (see (atDeposit s pid _) _)
      rw [hat]
      refine sees_call ?_ _
      rw [getSnapshot, alone_onRegister]
      exact onDeposit_reading hp _
  · rw [← see_atDeposit]
    refine sees_participant fun p hp => ?_
    rw [if_neg ‹_›]
    refine sees_call ?_ _
    rw [alone_onRegister]
    exact onDeposit_reading hp _

variable [AddCommGroup Amount]

theorem alone_reserveBalance (pid : ParticipantID) :
    (reserveBalance pid : Program Amount Amount).alone now s
      = Call.ofExcept (s.reserveBalance pid) s := by
  rw [reserveBalance, Prog.alone_withLock, Prog.alone_bind, alone_participant,
    Network.reserveBalance, Finmap.find]
  cases hp : s.participants.lookup pid with
  | none =>
    have hmissing : (get >>= fun s => orThrow (s.participants.lookup pid) .participantNotFound :
        Call (Network Amount) Payment.Err _) s = .error .participantNotFound s := by
      show orThrow (s.participants.lookup pid) _ s = _
      rw [hp]
      rfl
    exact Call.bind_of_error hmissing _
  | some p =>
    have hfound : (get >>= fun s => orThrow (s.participants.lookup pid) .participantNotFound :
        Call (Network Amount) Payment.Err _) s = .ok p s := by
      show orThrow (s.participants.lookup pid) _ s = _
      rw [hp]
      rfl
    rw [Call.bind_of_ok hfound, alone_onCentralBank]
    show Network.onCentralBank (.reading fun b => b.bookBalance p.settlementAccount) s
      = Call.ofExcept ((s.centralBank.bookBalance p.settlementAccount).mapError .ledger) s
    have hread : Call.reading (fun b => b.bookBalance p.settlementAccount) s.centralBank
        = Call.ofExcept (s.centralBank.bookBalance p.settlementAccount) s.centralBank := rfl
    cases hb : s.centralBank.bookBalance p.settlementAccount with
    | ok a =>
      rw [hb] at hread
      exact Call.zoom_of_ok hread
    | error e =>
      rw [hb] at hread
      exact Call.zoom_of_error hread

omit [AddCommGroup Amount] in
/-- A loop of looks. -/
theorem sees_mapM {f : α → Handling Amount β} {y : α → Except Payment.Err β}
    (hf : ∀ a, Sees (f a) now s ((y a).mapError .error)) (as : List α) :
    Sees (as.mapM f) now s ((as.mapM y).mapError .error) := by
  induction as with
  | nil => rfl
  | cons a as ih =>
    have ha : (f a).alone now s = _ := hf a
    have has : (as.mapM f).alone now s = _ := ih
    show ((a :: as).mapM f).alone now s = _
    rw [List.mapM_cons, List.mapM_cons, Prog.alone_bind]
    cases hy : y a with
    | error e =>
      rw [hy] at ha
      rw [Call.bind_of_error ha]
      rfl
    | ok b =>
      rw [hy] at ha
      rw [Call.bind_of_ok ha, Prog.alone_bind]
      cases hys : as.mapM y with
      | error e =>
        rw [hys] at has
        rw [Call.bind_of_error has]
        rfl
      | ok bs =>
        rw [hys] at has
        rw [Call.bind_of_ok has]
        rfl

theorem sees_reserveOf (p : Participant Amount) : Sees (reserveOf p) now s
    (((s.reserveBalance p.id).map fun bal => .reserve ⟨p.id.val, bal⟩).mapError .error) := by
  have hbal : (reserveBalance p.id).alone now s = Call.ofExcept (s.reserveBalance p.id) s :=
    alone_reserveBalance p.id
  show (reserveOf p).alone now s = _
  rw [reserveOf, Prog.alone_bind, call, Prog.alone_mapError]
  cases hb : s.reserveBalance p.id with
  | ok bal =>
    rw [hb] at hbal
    rw [Call.bind_of_ok (Prog.adaptExcept_of_ok hbal _)]
    rfl
  | error e =>
    rw [hb] at hbal
    rw [Call.bind_of_error (Prog.adaptExcept_of_error hbal _)]
    rfl

theorem sees_reserves (c : Choices Amount) : Sees (handleListReserves c) now s (see
    ((s.listParticipants c.participants.order c.participants.sorter).mapM fun p =>
      (s.reserveBalance p.id).map fun bal => .reserve ⟨p.id.val, bal⟩) listOK) := by
  generalize hparts : s.listParticipants c.participants.order c.participants.sorter = parts
  have hquery : (call (query fun s =>
      .ok (s.listParticipants c.participants.order c.participants.sorter)) :
      Handling Amount _).alone now s = .ok parts s := by
    rw [call, Prog.alone_mapError, alone_query, ← hparts]
    rfl
  have hloop : (parts.mapM reserveOf).alone now s = _ := sees_mapM sees_reserveOf parts
  show (handleListReserves c).alone now s = _
  rw [handleListReserves, Prog.alone_bind, Call.bind_of_ok hquery, Prog.alone_bind]
  cases hout : parts.mapM fun p : Participant Amount =>
      (s.reserveBalance p.id).map fun bal => DTO.reserve ⟨p.id.val, bal⟩ with
  | ok out =>
    rw [hout] at hloop
    rw [Call.bind_of_ok hloop]
    rfl
  | error e =>
    rw [hout] at hloop
    rw [Call.bind_of_error hloop]
    rfl

/-- **A GET, run alone, answers with what it sees and changes nothing.** -/
theorem alone_of_view [LinearOrder Amount] {c : Choices Amount} {req : Request Amount}
    {x : Except Refusal (Response Amount)} (hx : view c now s req = some x) :
    (handle c req).alone now s = Call.ofExcept x s := by
  cases req with
  | listParticipants => cases hx; exact sees_query _ _
  | getParticipant pid => cases hx; exact sees_query _ _
  | listSchemes => cases hx; exact sees_query _ _
  | listReserves =>
    cases hx
    exact sees_reserves c
  | getReserve pid => cases hx; exact sees_call (alone_reserveBalance _) _
  | centralBankAudit =>
    cases hx
    refine sees_call ?_ _
    rw [alone_onCentralBank]
    rfl
  | listLedgers pid => cases hx; exact sees_ledger _ _ _
  | getLedger pid lid => cases hx; exact sees_ledger _ _ _
  | listSubledgers pid lid => cases hx; exact sees_ledger _ _ _
  | getSubledger pid sid => cases hx; exact sees_ledger _ _ _
  | listAccounts pid sid => cases hx; exact sees_ledger _ _ _
  | getAccount pid aid => cases hx; exact sees_ledger _ _ _
  | bookBalance pid aid => cases hx; exact sees_ledger _ _ _
  | listTransactions pid account => cases hx; exact sees_ledger _ _ _
  | getTransaction pid tid => cases hx; exact sees_ledger _ _ _
  | ledgerAudit pid entity => cases hx; exact sees_ledger _ _ _
  | listDepositAccounts pid => cases hx; exact sees_register _ _ _
  | getDepositAccount pid did => cases hx; exact sees_register _ _ _
  | depositBalance pid did =>
    cases hx
    refine sees_deposit _ _ ?_
    rw [getBalance, Sections.alone_program, run_getBalance]
  | listHolds pid did => cases hx; exact sees_register _ _ _
  | getHold pid hid => cases hx; exact sees_register _ _ _
  | getSnapshots pid did date => cases hx; exact sees_snapshots c _ _ _
  | depositAudit pid => cases hx; exact sees_register _ _ _
  | listMandates => cases hx; exact sees_query _ _
  | getMandate mid => cases hx; exact sees_query _ _
  | listPayments => cases hx; exact sees_query _ _
  | getPayment payid => cases hx; exact sees_query _ _
  | listCycles => cases hx; exact sees_query _ _
  | getCycle cid => cases hx; exact sees_query _ _
  | listSettlements => cases hx; exact sees_query _ _
  | getSettlement sid => cases hx; exact sees_query _ _
  | _ => cases hx

end Alone

end CoreBanking.Api
