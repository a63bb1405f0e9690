import CoreBanking.Concurrent.Register

/-!
# The operations of a network, with their locks

An operation of the network holds the lock of the network throughout. Between its sections it
calls on registers and ledgers under their locks, which the clients of banks call on at any
time as well: what it has checked there may have changed when it posts.

- `participant`, `lookAt`: how an operation reads a record, and the register of a bank;
- the operations, under their names;
- the lemmas `alone_*`: run alone, each is the operation of the network.

The time of a posting is that of its own section.
-/

namespace CoreBanking.Concurrent

open Ledger (Book newBook Entry PostTransactionRequest Transaction transfer)
open Deposit (Register)
open Payment

variable {Amount α β : Type}

/-! ## Reading -/

/-- A look at the network. -/
def reading (f : Network Amount → Except Err α) : Program Amount α :=
  .critical fun _ => .reading f

/-- A look at the network, under its lock. -/
def query (f : Network Amount → Except Err α) : Program Amount α :=
  .withLock .network .read (reading f)

/-- The bank `i`, whose deposit layer others may change. -/
def participant (i : ParticipantID) (missing : Err) : Program Amount (Participant Amount) :=
  .critical fun _ => do
    let s ← get
    orThrow (s.participants.lookup i) missing

/-- A look at the register of bank `i`, under its lock. -/
def lookAt (i : ParticipantID) (f : Network Amount → Except Err α) : Program Amount α :=
  .withLock (.register i) .read (reading f)

/-- `checkParty`. -/
def checkParty (ref : PartyRef) : Program Amount Unit := do
  let _ ← participant ref.participant .participantNotFound
  lookAt ref.participant fun s => s.checkParty ref

/-- The ledger account behind a customer's account at bank `i`. -/
def customerGL (i : ParticipantID) (id : Deposit.AccountID) (s : Network Amount) :
    Except Err Ledger.AccountID :=
  match s.participants.lookup i with
  | none => .error .nilDereference
  | some p => p.glAccount id

/-- `glAccount`. -/
def glAccount (i : ParticipantID) (id : Deposit.AccountID) :
    Program Amount Ledger.AccountID :=
  lookAt i (customerGL i id)

/-! ## Participants -/

/-- `AddParticipant`. Nobody else has the ledger of the new bank yet. -/
def addParticipant (name : String) : Program Amount (Participant Amount) :=
  .withLock .network .write do
    let now ← .clock
    match bankChart now name (newBook Amount) with
    | .error e _ => .fail (.ledger e)
    | .ok (customers, suspense, reserve) bank => do
      let subledger ← reading fun s => .ok s.cbReserveSubledger
      let cbReserve ← onCentralBank .write fun now =>
        Book.createAccount now subledger ("Reserve: " ++ name) .liability
      .critical fun _ => do
        let id ← Network.nextID "bank"
        let p : Participant Amount :=
          { id := ⟨id⟩
            name := name
            deposit := Deposit.newRegister bank
            customerSubledger := customers
            suspenseAccount := suspense
            reserveAccount := reserve
            settlementAccount := cbReserve.id }
        modify fun s => s.setParticipant p.id p
        pure p

/-- `OpenCustomerAccount`, for a bank that has been looked up. -/
def openCustomerAccount [Zero Amount] (p : Participant Amount) (i : ParticipantID)
    (name : String) : Program Amount (Deposit.Account Amount) :=
  openAccount i p.customerSubledger name 0

/-! ## Mandates -/

/-- `CreateMandate`. -/
def createMandate (debtor creditor : PartyRef) (maxAmount : Amount) :
    Program Amount (Mandate Amount) :=
  .withLock .network .write do
    checkParty debtor
    checkParty creditor
    .critical fun now => do
      let id ← Network.nextID "mnd"
      let m : Mandate Amount := ⟨⟨id⟩, debtor, creditor, maxAmount, .active, now⟩
      modify fun s => { s with mandates := s.mandates.insert m.id m }
      pure m

/-- `RevokeMandate`. -/
def revokeMandate (id : MandateID) : Program Amount Unit :=
  .withLock .network .write (.critical fun _ => Network.revokeMandate id)

/-! ## Clearing cycles -/

/-- `OpenCycle`. -/
def openCycleFor (scheme : SchemeID) : Program Amount (ClearingCycle Amount) :=
  .withLock .network .write (.critical fun now => Network.openCycleFor now scheme)

section Operations

variable [AddCommGroup Amount]

/-- `CloseCycle`. -/
def closeCycle (id : CycleID) : Program Amount (ClearingCycle Amount) :=
  .withLock .network .write (.critical fun now => Network.closeCycle now id)

/-- `ReserveBalance`. -/
def reserveBalance (i : ParticipantID) : Program Amount Amount :=
  .withLock .network .read do
    let p ← participant i .participantNotFound
    onCentralBank .read fun _ => .reading fun b => b.bookBalance p.settlementAccount

variable [LinearOrder Amount]

/-- `Deposit`. -/
def deposit (i : ParticipantID) (account : Deposit.AccountID) (amount : Amount)
    (description : String) : Program Amount Unit :=
  .withLock .network .write do
    let (assets, p) ← .critical fun _ => do
      require (0 < amount) .invalidPaymentAmount
      let s ← get
      let p ← orThrow (s.participants.lookup i) .participantNotFound
      pure (s.cbAssets, p)
    let gl ← glAccount i account
    let _ ← onLedger i .write fun now => Book.postTransaction now
      { description := description
        entries := transfer p.reserveAccount gl amount }
    let _ ← onCentralBank .write fun now => Book.postTransaction now
      { description := "Reserve credit: " ++ p.name
        entries := transfer assets p.settlementAccount amount }

/-! ## Settlement -/

/-- One step of the second loop of `SettleCycle`. -/
def mirrorPosition (c : ClearingCycle Amount) (d : ParticipantID × Amount) :
    Program Amount Unit :=
  if d.2 = 0 then pure ()
  else do
    let p ← participant d.1 .nilDereference
    let _ ← onLedger d.1 .write fun now => Book.postTransaction now
      { idempotencyKey := c.id.mirrorKey d.1
        description := "Net settlement of cycle " ++ c.id.val
        entries := Network.mirrorEntries p d.2 }

/-- The first two parts of `SettleCycle`. -/
def settlePositions (order₁ order₂ : MapOrder ParticipantID Amount)
    (c : ClearingCycle Amount) : Program Amount (Option Ledger.TransactionID) := do
  let cbEntries ← reading fun s =>
    (order₁.toList c.netPositions).foldlM s.addSettlementEntry []
  if cbEntries = [] then pure none
  else do
    let tx ← onCentralBank .write fun now => Book.postTransaction now
      { idempotencyKey := c.id.settleKey
        description := "Settlement of clearing cycle " ++ c.id.val
        entries := cbEntries }
    (order₂.toList c.netPositions).forM (mirrorPosition c)
    pure (some tx.id)

/-- One step of the last loop of `SettleCycle`. -/
def postCreditorLeg (pid : PaymentID) : Program Amount Unit := do
  let p ← .critical fun _ => do
    let s ← get
    orThrow (s.payments.lookup pid) .nilDereference
  let creditor ← participant p.creditor.participant .nilDereference
  let creditorGL ← glAccount p.creditor.participant p.creditor.account
  let tx ← onLedger p.creditor.participant .write fun now => Book.postTransaction now
    { idempotencyKey := p.id.creditKey
      description := p.description
      valueDate := p.valueDate
      metadata := Network.paymentMetadata p
      entries := transfer creditor.suspenseAccount creditorGL p.amount }
  .critical fun _ => do
    let p : Payment Amount := { p with creditorLegTx := some tx.id }
    modify fun s => s.setPayment pid p
    let p ← Network.transition p .settled
    modify fun s => s.setPayment pid p

/-- `SettleCycle`. -/
def settleCycle (order₁ order₂ : MapOrder ParticipantID Amount) (id : CycleID) :
    Program Amount (Settlement Amount) :=
  .withLock .network .write do
    let c ← .critical fun _ => do
      let s ← get
      let c ← orThrow (s.cycles.lookup id) .cycleNotFound
      require (c.status = .closed) .cycleNotClosed
      pure c
    let settlementTx ← settlePositions order₁ order₂ c
    c.paymentIDs.forM postCreditorLeg
    .critical fun now => do
      let sid ← Network.nextID "set"
      let st : Settlement Amount := ⟨⟨sid⟩, c.id, c.netPositions, settlementTx, now, now⟩
      modify fun s => { s.setCycle id
          { c with status := .settled, settlementID := some st.id } with
        settlements := s.settlements.insert st.id st }
      pure st

/-! ## Payments -/

/-- `validateFunds`: the account is looked up, and then asked. -/
def validateFunds (p : Payment Amount) : Program Amount Unit := do
  checkParty p.debtor
  checkWithdrawal p.debtor.participant p.debtor.account p.amount

/-- `Validate`. -/
def validate (sc : Scheme) (p : Payment Amount) : Program Amount Unit :=
  match sc with
  | .sct => validateFunds p
  | .sdd => do
    reading fun s => Payment.validateMandate s p
    validateFunds p

/-- `InitiatePayment`. -/
def initiatePayment (req : InitiatePaymentRequest Amount) : Program Amount (Payment Amount) :=
  .withLock .network .write do
    let scheme ← .critical fun _ => do
      let s ← get
      let scheme ← orThrow (s.schemes.lookup req.scheme) .schemeNotFound
      require (0 < req.amount) .invalidPaymentAmount
      pure scheme
    checkParty req.debtor
    checkParty req.creditor
    let p ← .critical fun now => do
      let s ← get
      require (req.endToEndID = "" ∨ s.endToEndIndex.lookup req.endToEndID = none)
        .duplicateEndToEndID
      let cycleID ← orThrow (s.openCycle.lookup req.scheme) .cycleNotOpen
      let id ← Network.nextID "pay"
      pure (Network.newPayment now req ⟨id⟩ scheme cycleID)
    validate scheme p
    let debtor ← participant p.debtor.participant .nilDereference
    let debtorGL ← glAccount p.debtor.participant p.debtor.account
    let tx ← onLedger p.debtor.participant .write fun now => Book.postTransaction now
      { idempotencyKey := p.id.debitKey
        description := p.description
        bookingDate := p.bookingDate
        valueDate := p.valueDate
        metadata := Network.paymentMetadata p
        entries := transfer debtorGL debtor.suspenseAccount p.amount }
    .critical fun _ => do
      let p ← Network.transition { p with debtorLegTx := some tx.id } .accepted
      let s ← get
      let cycle ← orThrow (s.cycles.lookup p.cycleID) .nilDereference
      modify fun s => { (s.setCycle p.cycleID
          { cycle with paymentIDs := cycle.paymentIDs ++ [p.id] }).setPayment p.id p with
        endToEndIndex :=
          if req.endToEndID = "" then s.endToEndIndex
          else s.endToEndIndex.insert req.endToEndID p.id }
      pure p

omit [AddCommGroup Amount] [LinearOrder Amount] in
/-- Reverse the debtor leg of a payment, if one was posted. -/
def reverseDebtorLeg (p : Payment Amount) (reason : String) : Program Amount Unit :=
  match p.debtorLegTx with
  | none => pure ()
  | some tx => do
    let _ ← onLedger p.debtor.participant .write fun now => Book.reverseTransaction now tx
      ("Reject payment " ++ p.id.val ++ ": " ++ reason)

omit [AddCommGroup Amount] [LinearOrder Amount] in
/-- `RejectPayment`. -/
def rejectPayment (id : PaymentID) (reason : String) : Program Amount (Payment Amount) :=
  .withLock .network .write do
    let p ← .critical fun _ => do
      let s ← get
      let p ← orThrow (s.payments.lookup id) .paymentNotFound
      require (p.status = .initiated ∨ p.status = .accepted) .invalidStateTransition
      pure p
    reverseDebtorLeg p reason
    .critical fun _ => do
      modify fun s => s.removeFromCycle p
      let p ← Network.transition p .rejected
      let p : Payment Amount := { p with rejectReason := reason }
      modify fun s => s.setPayment id p
      pure p

/-- `ReturnPayment`. -/
def returnPayment (id : PaymentID) (reason : String) : Program Amount (Payment Amount) :=
  .withLock .network .write do
    let p ← .critical fun _ => do
      let s ← get
      let p ← orThrow (s.payments.lookup id) .paymentNotFound
      require (∃ sc ∈ s.schemes.lookup p.scheme, sc.allowsReturn) .schemeUnsupportedReturn
      require (p.status = .settled) .invalidStateTransition
      pure p
    let debtor ← participant p.debtor.participant .nilDereference
    let creditor ← participant p.creditor.participant .nilDereference
    let debtorGL ← glAccount p.debtor.participant p.debtor.account
    let creditorGL ← glAccount p.creditor.participant p.creditor.account
    let _ ← onLedger p.debtor.participant .write fun now => Book.postTransaction now
      { idempotencyKey := p.id.returnDebitKey
        description := "Return of payment " ++ p.id.val ++ ": " ++ reason
        entries := transfer debtor.reserveAccount debtorGL p.amount }
    let _ ← onLedger p.creditor.participant .write fun now => Book.postTransaction now
      { idempotencyKey := p.id.returnCreditKey
        description := "Return of payment " ++ p.id.val ++ ": " ++ reason
        entries := transfer creditorGL creditor.reserveAccount p.amount }
    let _ ← onCentralBank .write fun now => Book.postTransaction now
      { idempotencyKey := p.id.returnSettleKey
        description := "Return settlement for payment " ++ p.id.val
        entries := transfer creditor.settlementAccount debtor.settlementAccount p.amount }
    .critical fun _ => do
      let p ← Network.transition p .returned
      let p : Payment Amount := { p with rejectReason := reason }
      modify fun s => s.setPayment id p
      pure p

end Operations

/-! ## Running alone -/

section Alone

variable (now : Time)

@[simp] theorem alone_reading (f : Network Amount → Except Err α) :
    (reading f).alone now = .reading f :=
  Prog.alone_critical now _

@[simp] theorem alone_query (f : Network Amount → Except Err α) :
    (query f).alone now = .reading f := by
  rw [query, Prog.alone_withLock, alone_reading]

@[simp] theorem alone_lookAt (i : ParticipantID) (f : Network Amount → Except Err α) :
    (lookAt i f).alone now = .reading f := by
  rw [lookAt, Prog.alone_withLock, alone_reading]

@[simp] theorem alone_participant (i : ParticipantID) (missing : Err) :
    (participant i missing : Program Amount _).alone now
      = get >>= fun s => orThrow (s.participants.lookup i) missing :=
  Prog.alone_critical now _

@[simp] theorem alone_checkParty (ref : PartyRef) :
    (checkParty ref : Program Amount Unit).alone now = .reading fun s => s.checkParty ref := by
  funext s
  rw [checkParty, Prog.alone_bind, alone_participant, alone_lookAt]
  show (orThrow (s.participants.lookup ref.participant) _ >>= fun _ => _) s
    = Call.ofExcept (s.checkParty ref) s
  cases hp : s.participants.lookup ref.participant with
  | none =>
    rw [Network.checkParty, hp]
    rfl
  | some p => rfl

@[simp] theorem alone_glAccount (i : ParticipantID) (id : Deposit.AccountID) :
    (glAccount i id : Program Amount _).alone now = .reading (customerGL i id) :=
  alone_lookAt now i _

theorem customerGL_of_lookup {s : Network Amount} {i : ParticipantID} {p : Participant Amount}
    (hp : s.participants.lookup i = some p) (id : Deposit.AccountID) :
    customerGL i id s = p.glAccount id := by
  rw [customerGL, hp]

/-! ### Operations -/

theorem alone_addParticipant (name : String) :
    (addParticipant name : Program Amount _).alone now = Network.addParticipant now name := by
  rw [addParticipant, Prog.alone_withLock, Prog.alone_clock_bind, Network.addParticipant]
  cases bankChart now name (newBook Amount) with
  | error e b => rfl
  | ok ids b =>
    simp only [Prog.alone_bind, alone_reading, alone_onCentralBank, Prog.alone_critical]
    rfl

theorem alone_createMandate (debtor creditor : PartyRef) (maxAmount : Amount) :
    (createMandate debtor creditor maxAmount).alone now
      = Network.createMandate now debtor creditor maxAmount := by
  simp only [createMandate, Prog.alone_withLock, Prog.alone_bind, alone_checkParty,
    Prog.alone_critical]
  funext s
  refine Call.ofExcept_bind_congr fun _ _ => ?_
  refine Call.ofExcept_bind_congr fun _ _ => ?_
  rfl

theorem alone_revokeMandate (id : MandateID) :
    (revokeMandate id : Program Amount Unit).alone now = Network.revokeMandate id := by
  rw [revokeMandate, Prog.alone_withLock, Prog.alone_critical]

theorem alone_openCycleFor (scheme : SchemeID) :
    (openCycleFor scheme : Program Amount _).alone now = Network.openCycleFor now scheme := by
  rw [openCycleFor, Prog.alone_withLock, Prog.alone_critical]

variable [AddCommGroup Amount]

theorem alone_closeCycle (id : CycleID) :
    (closeCycle id : Program Amount _).alone now = Network.closeCycle now id := by
  rw [closeCycle, Prog.alone_withLock, Prog.alone_critical]

variable [LinearOrder Amount]

theorem alone_deposit (i : ParticipantID) (account : Deposit.AccountID) (amount : Amount)
    (description : String) : (deposit i account amount description).alone now
      = Network.deposit now i account amount description := by
  simp only [deposit, Prog.alone_withLock, Prog.alone_bind, Prog.alone_critical,
    alone_glAccount, alone_onLedger, alone_onCentralBank, bind_assoc, pure_bind]
  funext s
  refine require_bind_congr fun _ => orThrow_bind_congr fun p hp => ?_
  show (Call.ofExcept (customerGL i account s) >>= _) s = _
  rw [customerGL_of_lookup hp]
  rfl

/-! ### Settlement -/

theorem alone_mirrorPosition (c : ClearingCycle Amount) (d : ParticipantID × Amount) :
    (mirrorPosition c d).alone now = Network.mirrorPosition now c d := by
  rw [mirrorPosition, Network.mirrorPosition]
  split
  · rfl
  · simp only [Prog.alone_bind, alone_participant, alone_onLedger, bind_assoc]
    rfl

theorem alone_settlePositions (order₁ order₂ : MapOrder ParticipantID Amount)
    (c : ClearingCycle Amount) : (settlePositions order₁ order₂ c).alone now
      = Network.settlePositions now order₁ order₂ c := by
  rw [settlePositions, Prog.alone_bind, alone_reading]
  funext s
  refine Call.ofExcept_bind_congr fun entries _ => ?_
  split
  · rfl
  · simp only [Prog.alone_bind, alone_onCentralBank, Prog.alone_forM, alone_mirrorPosition]
    rfl

theorem alone_postCreditorLeg (pid : PaymentID) :
    (postCreditorLeg pid : Program Amount Unit).alone now = Network.postCreditorLeg now pid := by
  simp only [postCreditorLeg, Prog.alone_bind, Prog.alone_critical, alone_participant,
    alone_glAccount, alone_onLedger, bind_assoc]
  funext s
  refine orThrow_bind_congr fun p _ => ?_
  refine orThrow_bind_congr fun creditor hcreditor => ?_
  show (Call.ofExcept (customerGL p.creditor.participant p.creditor.account s) >>= _) s = _
  rw [customerGL_of_lookup hcreditor]

theorem alone_settleCycle (order₁ order₂ : MapOrder ParticipantID Amount) (id : CycleID) :
    (settleCycle order₁ order₂ id).alone now = Network.settleCycle now order₁ order₂ id := by
  simp only [settleCycle, Prog.alone_withLock, Prog.alone_bind, Prog.alone_critical,
    alone_settlePositions, Prog.alone_forM, alone_postCreditorLeg, bind_assoc, pure_bind]
  rfl

/-! ### Payments -/

/-- The withdrawal is checked at the bank that has been found. -/
theorem alone_validateFunds (p : Payment Amount) :
    (validateFunds p).alone now = .reading fun s => Payment.validateFunds s now p := by
  rw [validateFunds, Prog.alone_bind, alone_checkParty, checkWithdrawal,
    Sections.alone_program, run_checkWithdrawal]
  funext s
  show (Call.ofExcept (s.checkParty p.debtor) >>= _) s
    = Call.ofExcept (Payment.validateFunds s now p) s
  rw [Network.checkParty, Payment.validateFunds]
  cases hb : s.participants.lookup p.debtor.participant with
  | none => rfl
  | some b =>
    dsimp only
    cases b.deposit.getAccount p.debtor.account with
    | error e => rfl
    | ok a => exact onDeposit_reading hb _

theorem alone_validate (sc : Scheme) (p : Payment Amount) :
    (validate sc p).alone now = .reading fun s => sc.validate s now p := by
  cases sc with
  | sct => exact alone_validateFunds now p
  | sdd =>
    rw [validate, Prog.alone_bind, alone_reading, alone_validateFunds]
    funext s
    show _ = Call.ofExcept (Scheme.sdd.validate s now p) s
    rw [Scheme.validate, Call.ofExcept_bind]
    exact Call.ofExcept_bind_congr fun _ _ => rfl

theorem alone_initiatePayment (req : InitiatePaymentRequest Amount) :
    (initiatePayment req).alone now = Network.initiatePayment now req := by
  simp only [initiatePayment, Prog.alone_withLock, Prog.alone_bind, Prog.alone_critical,
    alone_checkParty, alone_validate, alone_participant, alone_glAccount, alone_onLedger,
    bind_assoc, pure_bind]
  funext s
  refine orThrow_bind_congr fun scheme _ => require_bind_congr fun _ => ?_
  refine Call.ofExcept_bind_congr fun _ _ => Call.ofExcept_bind_congr fun _ _ => ?_
  refine require_bind_congr fun _ => orThrow_bind_congr fun cycleID _ => ?_
  refine Call.ofExcept_bind_congr fun _ _ => orThrow_bind_congr fun debtor hdebtor => ?_
  show (Call.ofExcept (customerGL _ _ _) >>= _) _ = _
  rw [customerGL_of_lookup hdebtor]
  rfl

omit [AddCommGroup Amount] [LinearOrder Amount] in
theorem alone_reverseDebtorLeg (p : Payment Amount) (reason : String) :
    (reverseDebtorLeg p reason).alone now = Network.reverseDebtorLeg now p reason := by
  rw [reverseDebtorLeg, Network.reverseDebtorLeg]
  cases p.debtorLegTx with
  | none => rfl
  | some tx =>
    simp only [Prog.alone_bind, alone_onLedger]
    rfl

omit [AddCommGroup Amount] [LinearOrder Amount] in
theorem alone_rejectPayment (id : PaymentID) (reason : String) :
    (rejectPayment id reason : Program Amount _).alone now
      = Network.rejectPayment now id reason := by
  simp only [rejectPayment, Prog.alone_withLock, Prog.alone_bind, Prog.alone_critical,
    alone_reverseDebtorLeg, bind_assoc, pure_bind]
  rfl

theorem alone_returnPayment (id : PaymentID) (reason : String) :
    (returnPayment id reason : Program Amount _).alone now
      = Network.returnPayment now id reason := by
  simp only [returnPayment, Prog.alone_withLock, Prog.alone_bind, Prog.alone_critical,
    alone_participant, alone_glAccount, alone_onLedger, alone_onCentralBank, bind_assoc,
    pure_bind]
  funext s
  refine orThrow_bind_congr fun p _ => require_bind_congr fun _ => require_bind_congr fun _ => ?_
  refine orThrow_bind_congr fun debtor hdebtor => orThrow_bind_congr fun creditor hcreditor => ?_
  show (Call.ofExcept (customerGL _ _ s) >>= _) s = _
  rw [customerGL_of_lookup hdebtor]
  refine Call.ofExcept_bind_congr fun debtorGL _ => ?_
  show (Call.ofExcept (customerGL _ _ s) >>= _) s = _
  rw [customerGL_of_lookup hcreditor]

end Alone

end CoreBanking.Concurrent
