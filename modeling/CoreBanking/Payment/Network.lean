import CoreBanking.Payment.Scheme

/-!
# The payment network: operations (system.go)

Every operation is a `Call` on the network. The postings of one operation go to
several ledgers one after the other; when one of them is refused, those before
it stay, as in the code. A read through a missing map entry, which in the code
is a nil dereference, fails with `nilDereference`.

The two loops of `SettleCycle` over the net positions visit them in orders
that are arguments of the operation.
-/

namespace CoreBanking.Payment

open Ledger (Book newBook Entry PostTransactionRequest Transaction transfer)
open Deposit (Register)

/-! ## Idempotency keys -/

/-- The key of the debtor leg of a payment. -/
def PaymentID.debitKey (id : PaymentID) : String := joinColon id.val "debit"

/-- The key of the creditor leg of a payment. -/
def PaymentID.creditKey (id : PaymentID) : String := joinColon id.val "credit"

/-- The keys of the three postings of a return. -/
def PaymentID.returnDebitKey (id : PaymentID) : String :=
  joinColon id.val "return-debit"

@[inherit_doc PaymentID.returnDebitKey]
def PaymentID.returnCreditKey (id : PaymentID) : String :=
  joinColon id.val "return-credit"

@[inherit_doc PaymentID.returnDebitKey]
def PaymentID.returnSettleKey (id : PaymentID) : String :=
  joinColon id.val "return-settle"

/-- The key of the central-bank settlement of a cycle. -/
def CycleID.settleKey (id : CycleID) : String := joinColon id.val "settle"

/-- The key of the mirror of a cycle's settlement in the ledger of bank `i`. -/
def CycleID.mirrorKey (id : CycleID) (i : ParticipantID) : String :=
  joinColon id.val (joinColon "reserve" i.val)

namespace Network

variable {Amount : Type}

/-! ## State -/

/-- The chart of accounts of the central bank: the subledger for reserves and
the settlement assets. -/
def centralBankChart (now : Time) :
    Call (Book Amount) Ledger.Err (Ledger.SubledgerID × Ledger.AccountID) := do
  let cb ← Book.createLedger now "Central Bank"
  let reserves ← Book.createSubledger now cb.id "Member Reserves"
  let capital ← Book.createSubledger now cb.id "Central Bank Capital"
  let assets ← Book.createAccount now capital.id "Settlement Assets" .asset
  pure (reserves.id, assets.id)

/-- A network over a central-bank ledger, with no scheme registered yet. -/
def emptyNetwork (centralBank : Book Amount) (reserves : Ledger.SubledgerID)
    (assets : Ledger.AccountID) : Network Amount where
  schemes := ∅
  participants := ∅
  payments := ∅
  mandates := ∅
  cycles := ∅
  settlements := ∅
  openCycle := ∅
  endToEndIndex := ∅
  centralBank := centralBank
  cbReserveSubledger := reserves
  cbAssets := assets
  idCounter := 0

/-- `RegisterScheme`: add or replace a scheme. -/
def registerScheme (s : Network Amount) (sc : Scheme) : Network Amount :=
  { s with schemes := s.schemes.insert sc.id sc }

/-- `NewNetwork`: a network with both schemes registered. The code ignores the
errors of the calls that build the central bank's chart; there are none. -/
def newNetwork (Amount : Type) (now : Time) : Network Amount :=
  let s := match centralBankChart now (newBook Amount) with
    | .ok (reserves, assets) cb => emptyNetwork cb reserves assets
    | .error _ cb => emptyNetwork cb ⟨""⟩ ⟨""⟩
  (s.registerScheme .sct).registerScheme .sdd

def nextID (pfx : String) : Call (Network Amount) Err String := do
  let s ← get
  set { s with idCounter := s.idCounter + 1 }
  pure (ident pfx (s.idCounter + 1))

/-- Write a payment, a participant or a cycle back. -/
def setPayment (s : Network Amount) (id : PaymentID) (p : Payment Amount) :
    Network Amount :=
  { s with payments := s.payments.insert id p }

@[inherit_doc setPayment]
def setParticipant (s : Network Amount) (i : ParticipantID)
    (p : Participant Amount) : Network Amount :=
  { s with participants := s.participants.insert i p }

@[inherit_doc setPayment]
def setCycle (s : Network Amount) (id : CycleID) (c : ClearingCycle Amount) :
    Network Amount :=
  { s with cycles := s.cycles.insert id c }

/-- The network with another state of the central-bank ledger. -/
def setCentralBank (s : Network Amount) (b : Book Amount) : Network Amount :=
  { s with centralBank := b }

/-- A call on the central-bank ledger. -/
def onCentralBank {α : Type} (x : Call (Book Amount) Ledger.Err α) :
    Call (Network Amount) Err α :=
  Call.zoom Network.centralBank (fun b s => s.setCentralBank b) .ledger x

/-- A call on the ledger of bank `i`. -/
def onLedger {α : Type} (i : ParticipantID)
    (x : Call (Book Amount) Ledger.Err α) : Call (Network Amount) Err α := do
  let s ← get
  let p ← orThrow (s.participants.lookup i) .nilDereference
  Call.zoom (fun _ => p.ledger) (fun b s => s.setParticipant i (p.withLedger b))
    .ledger x

/-- A call on the deposit layer of bank `i`. -/
def onDeposit {α : Type} (i : ParticipantID)
    (x : Call (Register Amount) Deposit.Err α) : Call (Network Amount) Err α := do
  let s ← get
  let p ← orThrow (s.participants.lookup i) .participantNotFound
  Call.zoom (fun _ => p.deposit)
    (fun r s => s.setParticipant i { p with deposit := r }) .deposit x

/-! ## Participants -/

/-- `AddParticipant`: register a bank with its own ledger and a reserve account
at the central bank. -/
def addParticipant (now : Time) (name : String) :
    Call (Network Amount) Err (Participant Amount) := do
  -- the whole chart is built before the central bank or the network is touched
  match bankChart now name (newBook Amount) with
  | .error e _ => throw (.ledger e)
  | .ok (customers, suspense, reserve) bank =>
    let s ← get
    let cbReserve ← onCentralBank
      (Book.createAccount now s.cbReserveSubledger ("Reserve: " ++ name) .liability)
    let id ← nextID "bank"
    let p : Participant Amount :=
      { id := ⟨id⟩
        name := name
        deposit := Deposit.newRegister bank
        customerSubledger := customers
        suspenseAccount := suspense
        reserveAccount := reserve
        settlementAccount := cbReserve.id }
    modify fun s => s.setParticipant p.id p
    pure p

/-- `checkParty`: the participant and the account exist. -/
def checkParty (s : Network Amount) (ref : PartyRef) : Except Err Unit :=
  match s.participants.lookup ref.participant with
  | none => .error .participantNotFound
  | some p =>
    match p.deposit.getAccount ref.account with
    | .error _ => .error .accountNotInParticipant
    | .ok _ => .ok ()

/-- The edges of the payment lifecycle. -/
def allowed : PaymentStatus → List PaymentStatus
  | .initiated => [.accepted, .rejected]
  | .accepted => [.cleared, .rejected]
  | .cleared => [.settled]
  | .settled => [.returned]
  | .rejected => []
  | .returned => []

/-- `transition`: move a payment along an edge of its lifecycle. -/
def transition (p : Payment Amount) (target : PaymentStatus) :
    Call (Network Amount) Err (Payment Amount) := do
  require (target ∈ allowed p.status) .invalidStateTransition
  pure { p with status := target }

/-- `paymentMetadata`: what the postings of a payment carry. -/
def paymentMetadata (p : Payment Amount) : GoMap String String :=
  let md : GoMap String String :=
    ((∅ : GoMap String String).insert "payment_id" p.id.val).insert "scheme"
      p.scheme.val
  let md := if p.endToEndID ≠ "" then md.insert "end_to_end_id" p.endToEndID else md
  if p.mandateID ≠ ⟨""⟩ then md.insert "mandate_id" p.mandateID.val else md

section Operations

variable [AddCommGroup Amount] [LinearOrder Amount]

/-- `Deposit`: fund a customer's account with cash that the bank places on
reserve at the central bank. -/
def deposit (now : Time) (participant : ParticipantID)
    (account : Deposit.AccountID) (amount : Amount) (description : String) :
    Call (Network Amount) Err Unit := do
  require (0 < amount) .invalidPaymentAmount
  let s ← get
  let p ← orThrow (s.participants.lookup participant) .participantNotFound
  let gl ← Call.ofExcept (p.glAccount account)
  let _ ← onLedger participant (Book.postTransaction now
    { description := description
      entries := transfer p.reserveAccount gl amount })
  -- the posting in the bank stands if this one is refused
  let _ ← onCentralBank (Book.postTransaction now
    { description := "Reserve credit: " ++ p.name
      entries := transfer s.cbAssets p.settlementAccount amount })

/-! ## Mandates -/

omit [AddCommGroup Amount] [LinearOrder Amount] in
/-- `CreateMandate`: record a debtor's authorization. -/
def createMandate (now : Time) (debtor creditor : PartyRef) (maxAmount : Amount) :
    Call (Network Amount) Err (Mandate Amount) := do
  let s ← get
  Call.ofExcept (s.checkParty debtor)
  Call.ofExcept (s.checkParty creditor)
  let id ← nextID "mnd"
  let m : Mandate Amount := ⟨⟨id⟩, debtor, creditor, maxAmount, .active, now⟩
  modify fun s => { s with mandates := s.mandates.insert m.id m }
  pure m

omit [AddCommGroup Amount] [LinearOrder Amount] in
/-- `RevokeMandate`: mark a mandate as revoked. -/
def revokeMandate (id : MandateID) : Call (Network Amount) Err Unit := do
  let s ← get
  let m ← orThrow (s.mandates.lookup id) .mandateNotFound
  modify fun s => { s with
    mandates := s.mandates.insert id { m with status := .revoked } }

/-! ## Clearing cycles -/

omit [AddCommGroup Amount] [LinearOrder Amount] in
/-- `OpenCycle`: open a clearing cycle for a scheme. -/
def openCycleFor (now : Time) (scheme : SchemeID) :
    Call (Network Amount) Err (ClearingCycle Amount) := do
  let s ← get
  let _ ← orThrow (s.schemes.lookup scheme) .schemeNotFound
  require (s.openCycle.lookup scheme = none) .cycleAlreadyOpen
  let id ← nextID "cyc"
  let c : ClearingCycle Amount :=
    { id := ⟨id⟩
      scheme := scheme
      status := .open
      paymentIDs := []
      netPositions := ∅
      openedAt := now
      closedAt := Time.zero
      settlementID := none }
  modify fun s => { s with
    cycles := s.cycles.insert c.id c
    openCycle := s.openCycle.insert scheme c.id }
  pure c

omit [LinearOrder Amount] in
/-- `net[i] += delta`. -/
def addPosition (net : GoMap ParticipantID Amount) (i : ParticipantID)
    (delta : Amount) : GoMap ParticipantID Amount :=
  net.insert i ((net.lookup i).getD 0 + delta)

omit [LinearOrder Amount] in
/-- One step of the loop of `CloseCycle`: net a payment and mark it cleared.
Money flows from the debtor to the creditor. -/
def clearPayment (net : GoMap ParticipantID Amount) (pid : PaymentID) :
    Call (Network Amount) Err (GoMap ParticipantID Amount) := do
  let s ← get
  let p ← orThrow (s.payments.lookup pid) .nilDereference
  let net := addPosition net p.debtor.participant (-p.amount)
  let net := addPosition net p.creditor.participant p.amount
  let p ← transition p .cleared
  modify fun s => s.setPayment pid p
  pure net

omit [LinearOrder Amount] in
/-- `CloseCycle`: compute the net positions of an open cycle and mark its
payments cleared. -/
def closeCycle (now : Time) (id : CycleID) :
    Call (Network Amount) Err (ClearingCycle Amount) := do
  let s ← get
  let c ← orThrow (s.cycles.lookup id) .cycleNotFound
  require (c.status = .open) .cycleNotOpen
  let net ← c.paymentIDs.foldlM clearPayment ∅
  let c' : ClearingCycle Amount :=
    { c with netPositions := net, status := .closed, closedAt := now }
  modify fun s => { s.setCycle id c' with openCycle := s.openCycle.erase c.scheme }
  pure c'

/-! ## Settlement -/

/-- One step of the first loop of `SettleCycle`: the leg of a net position in
the central-bank settlement. -/
def addSettlementEntry (s : Network Amount) (entries : List (Entry Amount))
    (d : ParticipantID × Amount) : Except Err (List (Entry Amount)) :=
  if d.2 = 0 then .ok entries
  else match s.participants.lookup d.1 with
    | none => .error .nilDereference
    | some p => .ok (entries ++
        [if 0 < d.2
          then { accountID := p.settlementAccount, amount := d.2, direction := .credit }
          else { accountID := p.settlementAccount, amount := -d.2, direction := .debit }])

/-- The entries that mirror a net position in the bank's own ledger. A net
receiver's reserve goes up and its suspense down; a net payer's the other way
round. -/
def mirrorEntries (p : Participant Amount) (net : Amount) : List (Entry Amount) :=
  if 0 < net then transfer p.reserveAccount p.suspenseAccount net
  else transfer p.suspenseAccount p.reserveAccount (-net)

/-- One step of the second loop of `SettleCycle`. -/
def mirrorPosition (now : Time) (c : ClearingCycle Amount)
    (d : ParticipantID × Amount) : Call (Network Amount) Err Unit := do
  if d.2 = 0 then pure ()
  else
    let s ← get
    let p ← orThrow (s.participants.lookup d.1) .nilDereference
    let _ ← onLedger d.1 (Book.postTransaction now
      { idempotencyKey := c.id.mirrorKey d.1
        description := "Net settlement of cycle " ++ c.id.val
        entries := mirrorEntries p d.2 })

/-- The first two parts of `SettleCycle`: move the net positions between the
reserve accounts at the central bank, and mirror each in the bank's own
ledger. -/
def settlePositions (now : Time) (order₁ order₂ : MapOrder ParticipantID Amount)
    (c : ClearingCycle Amount) :
    Call (Network Amount) Err (Option Ledger.TransactionID) := do
  let s ← get
  let cbEntries ← Call.ofExcept
    ((order₁.toList c.netPositions).foldlM s.addSettlementEntry [])
  -- every position is zero: nothing is posted and nothing mirrored
  if cbEntries = [] then pure none
  else
    let tx ← onCentralBank (Book.postTransaction now
      { idempotencyKey := c.id.settleKey
        description := "Settlement of clearing cycle " ++ c.id.val
        entries := cbEntries })
    (order₂.toList c.netPositions).forM (mirrorPosition now c)
    pure (some tx.id)

/-- One step of the last loop of `SettleCycle`: the payee's bank releases the
funds from its suspense to the payee. -/
def postCreditorLeg (now : Time) (pid : PaymentID) :
    Call (Network Amount) Err Unit := do
  let s ← get
  let p ← orThrow (s.payments.lookup pid) .nilDereference
  let creditor ← orThrow (s.participants.lookup p.creditor.participant) .nilDereference
  let creditorGL ← Call.ofExcept (creditor.glAccount p.creditor.account)
  let tx ← onLedger p.creditor.participant (Book.postTransaction now
    { idempotencyKey := p.id.creditKey
      description := p.description
      valueDate := p.valueDate
      metadata := paymentMetadata p
      entries := transfer creditor.suspenseAccount creditorGL p.amount })
  -- the payment is a pointer: the leg stays recorded if the transition is refused
  let p : Payment Amount := { p with creditorLegTx := some tx.id }
  modify fun s => s.setPayment pid p
  let p ← transition p .settled
  modify fun s => s.setPayment pid p

/-- `SettleCycle`: settle a closed cycle. -/
def settleCycle (now : Time) (order₁ order₂ : MapOrder ParticipantID Amount)
    (id : CycleID) : Call (Network Amount) Err (Settlement Amount) := do
  let s ← get
  let c ← orThrow (s.cycles.lookup id) .cycleNotFound
  require (c.status = .closed) .cycleNotClosed
  let settlementTx ← settlePositions now order₁ order₂ c
  c.paymentIDs.forM (postCreditorLeg now)
  let sid ← nextID "set"
  let st : Settlement Amount := ⟨⟨sid⟩, c.id, c.netPositions, settlementTx, now, now⟩
  modify fun s => { s.setCycle id
      { c with status := .settled, settlementID := some st.id } with
    settlements := s.settlements.insert st.id st }
  pure st

end Operations

end Network

/-! ## Payments -/

/-- The parameters of `InitiatePayment`. -/
structure InitiatePaymentRequest (Amount : Type) where
  scheme : SchemeID
  debtor : PartyRef
  creditor : PartyRef
  amount : Amount
  mandateID : MandateID := ⟨""⟩
  endToEndID : String := ""
  description : String := ""
  metadata : GoMap String String := ∅

namespace Network

variable {Amount : Type} [AddCommGroup Amount] [LinearOrder Amount]

omit [AddCommGroup Amount] [LinearOrder Amount] in
/-- The payment `InitiatePayment` builds from a request. -/
def newPayment (now : Time) (req : InitiatePaymentRequest Amount) (id : PaymentID)
    (scheme : Scheme) (cycleID : CycleID) : Payment Amount where
  id := id
  scheme := req.scheme
  debtor := req.debtor
  creditor := req.creditor
  amount := req.amount
  mandateID := req.mandateID
  endToEndID := req.endToEndID
  status := .initiated
  rejectReason := ""
  cycleID := cycleID
  bookingDate := now
  valueDate := now.add scheme.settlementDelay
  description := req.description
  metadata := req.metadata
  createdAt := now
  debtorLegTx := none
  creditorLegTx := none

/-- `InitiatePayment`: validate a payment, post its debtor leg, and accept it
into the open cycle of its scheme. -/
def initiatePayment (now : Time) (req : InitiatePaymentRequest Amount) :
    Call (Network Amount) Err (Payment Amount) := do
  let s ← get
  let scheme ← orThrow (s.schemes.lookup req.scheme) .schemeNotFound
  require (0 < req.amount) .invalidPaymentAmount
  Call.ofExcept (s.checkParty req.debtor)
  Call.ofExcept (s.checkParty req.creditor)
  require (req.endToEndID = "" ∨ s.endToEndIndex.lookup req.endToEndID = none)
    .duplicateEndToEndID
  let cycleID ← orThrow (s.openCycle.lookup req.scheme) .cycleNotOpen
  -- the number is used up even when the payment is refused below
  let id ← nextID "pay"
  let p := newPayment now req ⟨id⟩ scheme cycleID
  let s ← get
  Call.ofExcept (scheme.validate s now p)
  let debtor ← orThrow (s.participants.lookup p.debtor.participant) .nilDereference
  let debtorGL ← Call.ofExcept (debtor.glAccount p.debtor.account)
  let tx ← onLedger p.debtor.participant (Book.postTransaction now
    { idempotencyKey := p.id.debitKey
      description := p.description
      bookingDate := now
      valueDate := p.valueDate
      metadata := paymentMetadata p
      entries := transfer debtorGL debtor.suspenseAccount p.amount })
  let p ← transition { p with debtorLegTx := some tx.id } .accepted
  let s ← get
  let cycle ← orThrow (s.cycles.lookup cycleID) .nilDereference
  modify fun s => { (s.setCycle cycleID
      { cycle with paymentIDs := cycle.paymentIDs ++ [p.id] }).setPayment p.id p with
    endToEndIndex :=
      if req.endToEndID = "" then s.endToEndIndex
      else s.endToEndIndex.insert req.endToEndID p.id }
  pure p

omit [LinearOrder Amount] [AddCommGroup Amount] in
/-- Reverse the debtor leg of a payment, if one was posted. -/
def reverseDebtorLeg (now : Time) (p : Payment Amount) (reason : String) :
    Call (Network Amount) Err Unit :=
  match p.debtorLegTx with
  | none => pure ()
  | some tx => do
    let _ ← onLedger p.debtor.participant (Book.reverseTransaction now tx
      ("Reject payment " ++ p.id.val ++ ": " ++ reason))

omit [LinearOrder Amount] [AddCommGroup Amount] in
/-- `removeFromCycle`: drop a payment from its cycle. -/
def removeFromCycle (s : Network Amount) (p : Payment Amount) : Network Amount :=
  match s.cycles.lookup p.cycleID with
  | none => s
  | some c => s.setCycle p.cycleID
      { c with paymentIDs := c.paymentIDs.filter (· ≠ p.id) }

omit [LinearOrder Amount] [AddCommGroup Amount] in
/-- `RejectPayment`: reject a payment before it has cleared. -/
def rejectPayment (now : Time) (id : PaymentID) (reason : String) :
    Call (Network Amount) Err (Payment Amount) := do
  let s ← get
  let p ← orThrow (s.payments.lookup id) .paymentNotFound
  -- before anything is posted: a cleared payment keeps its debtor leg
  require (p.status = .initiated ∨ p.status = .accepted) .invalidStateTransition
  reverseDebtorLeg now p reason
  modify fun s => s.removeFromCycle p
  let p ← transition p .rejected
  let p : Payment Amount := { p with rejectReason := reason }
  modify fun s => s.setPayment id p
  pure p

/-- `ReturnPayment`: move the funds of a settled payment back from the creditor
to the debtor, across the central bank. -/
def returnPayment (now : Time) (id : PaymentID) (reason : String) :
    Call (Network Amount) Err (Payment Amount) := do
  let s ← get
  let p ← orThrow (s.payments.lookup id) .paymentNotFound
  require (∃ sc ∈ s.schemes.lookup p.scheme, sc.allowsReturn)
    .schemeUnsupportedReturn
  require (p.status = .settled) .invalidStateTransition
  let debtor ← orThrow (s.participants.lookup p.debtor.participant) .nilDereference
  let creditor ← orThrow (s.participants.lookup p.creditor.participant) .nilDereference
  let debtorGL ← Call.ofExcept (debtor.glAccount p.debtor.account)
  let creditorGL ← Call.ofExcept (creditor.glAccount p.creditor.account)
  -- the refund stands if one of the next two postings is refused
  let _ ← onLedger p.debtor.participant (Book.postTransaction now
    { idempotencyKey := p.id.returnDebitKey
      description := "Return of payment " ++ p.id.val ++ ": " ++ reason
      entries := transfer debtor.reserveAccount debtorGL p.amount })
  let _ ← onLedger p.creditor.participant (Book.postTransaction now
    { idempotencyKey := p.id.returnCreditKey
      description := "Return of payment " ++ p.id.val ++ ": " ++ reason
      entries := transfer creditorGL creditor.reserveAccount p.amount })
  let _ ← onCentralBank (Book.postTransaction now
    { idempotencyKey := p.id.returnSettleKey
      description := "Return settlement for payment " ++ p.id.val
      entries := transfer creditor.settlementAccount debtor.settlementAccount
        p.amount })
  let p ← transition p .returned
  let p : Payment Amount := { p with rejectReason := reason }
  modify fun s => s.setPayment id p
  pure p

end Network

end CoreBanking.Payment
