import CoreBanking.Api.Errors
import CoreBanking.Base.Calendar
import CoreBanking.Concurrent.Network
import CoreBanking.Deposit.List
import CoreBanking.Ledger.List
import CoreBanking.Payment.List

/-!
# The handlers of the API (server.go, handlers_*.go)

A handler looks its bank up under the lock of the network, reads the body of the request, calls
the domain, and writes what it returns. The calls of one handler are sections of their own:
other requests come between them.

- `Request`: the routes, with the path, the query and the decoded body of a request;
- `handle*`: the handlers, and `handle` the one of a request;
- `serve`: the response to a request. Every request is answered.
-/

namespace CoreBanking.Api

open Concurrent
open Ledger (Book)
open Payment (Network Participant)

variable {Amount α : Type}

/-! ## What Go leaves open -/

/-- How a listing goes over a map, and how it sorts. -/
structure Visit (K V : Type) where
  order : MapOrder K V
  sorter : SliceSort V

/-- The choices that Go makes in one request. -/
structure Choices (Amount : Type) where
  ledgers : Visit Ledger.LedgerID Ledger.Ledger
  subledgers : Visit Ledger.SubledgerID Ledger.Subledger
  accounts : Visit Ledger.AccountID Ledger.Account
  transactions : Visit Ledger.TransactionID (Ledger.Transaction Amount)
  depositAccounts : Visit Deposit.AccountID (Deposit.Account Amount)
  holds : SliceSort (Deposit.Hold Amount)
  snapshots : Visit Int (Deposit.Snapshot Amount)
  participants : Visit Payment.ParticipantID (Participant Amount)
  schemes : Visit Payment.SchemeID Payment.Scheme
  payments : Visit Payment.PaymentID (Payment.Payment Amount)
  mandates : Visit Payment.MandateID (Payment.Mandate Amount)
  cycles : Visit Payment.CycleID (Payment.ClearingCycle Amount)
  settlements : Visit Payment.SettlementID (Payment.Settlement Amount)
  /-- The two loops of a settlement. -/
  positions₁ : MapOrder Payment.ParticipantID Amount
  positions₂ : MapOrder Payment.ParticipantID Amount
  /-- The characters outside ASCII that are printed as they are (`quote`). -/
  printable : Char → Bool

/-! ## Requests -/

/-- The body of a request, or why it could not be decoded (`decodeJSON`). -/
abbrev Decoded (α : Type) : Type := Except String α

/-- The routes of the server. -/
inductive Request (Amount : Type) where
  | addParticipant (body : Decoded NameRequest)
  | listParticipants
  | getParticipant (pid : String)
  | fundDeposit (pid : String) (body : Decoded (FundRequest Amount))
  | listSchemes
  | listReserves
  | getReserve (pid : String)
  | centralBankAudit
  | createLedger (pid : String) (body : Decoded NameRequest)
  | listLedgers (pid : String)
  | getLedger (pid lid : String)
  | createSubledger (pid lid : String) (body : Decoded NameRequest)
  | listSubledgers (pid lid : String)
  | getSubledger (pid sid : String)
  | createAccount (pid sid : String) (body : Decoded CreateAccountRequest)
  | listAccounts (pid sid : String)
  | getAccount (pid aid : String)
  | bookBalance (pid aid : String)
  | postTransaction (pid : String) (body : Decoded (PostTransactionRequestDTO Amount))
  | listTransactions (pid account : String)
  | getTransaction (pid tid : String)
  | reverseTransaction (pid tid : String) (body : Decoded DescriptionRequest)
  | ledgerAudit (pid entity : String)
  | openDepositAccount (pid : String) (body : Decoded (OpenDepositAccountRequest Amount))
  | listDepositAccounts (pid : String)
  | getDepositAccount (pid did : String)
  | depositBalance (pid did : String)
  | depositStatus (pid did : String) (body : Decoded StatusRequest)
  | closeDepositAccount (pid did : String)
  | createHold (pid did : String) (body : Decoded (CreateHoldRequestDTO Amount))
  | listHolds (pid did : String)
  | getHold (pid hid : String)
  | releaseHold (pid hid : String)
  | captureHold (pid hid : String) (body : Decoded (CaptureHoldRequest Amount))
  | takeSnapshot (pid did : String) (body : Decoded SnapshotRequest)
  | getSnapshots (pid did date : String)
  | depositAudit (pid : String)
  | createMandate (body : Decoded (CreateMandateRequest Amount))
  | listMandates
  | getMandate (mid : String)
  | revokeMandate (mid : String)
  | initiatePayment (body : Decoded (InitiatePaymentRequestDTO Amount))
  | listPayments
  | getPayment (payid : String)
  | rejectPayment (payid : String) (body : Decoded ReasonRequest)
  | returnPayment (payid : String) (body : Decoded ReasonRequest)
  | openCycle (body : Decoded OpenCycleRequest)
  | listCycles
  | getCycle (cid : String)
  | closeCycle (cid : String)
  | settleCycle (cid : String)
  | listSettlements
  | getSettlement (sid : String)

/-! ## Parts of handlers -/

/-- What a handler does, until it has a response or refuses the request. -/
abbrev Handling (Amount α : Type) : Type := Prog Lock Time (Network Amount) Refusal α

/-- A call on the domain. -/
def call (p : Program Amount α) : Handling Amount α := p.mapError .error

/-- What is not in order before the domain is called. -/
def orBadRequest (x : Except String α) : Handling Amount α :=
  .ofExcept (x.mapError .badRequest)

/-- `participant`: the bank in the path. -/
def participant (pid : String) : Handling Amount (Participant Amount) :=
  call (query fun s => s.getParticipant ⟨pid⟩)

/-- A look at the ledger of a bank, for a bank that has been found. -/
def readLedger (pid : String) (f : Book Amount → Except Ledger.Err α) : Handling Amount α :=
  call (onLedger ⟨pid⟩ .read fun _ => .reading f)

/-- A look at the register of a bank, for a bank that has been found. -/
def readDeposit (pid : String) (f : Deposit.Register Amount → Except Deposit.Err α) :
    Handling Amount α :=
  call (onRegister ⟨pid⟩ .read fun _ => .reading f)

/-- `time.Parse("2006-01-02", date)`, or why it is refused. -/
def parseDay (date : String) : Except String Time :=
  match parseDate date with
  | some d => .ok d.midnight
  | none => .error "invalid date (want YYYY-MM-DD)"

/-! ## Participants and the central bank -/

def handleAddParticipant (body : Decoded NameRequest) : Handling Amount (Response Amount) := do
  let req ← orBadRequest body
  let p ← call (addParticipant req.name)
  pure (created (.participant (toParticipantDTO p)))

def handleListParticipants (c : Choices Amount) : Handling Amount (Response Amount) := do
  let parts ← call (query fun s =>
    .ok (s.listParticipants c.participants.order c.participants.sorter))
  pure (listOK (parts.map fun p => .participant (toParticipantDTO p)))

def handleGetParticipant (pid : String) : Handling Amount (Response Amount) := do
  let p ← participant pid
  pure (ok (.participant (toParticipantDTO p)))

def handleListSchemes (c : Choices Amount) : Handling Amount (Response Amount) := do
  let schemes ← call (query fun s => .ok (s.listSchemes c.schemes.order c.schemes.sorter))
  pure (listOK (schemes.map fun sc => .scheme (toSchemeDTO sc)))

def handleCentralBankAudit : Handling Amount (Response Amount) := do
  let events ← call (onCentralBank .read fun _ => .reading fun b => .ok b.getAuditLog)
  pure (listOK (events.map fun e => .auditEvent (toLedgerAuditDTO e)))

/-! ## Ledgers -/

def handleCreateLedger (pid : String) (body : Decoded NameRequest) :
    Handling Amount (Response Amount) := do
  let _ ← participant pid
  let req ← orBadRequest body
  let l ← call (onLedger ⟨pid⟩ .write fun now => Book.createLedger now req.name)
  pure (created (.ledger (toLedgerDTO l)))

def handleListLedgers (c : Choices Amount) (pid : String) :
    Handling Amount (Response Amount) := do
  let _ ← participant pid
  let ledgers ← readLedger pid fun b => .ok (b.listLedgers c.ledgers.order c.ledgers.sorter)
  pure (listOK (ledgers.map fun l => .ledger (toLedgerDTO l)))

def handleGetLedger (pid lid : String) : Handling Amount (Response Amount) := do
  let _ ← participant pid
  let l ← readLedger pid fun b => b.getLedger ⟨lid⟩
  pure (ok (.ledger (toLedgerDTO l)))

def handleCreateSubledger (pid lid : String) (body : Decoded NameRequest) :
    Handling Amount (Response Amount) := do
  let _ ← participant pid
  let req ← orBadRequest body
  let sl ← call (onLedger ⟨pid⟩ .write fun now => Book.createSubledger now ⟨lid⟩ req.name)
  pure (created (.subledger (toSubledgerDTO sl)))

def handleListSubledgers (c : Choices Amount) (pid lid : String) :
    Handling Amount (Response Amount) := do
  let _ ← participant pid
  let subs ← readLedger pid fun b =>
    .ok (b.listSubledgers c.subledgers.order c.subledgers.sorter ⟨lid⟩)
  pure (listOK (subs.map fun sl => .subledger (toSubledgerDTO sl)))

def handleGetSubledger (pid sid : String) : Handling Amount (Response Amount) := do
  let _ ← participant pid
  let sl ← readLedger pid fun b => b.getSubledger ⟨sid⟩
  pure (ok (.subledger (toSubledgerDTO sl)))

def handleCreateAccount (c : Choices Amount) (pid sid : String)
    (body : Decoded CreateAccountRequest) : Handling Amount (Response Amount) := do
  let _ ← participant pid
  let req ← orBadRequest body
  let acctType ← orBadRequest (accountTypeFromString c.printable req.type)
  let acct ← call (onLedger ⟨pid⟩ .write fun now =>
    Book.createAccount now ⟨sid⟩ req.name acctType)
  pure (created (.account (toAccountDTO acct)))

def handleListAccounts (c : Choices Amount) (pid sid : String) :
    Handling Amount (Response Amount) := do
  let _ ← participant pid
  let accts ← readLedger pid fun b =>
    .ok (b.listAccounts c.accounts.order c.accounts.sorter ⟨sid⟩)
  pure (listOK (accts.map fun a => .account (toAccountDTO a)))

def handleGetAccount (pid aid : String) : Handling Amount (Response Amount) := do
  let _ ← participant pid
  let acct ← readLedger pid fun b => b.getAccount ⟨aid⟩
  pure (ok (.account (toAccountDTO acct)))

def handleListTransactions (c : Choices Amount) (pid account : String) :
    Handling Amount (Response Amount) := do
  let _ ← participant pid
  let txs ← readLedger pid fun b => .ok (
    if account ≠ "" then
      b.listTransactionsForAccount c.transactions.order c.transactions.sorter ⟨account⟩
    else b.listTransactions c.transactions.order c.transactions.sorter)
  pure (listOK (txs.map fun tx => .transaction (toTransactionDTO tx)))

def handleGetTransaction (pid tid : String) : Handling Amount (Response Amount) := do
  let _ ← participant pid
  let tx ← readLedger pid fun b => b.getTransaction ⟨tid⟩
  pure (ok (.transaction (toTransactionDTO tx)))

def handleReverseTransaction (pid tid : String) (body : Decoded DescriptionRequest) :
    Handling Amount (Response Amount) := do
  let _ ← participant pid
  let req ← orBadRequest body
  let tx ← call (onLedger ⟨pid⟩ .write fun now =>
    Book.reverseTransaction now ⟨tid⟩ req.description)
  pure (created (.transaction (toTransactionDTO tx)))

def handleLedgerAudit (pid entity : String) : Handling Amount (Response Amount) := do
  let _ ← participant pid
  let events ← readLedger pid fun b =>
    .ok (if entity ≠ "" then b.getAuditLogForEntity entity else b.getAuditLog)
  pure (listOK (events.map fun e => .auditEvent (toLedgerAuditDTO e)))

/-! ## Deposit accounts -/

def handleOpenDepositAccount (pid : String) (body : Decoded (OpenDepositAccountRequest Amount)) :
    Handling Amount (Response Amount) := do
  let p ← participant pid
  let req ← orBadRequest body
  let acct ← call (openAccount ⟨pid⟩ p.customerSubledger req.name req.overdraftLimit)
  pure (created (.depositAccount (toDepositAccountDTO acct)))

def handleListDepositAccounts (c : Choices Amount) (pid : String) :
    Handling Amount (Response Amount) := do
  let _ ← participant pid
  let accts ← readDeposit pid fun r =>
    .ok (r.listAccounts c.depositAccounts.order c.depositAccounts.sorter)
  pure (listOK (accts.map fun a => .depositAccount (toDepositAccountDTO a)))

def handleGetDepositAccount (pid did : String) : Handling Amount (Response Amount) := do
  let _ ← participant pid
  let acct ← call (getAccount ⟨pid⟩ ⟨did⟩)
  pure (ok (.depositAccount (toDepositAccountDTO acct)))

/-- The transition that an action asks for. -/
def statusCall (pid did action : String) : Handling Amount Unit :=
  if action = "freeze" then call (freeze ⟨pid⟩ ⟨did⟩)
  else if action = "unfreeze" then call (unfreeze ⟨pid⟩ ⟨did⟩)
  else if action = "markDormant" then call (markDormant ⟨pid⟩ ⟨did⟩)
  else if action = "reactivate" then call (reactivate ⟨pid⟩ ⟨did⟩)
  else .fail (.badRequest "invalid action (want freeze, unfreeze, markDormant, or reactivate)")

def handleDepositStatus (pid did : String) (body : Decoded StatusRequest) :
    Handling Amount (Response Amount) := do
  let _ ← participant pid
  let req ← orBadRequest body
  statusCall pid did req.action
  let acct ← call (getAccount ⟨pid⟩ ⟨did⟩)
  pure (ok (.depositAccount (toDepositAccountDTO acct)))

def handleListHolds (c : Choices Amount) (pid did : String) :
    Handling Amount (Response Amount) := do
  let _ ← participant pid
  let holds ← readDeposit pid fun r => .ok (r.listHolds c.holds ⟨did⟩)
  pure (listOK (holds.map fun h => .hold (toHoldDTO h)))

def handleGetHold (pid hid : String) : Handling Amount (Response Amount) := do
  let _ ← participant pid
  let h ← readDeposit pid fun r => r.getHold ⟨hid⟩
  pure (ok (.hold (toHoldDTO h)))

def handleReleaseHold (pid hid : String) : Handling Amount (Response Amount) := do
  let _ ← participant pid
  call (releaseHold ⟨pid⟩ ⟨hid⟩)
  pure noContent

def handleGetSnapshots (c : Choices Amount) (pid did date : String) :
    Handling Amount (Response Amount) := do
  let _ ← participant pid
  if date ≠ "" then
    let day ← orBadRequest (parseDay date)
    let snap ← call (getSnapshot ⟨pid⟩ ⟨did⟩ day)
    pure (ok (.snapshot (toSnapshotDTO snap)))
  else
    let snaps ← readDeposit pid fun r =>
      .ok (r.listSnapshots c.snapshots.order c.snapshots.sorter ⟨did⟩)
    pure (listOK (snaps.map fun s => .snapshot (toSnapshotDTO s)))

def handleDepositAudit (pid : String) : Handling Amount (Response Amount) := do
  let _ ← participant pid
  let events ← readDeposit pid fun r => .ok r.getAuditLog
  pure (listOK (events.map fun e => .auditEvent (toDepositAuditDTO e)))

/-! ## Mandates, payments and cycles -/

def handleCreateMandate (body : Decoded (CreateMandateRequest Amount)) :
    Handling Amount (Response Amount) := do
  let req ← orBadRequest body
  let m ← call (createMandate req.debtor.toDomain req.creditor.toDomain req.maxAmount)
  pure (created (.mandate (toMandateDTO m)))

def handleListMandates (c : Choices Amount) : Handling Amount (Response Amount) := do
  let mandates ← call (query fun s => .ok (s.listMandates c.mandates.order c.mandates.sorter))
  pure (listOK (mandates.map fun m => .mandate (toMandateDTO m)))

def handleGetMandate (mid : String) : Handling Amount (Response Amount) := do
  let m ← call (query fun s => s.getMandate ⟨mid⟩)
  pure (ok (.mandate (toMandateDTO m)))

def handleRevokeMandate (mid : String) : Handling Amount (Response Amount) := do
  call (revokeMandate ⟨mid⟩)
  let m ← call (query fun s => s.getMandate ⟨mid⟩)
  pure (ok (.mandate (toMandateDTO m)))

def handleListPayments (c : Choices Amount) : Handling Amount (Response Amount) := do
  let payments ← call (query fun s => .ok (s.listPayments c.payments.order c.payments.sorter))
  pure (listOK (payments.map fun p => .payment (toPaymentDTO p)))

def handleGetPayment (payid : String) : Handling Amount (Response Amount) := do
  let p ← call (query fun s => s.getPayment ⟨payid⟩)
  pure (ok (.payment (toPaymentDTO p)))

def handleRejectPayment (payid : String) (body : Decoded ReasonRequest) :
    Handling Amount (Response Amount) := do
  let req ← orBadRequest body
  let p ← call (rejectPayment ⟨payid⟩ req.reason)
  pure (ok (.payment (toPaymentDTO p)))

def handleOpenCycle (body : Decoded OpenCycleRequest) : Handling Amount (Response Amount) := do
  let req ← orBadRequest body
  let c ← call (openCycleFor ⟨req.scheme⟩)
  pure (created (.clearingCycle (toClearingCycleDTO c)))

def handleListCycles (c : Choices Amount) : Handling Amount (Response Amount) := do
  let cycles ← call (query fun s => .ok (s.listCycles c.cycles.order c.cycles.sorter))
  pure (listOK (cycles.map fun cy => .clearingCycle (toClearingCycleDTO cy)))

def handleGetCycle (cid : String) : Handling Amount (Response Amount) := do
  let c ← call (query fun s => s.getCycle ⟨cid⟩)
  pure (ok (.clearingCycle (toClearingCycleDTO c)))

def handleListSettlements (c : Choices Amount) : Handling Amount (Response Amount) := do
  let settlements ← call (query fun s =>
    .ok (s.listSettlements c.settlements.order c.settlements.sorter))
  pure (listOK (settlements.map fun st => .settlement (toSettlementDTO st)))

def handleGetSettlement (sid : String) : Handling Amount (Response Amount) := do
  let st ← call (query fun s => s.getSettlement ⟨sid⟩)
  pure (ok (.settlement (toSettlementDTO st)))

/-! ## Balances and money -/

section Money

variable [AddCommGroup Amount]

/-- One step of the loop of `handleListReserves`. -/
def reserveOf (p : Participant Amount) : Handling Amount (DTO Amount) := do
  let bal ← call (reserveBalance p.id)
  pure (.reserve ⟨p.id.val, bal⟩)

def handleListReserves (c : Choices Amount) : Handling Amount (Response Amount) := do
  let parts ← call (query fun s =>
    .ok (s.listParticipants c.participants.order c.participants.sorter))
  let out ← parts.mapM reserveOf
  pure (listOK out)

def handleGetReserve (pid : String) : Handling Amount (Response Amount) := do
  let bal ← call (reserveBalance ⟨pid⟩)
  pure (ok (.reserve ⟨pid, bal⟩))

def handleBookBalance (pid aid : String) : Handling Amount (Response Amount) := do
  let _ ← participant pid
  let bal ← readLedger pid fun b => b.bookBalance ⟨aid⟩
  pure (ok (.bookBalance aid bal))

def handleDepositBalance (pid did : String) : Handling Amount (Response Amount) := do
  let _ ← participant pid
  let bal ← call (getBalance ⟨pid⟩ ⟨did⟩)
  pure (ok (.balance (toBalanceDTO bal)))

def handleCloseCycle (cid : String) : Handling Amount (Response Amount) := do
  let c ← call (closeCycle ⟨cid⟩)
  pure (ok (.clearingCycle (toClearingCycleDTO c)))

def handleTakeSnapshot (pid did : String) (body : Decoded SnapshotRequest) :
    Handling Amount (Response Amount) := do
  let _ ← participant pid
  let req ← orBadRequest body
  let day ← orBadRequest (parseDay req.date)
  let snap ← call (takeEndOfDaySnapshot ⟨pid⟩ ⟨did⟩ day)
  pure (created (.snapshot (toSnapshotDTO snap)))

variable [LinearOrder Amount]

def handleFundDeposit (pid : String) (body : Decoded (FundRequest Amount)) :
    Handling Amount (Response Amount) := do
  let p ← participant pid
  let req ← orBadRequest body
  call (deposit p.id ⟨req.account⟩ req.amount req.description)
  let bal ← call (getBalance ⟨pid⟩ ⟨req.account⟩)
  pure (ok (.balance (toBalanceDTO bal)))

def handlePostTransaction (c : Choices Amount) (pid : String)
    (body : Decoded (PostTransactionRequestDTO Amount)) :
    Handling Amount (Response Amount) := do
  let _ ← participant pid
  let req ← orBadRequest body
  let domainReq ← orBadRequest (req.toDomain c.printable)
  let tx ← call (onLedger ⟨pid⟩ .write fun now => Book.postTransaction now domainReq)
  pure (created (.transaction (toTransactionDTO tx)))

def handleCloseDepositAccount (pid did : String) : Handling Amount (Response Amount) := do
  let _ ← participant pid
  call (close ⟨pid⟩ ⟨did⟩)
  pure noContent

def handleCreateHold (pid did : String) (body : Decoded (CreateHoldRequestDTO Amount)) :
    Handling Amount (Response Amount) := do
  let _ ← participant pid
  let req ← orBadRequest body
  let h ← call (createHold ⟨pid⟩
    { accountID := ⟨did⟩
      amount := req.amount
      expiresAt := req.expiresAt.getD Time.zero
      description := req.description })
  pure (created (.hold (toHoldDTO h)))

def handleCaptureHold (pid hid : String) (body : Decoded (CaptureHoldRequest Amount)) :
    Handling Amount (Response Amount) := do
  let _ ← participant pid
  let req ← orBadRequest body
  let tx ← call (captureHold ⟨pid⟩ ⟨hid⟩ ⟨req.counterparty⟩ req.amount req.description)
  pure (created (.transaction (toTransactionDTO tx)))

def handleInitiatePayment (body : Decoded (InitiatePaymentRequestDTO Amount)) :
    Handling Amount (Response Amount) := do
  let req ← orBadRequest body
  let p ← call (initiatePayment req.toDomain)
  pure (created (.payment (toPaymentDTO p)))

def handleReturnPayment (payid : String) (body : Decoded ReasonRequest) :
    Handling Amount (Response Amount) := do
  let req ← orBadRequest body
  let p ← call (returnPayment ⟨payid⟩ req.reason)
  pure (ok (.payment (toPaymentDTO p)))

def handleSettleCycle (c : Choices Amount) (cid : String) :
    Handling Amount (Response Amount) := do
  let settlement ← call (settleCycle c.positions₁ c.positions₂ ⟨cid⟩)
  pure (ok (.settlement (toSettlementDTO settlement)))

/-! ## The server -/

/-- The handler of a request. -/
def handle (c : Choices Amount) : Request Amount → Handling Amount (Response Amount)
  | .addParticipant body => handleAddParticipant body
  | .listParticipants => handleListParticipants c
  | .getParticipant pid => handleGetParticipant pid
  | .fundDeposit pid body => handleFundDeposit pid body
  | .listSchemes => handleListSchemes c
  | .listReserves => handleListReserves c
  | .getReserve pid => handleGetReserve pid
  | .centralBankAudit => handleCentralBankAudit
  | .createLedger pid body => handleCreateLedger pid body
  | .listLedgers pid => handleListLedgers c pid
  | .getLedger pid lid => handleGetLedger pid lid
  | .createSubledger pid lid body => handleCreateSubledger pid lid body
  | .listSubledgers pid lid => handleListSubledgers c pid lid
  | .getSubledger pid sid => handleGetSubledger pid sid
  | .createAccount pid sid body => handleCreateAccount c pid sid body
  | .listAccounts pid sid => handleListAccounts c pid sid
  | .getAccount pid aid => handleGetAccount pid aid
  | .bookBalance pid aid => handleBookBalance pid aid
  | .postTransaction pid body => handlePostTransaction c pid body
  | .listTransactions pid account => handleListTransactions c pid account
  | .getTransaction pid tid => handleGetTransaction pid tid
  | .reverseTransaction pid tid body => handleReverseTransaction pid tid body
  | .ledgerAudit pid entity => handleLedgerAudit pid entity
  | .openDepositAccount pid body => handleOpenDepositAccount pid body
  | .listDepositAccounts pid => handleListDepositAccounts c pid
  | .getDepositAccount pid did => handleGetDepositAccount pid did
  | .depositBalance pid did => handleDepositBalance pid did
  | .depositStatus pid did body => handleDepositStatus pid did body
  | .closeDepositAccount pid did => handleCloseDepositAccount pid did
  | .createHold pid did body => handleCreateHold pid did body
  | .listHolds pid did => handleListHolds c pid did
  | .getHold pid hid => handleGetHold pid hid
  | .releaseHold pid hid => handleReleaseHold pid hid
  | .captureHold pid hid body => handleCaptureHold pid hid body
  | .takeSnapshot pid did body => handleTakeSnapshot pid did body
  | .getSnapshots pid did date => handleGetSnapshots c pid did date
  | .depositAudit pid => handleDepositAudit pid
  | .createMandate body => handleCreateMandate body
  | .listMandates => handleListMandates c
  | .getMandate mid => handleGetMandate mid
  | .revokeMandate mid => handleRevokeMandate mid
  | .initiatePayment body => handleInitiatePayment body
  | .listPayments => handleListPayments c
  | .getPayment payid => handleGetPayment payid
  | .rejectPayment payid body => handleRejectPayment payid body
  | .returnPayment payid body => handleReturnPayment payid body
  | .openCycle body => handleOpenCycle body
  | .listCycles => handleListCycles c
  | .getCycle cid => handleGetCycle cid
  | .closeCycle cid => handleCloseCycle cid
  | .settleCycle cid => handleSettleCycle c cid
  | .listSettlements => handleListSettlements c
  | .getSettlement sid => handleGetSettlement sid

/-- The response to a request. A handler that refuses it, or panics, is answered for. -/
def serve (c : Choices Amount) (req : Request Amount) :
    Prog Lock Time (Network Amount) Empty (Response Amount) :=
  (handle c req).recover Refusal.response

end Money

end CoreBanking.Api
