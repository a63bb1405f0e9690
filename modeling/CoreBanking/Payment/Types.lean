import CoreBanking.Deposit.Types
import Mathlib.Data.String.Basic

/-!
# The payment network: data (types.go, errors.go)

Where the code leaves an id empty to mean "none" (the leg references of a
payment, the settlement of a cycle, the transaction of a settlement), the model
has an option. Ids and texts that a client passes in stay strings.
-/

namespace CoreBanking.Payment

structure ParticipantID where
  val : String
deriving DecidableEq, Repr

/-- Banks in the order of their ids. -/
instance : LinearOrder ParticipantID :=
  LinearOrder.lift' ParticipantID.val fun ⟨_⟩ ⟨_⟩ h => congrArg ParticipantID.mk h

structure PaymentID where
  val : String
deriving DecidableEq, Repr

structure MandateID where
  val : String
deriving DecidableEq, Repr

structure CycleID where
  val : String
deriving DecidableEq, Repr

structure SettlementID where
  val : String
deriving DecidableEq, Repr

structure SchemeID where
  val : String
deriving DecidableEq, Repr

/-- Who initiates a payment. -/
inductive SchemeDirection where
  | push
  | pull
deriving DecidableEq, Repr

/-- How a scheme settles between banks. -/
inductive SettlementModel where
  | net
  | gross
deriving DecidableEq, Repr

/-- The lifecycle of a payment. -/
inductive PaymentStatus where
  | initiated
  | accepted
  | cleared
  | settled
  | rejected
  | returned
deriving DecidableEq, Repr

inductive MandateStatus where
  | active
  | revoked
deriving DecidableEq, Repr

/-- The lifecycle of a clearing cycle. -/
inductive CycleStatus where
  | open
  | closed
  | settled
deriving DecidableEq, Repr

/-- One side of a payment: a customer deposit account at a bank. -/
structure PartyRef where
  participant : ParticipantID
  account : Deposit.AccountID
  iban : String := ""
deriving DecidableEq, Repr

set_option linter.dupNamespace false in
/-- An instruction to move funds from a debtor to a creditor. -/
structure Payment (Amount : Type) where
  id : PaymentID
  scheme : SchemeID
  debtor : PartyRef
  creditor : PartyRef
  amount : Amount
  /-- Empty unless the scheme asks for a mandate. -/
  mandateID : MandateID
  endToEndID : String
  status : PaymentStatus
  rejectReason : String
  cycleID : CycleID
  bookingDate : Time
  valueDate : Time
  description : String
  metadata : GoMap String String
  createdAt : Time
  debtorLegTx : Option Ledger.TransactionID
  creditorLegTx : Option Ledger.TransactionID

/-- A debtor's authorization for a creditor to pull funds. -/
structure Mandate (Amount : Type) where
  id : MandateID
  debtor : PartyRef
  creditor : PartyRef
  /-- 0 means unlimited. -/
  maxAmount : Amount
  status : MandateStatus
  createdAt : Time
deriving DecidableEq, Repr

/-- Accepted payments of one scheme, netted at its cut-off. -/
structure ClearingCycle (Amount : Type) where
  id : CycleID
  scheme : SchemeID
  status : CycleStatus
  paymentIDs : List PaymentID
  /-- Positive for a net receiver, negative for a net payer. -/
  netPositions : GoMap ParticipantID Amount
  openedAt : Time
  closedAt : Time
  settlementID : Option SettlementID

/-- The record of a cycle's net positions being moved across reserves. -/
structure Settlement (Amount : Type) where
  id : SettlementID
  cycleID : CycleID
  netPositions : GoMap ParticipantID Amount
  settlementTx : Option Ledger.TransactionID
  valueDate : Time
  settledAt : Time

/-- The sentinel errors of the package, the errors of the two layers below that
it passes on, and the run-time panic of reading through a missing map entry. -/
inductive Err where
  | participantNotFound
  | paymentNotFound
  | schemeNotFound
  | mandateNotFound
  | mandateRequired
  | mandateRevoked
  | mandateMismatch
  | mandateExceeded
  | invalidPaymentAmount
  | invalidStateTransition
  | cycleNotOpen
  | cycleNotClosed
  | cycleAlreadyOpen
  | cycleNotFound
  | settlementNotFound
  | schemeUnsupportedReturn
  | accountNotInParticipant
  | duplicateEndToEndID
  | ledger (e : Ledger.Err)
  | deposit (e : Deposit.Err)
  | nilDereference
deriving DecidableEq, Repr

/-- The error of the ledger that an error passes on. -/
def Err.ofLedger : Err → Option Ledger.Err
  | .ledger e => some e
  | _ => none

end CoreBanking.Payment
