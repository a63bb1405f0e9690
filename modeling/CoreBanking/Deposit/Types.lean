import CoreBanking.Ledger.Types

/-!
# The deposit layer: data (types.go, errors.go)

Customer demand-deposit accounts, each backed by a Liability account of the
general ledger, and the authorization holds on them.
-/

namespace CoreBanking.Deposit

structure AccountID where
  val : String
deriving DecidableEq, Repr

structure HoldID where
  val : String
deriving DecidableEq, Repr

/-- The lifecycle of a deposit account. -/
inductive AccountStatus where
  | active
  | dormant
  | frozen
  | closed
deriving DecidableEq, Repr

/-- A customer demand-deposit account. -/
structure Account (Amount : Type) where
  id : AccountID
  /-- The backing Liability account in the general ledger. -/
  glAccount : Ledger.AccountID
  name : String
  status : AccountStatus
  overdraftLimit : Amount
  createdAt : Time
deriving DecidableEq, Repr

/-- The lifecycle of a hold. -/
inductive HoldStatus where
  | active
  | released
  | captured
deriving DecidableEq, Repr

/-- A pending authorization. -/
structure Hold (Amount : Type) where
  id : HoldID
  accountID : AccountID
  amount : Amount
  /-- The zero time if the hold does not expire. -/
  expiresAt : Time
  description : String
  status : HoldStatus
  createdAt : Time
deriving DecidableEq, Repr

/-- The balances of a deposit account. -/
structure Balance (Amount : Type) where
  book : Amount
  holds : Amount
  available : Amount
deriving DecidableEq, Repr

/-- A record of a balance for a business day. -/
structure Snapshot (Amount : Type) where
  accountID : AccountID
  date : Time
  balance : Balance Amount
  takenAt : Time
deriving DecidableEq, Repr

/-- The parameters of `CreateHold`. -/
structure CreateHoldRequest (Amount : Type) where
  accountID : AccountID
  amount : Amount
  expiresAt : Time := Time.zero
  description : String := ""

inductive AuditEventType where
  | accountOpened
  | accountFrozen
  | accountUnfrozen
  | accountClosed
  | accountDormant
  | accountReactivated
  | holdCreated
  | holdReleased
  | holdCaptured
  | snapshotTaken
deriving DecidableEq, Repr

/-- What an audit event carries. Accounts and holds are logged by a pointer to
the stored record, so their payload is a reference. A snapshot record is never
written to again, so its payload is the record. -/
inductive Payload (Amount : Type) where
  | account (ref : AccountID)
  | hold (ref : HoldID)
  | capture (holdID : HoldID) (transactionID : Ledger.TransactionID)
  | snapshot (snap : Snapshot Amount)
deriving DecidableEq, Repr

structure AuditEvent (Amount : Type) where
  id : String
  timestamp : Time
  type : AuditEventType
  entityID : String
  payload : Payload Amount
deriving DecidableEq, Repr

/-- The sentinel errors of the package, the errors of the ledger that it passes
on, and the run-time panic of reading through a missing map entry. -/
inductive Err where
  | accountNotFound
  | holdNotFound
  | holdNotActive
  | snapshotNotFound
  | invalidAmount
  | insufficientAvailable
  | accountFrozen
  | accountClosed
  | accountNotEmpty
  | invalidStatusTransition
  | ledger (e : Ledger.Err)
  | nilDereference
deriving DecidableEq, Repr

end CoreBanking.Deposit
