import CoreBanking.Base.GoMap
import CoreBanking.Base.Time

/-!
# The general ledger: data (types.go, errors.go)

Amounts are a type parameter. The code uses `int64`, whose addition wraps; the
accounting results are about exact integers. Both are additive groups with a
decidable order, which is all the ledger asks of them.

Where the code leaves an id empty to mean "none" (`ReversalOf`), the model has
an option; the client's idempotency key stays a string, empty when absent.
-/

namespace CoreBanking.Ledger

structure LedgerID where
  val : String
deriving DecidableEq, Repr

structure SubledgerID where
  val : String
deriving DecidableEq, Repr

structure AccountID where
  val : String
deriving DecidableEq, Repr

structure TransactionID where
  val : String
deriving DecidableEq, Repr

structure EntryID where
  val : String
deriving DecidableEq, Repr

/-- Whether an entry is a debit or a credit. Go's type is an `int`, and nothing keeps a
caller from a value other than the two constants: `other` counts these values off. -/
inductive Direction where
  | debit
  | credit
  | other (code : ℕ)
deriving DecidableEq, Repr

namespace Direction

/-- The opposite direction. -/
def opposite : Direction → Direction
  | .debit => .credit
  | _ => .debit

/-- One of the constants. -/
def Declared : Direction → Prop
  | .other _ => False
  | _ => True

instance : DecidablePred Declared
  | .debit => .isTrue trivial
  | .credit => .isTrue trivial
  | .other _ => .isFalse not_false

/-- The side on which `validateBalance` counts a direction, which `String` calls it by. -/
def counted : Direction → Direction
  | .debit => .debit
  | _ => .credit

/-- There is a constant on the other side of anything. -/
theorem declared_opposite (d : Direction) : d.opposite.Declared := by
  cases d <;> trivial

end Direction

/-- The classes of accounts in the chart of accounts. `other`: as for `Direction`. -/
inductive AccountType where
  | asset
  | liability
  | equity
  | revenue
  | expense
  | other (code : ℕ)
deriving DecidableEq, Repr

namespace AccountType

/-- The direction that increases an account of this type. -/
def normalBalance : AccountType → Direction
  | .asset => .debit
  | .expense => .debit
  | _ => .credit

/-- One of the five classes. -/
def Declared : AccountType → Prop
  | .other _ => False
  | _ => True

instance : DecidablePred Declared
  | .asset => .isTrue trivial
  | .liability => .isTrue trivial
  | .equity => .isTrue trivial
  | .revenue => .isTrue trivial
  | .expense => .isTrue trivial
  | .other _ => .isFalse not_false

theorem normalBalance_eq (type : AccountType) :
    type.normalBalance = .debit ∨ type.normalBalance = .credit := by
  cases type <;> simp [normalBalance]

end AccountType

set_option linter.dupNamespace false in
/-- A top-level grouping of accounts. -/
structure Ledger where
  id : LedgerID
  name : String
  createdAt : Time
deriving DecidableEq, Repr

/-- A subdivision of a ledger. -/
structure Subledger where
  id : SubledgerID
  ledgerID : LedgerID
  name : String
  createdAt : Time
deriving DecidableEq, Repr

/-- A financial account within a subledger. -/
structure Account where
  id : AccountID
  subledgerID : SubledgerID
  name : String
  type : AccountType
  createdAt : Time
deriving DecidableEq, Repr

/-- One leg of a transaction. -/
structure Entry (Amount : Type) where
  id : EntryID := ⟨""⟩
  accountID : AccountID
  amount : Amount
  direction : Direction
deriving DecidableEq, Repr

inductive TransactionStatus where
  | posted
  | reversed
deriving DecidableEq, Repr

/-- A multi-legged accounting entry. -/
structure Transaction (Amount : Type) where
  id : TransactionID
  idempotencyKey : String
  entries : List (Entry Amount)
  bookingDate : Time
  valueDate : Time
  status : TransactionStatus
  description : String
  metadata : GoMap String String
  createdAt : Time
  /-- The transaction this one reverses, if it is a reversal. -/
  reversalOf : Option TransactionID

/-- The parameters of `PostTransaction`. -/
structure PostTransactionRequest (Amount : Type) where
  idempotencyKey : String := ""
  entries : List (Entry Amount)
  bookingDate : Time := Time.zero
  valueDate : Time := Time.zero
  description : String := ""
  metadata : GoMap String String := ∅

inductive AuditEventType where
  | accountCreated
  | transactionPosted
  | transactionReversed
  | ledgerCreated
  | subledgerCreated
deriving DecidableEq, Repr

/-- What an audit event carries. The code stores a pointer to the ledger,
subledger, account or transaction concerned, so the payload is a reference to
the stored record and not a copy of it; a reversal carries the two ids. -/
inductive Payload where
  | ledger (ref : LedgerID)
  | subledger (ref : SubledgerID)
  | account (ref : AccountID)
  | transaction (ref : TransactionID)
  | reversal (originalID reversalID : TransactionID)
deriving DecidableEq, Repr

structure AuditEvent where
  id : String
  timestamp : Time
  type : AuditEventType
  entityID : String
  payload : Payload
deriving DecidableEq, Repr

/-- The sentinel errors of the package, and the run-time panic of reading
through a missing map entry. -/
inductive Err where
  | ledgerNotFound
  | subledgerNotFound
  | accountNotFound
  | transactionNotFound
  | unbalancedTransaction
  | emptyTransaction
  | duplicateIdempotencyKey
  | transactionAlreadyReversed
  | invalidAmount
  | insufficientBalance
  | nilDereference
deriving DecidableEq, Repr

end CoreBanking.Ledger
