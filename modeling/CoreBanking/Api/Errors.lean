import CoreBanking.Api.Types
import CoreBanking.Payment.References

/-!
# Errors and responses (errors.go of each package, api/errors.go, api/respond.go)

An error of the domain has a text and a status; a request that cannot be read is refused
before the domain is called; a panic becomes an internal error (`recoverPanic`).

Every sentinel error has a status of its category (`errorStatus_mem`), so that only a panic is
an internal error.
-/

namespace CoreBanking

/-! ## Texts -/

def Ledger.Err.message : Ledger.Err → String
  | .ledgerNotFound => "ledger not found"
  | .subledgerNotFound => "subledger not found"
  | .accountNotFound => "account not found"
  | .transactionNotFound => "transaction not found"
  | .unbalancedTransaction =>
    "transaction entries do not balance: total debits must equal total credits"
  | .emptyTransaction => "transaction must have at least one entry"
  | .duplicateIdempotencyKey => "idempotency key already used"
  | .transactionAlreadyReversed => "transaction already reversed"
  | .invalidAmount => "amount must be positive"
  | .insufficientBalance => "insufficient available balance"
  | .nilDereference => "runtime error: invalid memory address or nil pointer dereference"

def Deposit.Err.message : Deposit.Err → String
  | .accountNotFound => "deposit account not found"
  | .holdNotFound => "hold not found"
  | .holdNotActive => "hold is not active"
  | .snapshotNotFound => "snapshot not found"
  | .invalidAmount => "amount must be positive"
  | .insufficientAvailable => "insufficient available balance"
  | .accountFrozen => "account is frozen"
  | .accountClosed => "account is closed"
  | .accountNotEmpty => "account balance must be zero to close"
  | .invalidStatusTransition => "invalid account status transition"
  | .ledger e => e.message
  | .nilDereference => "runtime error: invalid memory address or nil pointer dereference"

def Payment.Err.message : Payment.Err → String
  | .participantNotFound => "participant not found"
  | .paymentNotFound => "payment not found"
  | .schemeNotFound => "payment scheme not registered"
  | .mandateNotFound => "mandate not found"
  | .mandateRequired => "scheme requires a mandate"
  | .mandateRevoked => "mandate has been revoked"
  | .mandateMismatch => "mandate does not match payment parties"
  | .mandateExceeded => "payment exceeds mandate maximum amount"
  | .invalidPaymentAmount => "payment amount must be positive"
  | .invalidStateTransition => "invalid payment state transition"
  | .cycleNotOpen => "clearing cycle is not open"
  | .cycleNotClosed => "clearing cycle is not closed"
  | .cycleAlreadyOpen => "clearing cycle already open for scheme"
  | .cycleNotFound => "clearing cycle not found"
  | .settlementNotFound => "settlement not found"
  | .schemeUnsupportedReturn => "scheme does not support returns"
  | .accountNotInParticipant => "account does not belong to participant"
  | .duplicateEndToEndID => "end-to-end id already used"
  | .ledger e => e.message
  | .deposit e => e.message
  | .nilDereference => "runtime error: invalid memory address or nil pointer dereference"

/-! ## Panics -/

instance : DecidablePred Ledger.Err.Panics :=
  fun e => inferInstanceAs (Decidable (e = .nilDereference))

instance : DecidablePred Deposit.Err.Panics
  | .nilDereference => .isTrue trivial
  | .ledger e => inferInstanceAs (Decidable e.Panics)
  | .accountNotFound | .holdNotFound | .holdNotActive | .snapshotNotFound | .invalidAmount
  | .insufficientAvailable | .accountFrozen | .accountClosed | .accountNotEmpty
  | .invalidStatusTransition => .isFalse not_false

instance : DecidablePred Payment.Err.Panics
  | .nilDereference => .isTrue trivial
  | .ledger e => inferInstanceAs (Decidable e.Panics)
  | .deposit e => inferInstanceAs (Decidable e.Panics)
  | .participantNotFound | .paymentNotFound | .schemeNotFound | .mandateNotFound
  | .mandateRequired | .mandateRevoked | .mandateMismatch | .mandateExceeded
  | .invalidPaymentAmount | .invalidStateTransition | .cycleNotOpen | .cycleNotClosed
  | .cycleAlreadyOpen | .cycleNotFound | .settlementNotFound | .schemeUnsupportedReturn
  | .accountNotInParticipant | .duplicateEndToEndID => .isFalse not_false

namespace Api

/-! ## Statuses -/

/-- `errorStatus` of an error of the ledger. -/
def ledgerErrorStatus : Ledger.Err → ℕ
  | .ledgerNotFound => 404
  | .subledgerNotFound => 404
  | .accountNotFound => 404
  | .transactionNotFound => 404
  | .duplicateIdempotencyKey => 409
  | .transactionAlreadyReversed => 409
  | .insufficientBalance => 422
  | .emptyTransaction => 400
  | .unbalancedTransaction => 400
  | .invalidAmount => 400
  | .nilDereference => 500

/-- `errorStatus` of an error of the deposit layer. -/
def depositErrorStatus : Deposit.Err → ℕ
  | .accountNotFound => 404
  | .holdNotFound => 404
  | .snapshotNotFound => 404
  | .insufficientAvailable => 422
  | .accountFrozen => 422
  | .accountClosed => 422
  | .accountNotEmpty => 422
  | .holdNotActive => 422
  | .invalidStatusTransition => 422
  | .invalidAmount => 400
  | .ledger e => ledgerErrorStatus e
  | .nilDereference => 500

/-- `errorStatus`: not found, conflict, against the state of the business, or malformed. -/
def errorStatus : Payment.Err → ℕ
  | .participantNotFound => 404
  | .paymentNotFound => 404
  | .mandateNotFound => 404
  | .cycleNotFound => 404
  | .settlementNotFound => 404
  | .schemeNotFound => 404
  | .accountNotInParticipant => 404
  | .duplicateEndToEndID => 409
  | .cycleAlreadyOpen => 409
  | .cycleNotOpen => 422
  | .cycleNotClosed => 422
  | .invalidStateTransition => 422
  | .mandateRevoked => 422
  | .mandateMismatch => 422
  | .mandateExceeded => 422
  | .mandateRequired => 422
  | .schemeUnsupportedReturn => 422
  | .invalidPaymentAmount => 400
  | .ledger e => ledgerErrorStatus e
  | .deposit e => depositErrorStatus e
  | .nilDereference => 500

/-- The statuses of refused requests. -/
def clientErrors : List ℕ := [400, 404, 409, 422]

theorem ledgerErrorStatus_mem {e : Ledger.Err} (he : ¬e.Panics) :
    ledgerErrorStatus e ∈ clientErrors := by
  cases e with
  | nilDereference => exact absurd rfl he
  | _ => decide

theorem depositErrorStatus_mem {e : Deposit.Err} (he : ¬e.Panics) :
    depositErrorStatus e ∈ clientErrors := by
  cases e with
  | nilDereference => exact absurd trivial he
  | ledger e => exact ledgerErrorStatus_mem he
  | _ => decide

theorem errorStatus_mem {e : Payment.Err} (he : ¬e.Panics) : errorStatus e ∈ clientErrors := by
  cases e with
  | nilDereference => exact absurd trivial he
  | ledger e => exact ledgerErrorStatus_mem he
  | deposit e => exact depositErrorStatus_mem he
  | _ => decide

/-! ## Responses -/

variable {Amount : Type}

/-- An entity in the body of a response. -/
inductive DTO (Amount : Type) where
  | ledger (d : LedgerDTO)
  | subledger (d : SubledgerDTO)
  | account (d : AccountDTO)
  | bookBalance (accountID : String) (balance : Amount)
  | transaction (d : TransactionDTO Amount)
  | auditEvent (d : AuditEventDTO)
  | depositAccount (d : DepositAccountDTO Amount)
  | hold (d : HoldDTO Amount)
  | balance (d : BalanceDTO Amount)
  | snapshot (d : SnapshotDTO Amount)
  | participant (d : ParticipantDTO)
  | payment (d : PaymentDTO Amount)
  | mandate (d : MandateDTO Amount)
  | clearingCycle (d : ClearingCycleDTO Amount)
  | settlement (d : SettlementDTO Amount)
  | scheme (d : SchemeDTO)
  | reserve (d : ReserveDTO Amount)

inductive Body (Amount : Type) where
  | empty
  | error (message : String)
  | one (d : DTO Amount)
  | list (ds : List (DTO Amount))

structure Response (Amount : Type) where
  status : ℕ
  body : Body Amount

/-- `writeJSON` with the usual statuses. -/
def ok (d : DTO Amount) : Response Amount := ⟨200, .one d⟩

@[inherit_doc ok]
def listOK (ds : List (DTO Amount)) : Response Amount := ⟨200, .list ds⟩

@[inherit_doc ok]
def created (d : DTO Amount) : Response Amount := ⟨201, .one d⟩

def noContent : Response Amount := ⟨204, .empty⟩

/-- Why a request is refused: by the domain, or before it is called. -/
inductive Refusal where
  | error (e : Payment.Err)
  | badRequest (message : String)

/-- The domain panicked. -/
def Refusal.Panics : Refusal → Prop
  | .error e => e.Panics
  | .badRequest _ => False

/-- `writeError`, `writeBadRequest`, and `recoverPanic` where the domain panicked. -/
def Refusal.response : Refusal → Response Amount
  | .error e =>
    if e.Panics then ⟨500, .error "internal server error"⟩
    else ⟨errorStatus e, .error e.message⟩
  | .badRequest message => ⟨400, .error message⟩

theorem Refusal.status_mem {r : Refusal} (hr : ¬r.Panics) :
    (r.response : Response Amount).status ∈ clientErrors := by
  cases r with
  | badRequest message => exact List.mem_cons_self
  | error e =>
    have he : ¬e.Panics := hr
    rw [response, if_neg he]
    exact errorStatus_mem he

end Api

end CoreBanking
