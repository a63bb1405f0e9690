import CoreBanking.Deposit.AuditLog
import CoreBanking.Payment.Network

/-!
# The wire format of the API (dto.go)

What the server answers with, and what clients send. Enumerations are written by name
(`toString`), ids as plain strings, and an id that is not set as the empty string.

The values are those that are encoded and decoded. Their JSON text is left to the standard
library.
-/

namespace CoreBanking

/-! ## Names of enumerations (types.go) -/

namespace Ledger

def AccountType.toString : AccountType → String
  | .asset => "Asset"
  | .liability => "Liability"
  | .equity => "Equity"
  | .revenue => "Revenue"
  | .expense => "Expense"
  | .other _ => "Unknown"

def Direction.toString : Direction → String
  | .debit => "Debit"
  | _ => "Credit"

def TransactionStatus.toString : TransactionStatus → String
  | .posted => "Posted"
  | .reversed => "Reversed"

def AuditEventType.toString : AuditEventType → String
  | .accountCreated => "account.created"
  | .transactionPosted => "transaction.posted"
  | .transactionReversed => "transaction.reversed"
  | .ledgerCreated => "ledger.created"
  | .subledgerCreated => "subledger.created"

end Ledger

namespace Deposit

def AccountStatus.toString : AccountStatus → String
  | .active => "Active"
  | .dormant => "Dormant"
  | .frozen => "Frozen"
  | .closed => "Closed"

def HoldStatus.toString : HoldStatus → String
  | .active => "Active"
  | .released => "Released"
  | .captured => "Captured"

def AuditEventType.toString : AuditEventType → String
  | .accountOpened => "account.opened"
  | .accountFrozen => "account.frozen"
  | .accountUnfrozen => "account.unfrozen"
  | .accountClosed => "account.closed"
  | .accountDormant => "account.dormant"
  | .accountReactivated => "account.reactivated"
  | .holdCreated => "hold.created"
  | .holdReleased => "hold.released"
  | .holdCaptured => "hold.captured"
  | .snapshotTaken => "snapshot.taken"

end Deposit

namespace Payment

def SchemeDirection.toString : SchemeDirection → String
  | .push => "Push"
  | .pull => "Pull"

def SettlementModel.toString : SettlementModel → String
  | .net => "Net"
  | .gross => "Gross"

def PaymentStatus.toString : PaymentStatus → String
  | .initiated => "Initiated"
  | .accepted => "Accepted"
  | .cleared => "Cleared"
  | .settled => "Settled"
  | .rejected => "Rejected"
  | .returned => "Returned"

def MandateStatus.toString : MandateStatus → String
  | .active => "Active"
  | .revoked => "Revoked"

def CycleStatus.toString : CycleStatus → String
  | .open => "Open"
  | .closed => "Closed"
  | .settled => "Settled"

end Payment

namespace Api

open Ledger (Entry PostTransactionRequest)

variable {Amount : Type}

/-! ## The ledger layer -/

structure LedgerDTO where
  id : String
  name : String
  createdAt : Time
deriving DecidableEq, Repr

def toLedgerDTO (l : Ledger.Ledger) : LedgerDTO where
  id := l.id.val
  name := l.name
  createdAt := l.createdAt

structure SubledgerDTO where
  id : String
  ledgerID : String
  name : String
  createdAt : Time
deriving DecidableEq, Repr

def toSubledgerDTO (sl : Ledger.Subledger) : SubledgerDTO where
  id := sl.id.val
  ledgerID := sl.ledgerID.val
  name := sl.name
  createdAt := sl.createdAt

structure AccountDTO where
  id : String
  subledgerID : String
  name : String
  type : String
  createdAt : Time
deriving DecidableEq, Repr

def toAccountDTO (a : Ledger.Account) : AccountDTO where
  id := a.id.val
  subledgerID := a.subledgerID.val
  name := a.name
  type := a.type.toString
  createdAt := a.createdAt

structure EntryDTO (Amount : Type) where
  /-- Empty in a request. -/
  id : String := ""
  accountID : String
  amount : Amount
  direction : String
deriving DecidableEq, Repr

def toEntryDTO (e : Entry Amount) : EntryDTO Amount where
  id := e.id.val
  accountID := e.accountID.val
  amount := e.amount
  direction := e.direction.toString

structure TransactionDTO (Amount : Type) where
  id : String
  idempotencyKey : String
  entries : List (EntryDTO Amount)
  bookingDate : Time
  valueDate : Time
  status : String
  description : String
  metadata : GoMap String String
  reversalOf : String
  createdAt : Time

/-- An id that may not be set. -/
def optionalID {ID : Type} (val : ID → String) : Option ID → String
  | none => ""
  | some id => val id

def toTransactionDTO (tx : Ledger.Transaction Amount) : TransactionDTO Amount where
  id := tx.id.val
  idempotencyKey := tx.idempotencyKey
  entries := tx.entries.map toEntryDTO
  bookingDate := tx.bookingDate
  valueDate := tx.valueDate
  status := tx.status.toString
  description := tx.description
  metadata := tx.metadata
  reversalOf := optionalID Ledger.TransactionID.val tx.reversalOf
  createdAt := tx.createdAt

structure AuditEventDTO where
  id : String
  timestamp : Time
  type : String
  entityID : String
deriving DecidableEq, Repr

def toLedgerAuditDTO (e : Ledger.AuditRecord Amount) : AuditEventDTO where
  id := e.id
  timestamp := e.timestamp
  type := e.type.toString
  entityID := e.entityID

def toDepositAuditDTO (e : Deposit.AuditRecord Amount) : AuditEventDTO where
  id := e.id
  timestamp := e.timestamp
  type := e.type.toString
  entityID := e.entityID

/-! ## The deposit layer -/

structure DepositAccountDTO (Amount : Type) where
  id : String
  glAccount : String
  name : String
  status : String
  overdraftLimit : Amount
  createdAt : Time
deriving DecidableEq, Repr

def toDepositAccountDTO (a : Deposit.Account Amount) : DepositAccountDTO Amount where
  id := a.id.val
  glAccount := a.glAccount.val
  name := a.name
  status := a.status.toString
  overdraftLimit := a.overdraftLimit
  createdAt := a.createdAt

structure HoldDTO (Amount : Type) where
  id : String
  accountID : String
  amount : Amount
  expiresAt : Time
  description : String
  status : String
  createdAt : Time
deriving DecidableEq, Repr

def toHoldDTO (h : Deposit.Hold Amount) : HoldDTO Amount where
  id := h.id.val
  accountID := h.accountID.val
  amount := h.amount
  expiresAt := h.expiresAt
  description := h.description
  status := h.status.toString
  createdAt := h.createdAt

structure BalanceDTO (Amount : Type) where
  book : Amount
  holds : Amount
  available : Amount
deriving DecidableEq, Repr

def toBalanceDTO (b : Deposit.Balance Amount) : BalanceDTO Amount where
  book := b.book
  holds := b.holds
  available := b.available

structure SnapshotDTO (Amount : Type) where
  accountID : String
  date : Time
  balance : BalanceDTO Amount
  takenAt : Time
deriving DecidableEq, Repr

def toSnapshotDTO (s : Deposit.Snapshot Amount) : SnapshotDTO Amount where
  accountID := s.accountID.val
  date := s.date
  balance := toBalanceDTO s.balance
  takenAt := s.takenAt

/-! ## The payment layer -/

structure ParticipantDTO where
  id : String
  name : String
  customerSubledger : String
  suspenseAccount : String
  reserveAccount : String
  settlementAccount : String
deriving DecidableEq, Repr

def toParticipantDTO (p : Payment.Participant Amount) : ParticipantDTO where
  id := p.id.val
  name := p.name
  customerSubledger := p.customerSubledger.val
  suspenseAccount := p.suspenseAccount.val
  reserveAccount := p.reserveAccount.val
  settlementAccount := p.settlementAccount.val

structure PartyRefDTO where
  participant : String
  account : String
  iban : String := ""
deriving DecidableEq, Repr

def toPartyRefDTO (r : Payment.PartyRef) : PartyRefDTO where
  participant := r.participant.val
  account := r.account.val
  iban := r.iban

def PartyRefDTO.toDomain (r : PartyRefDTO) : Payment.PartyRef where
  participant := ⟨r.participant⟩
  account := ⟨r.account⟩
  iban := r.iban

structure PaymentDTO (Amount : Type) where
  id : String
  scheme : String
  debtor : PartyRefDTO
  creditor : PartyRefDTO
  amount : Amount
  mandateID : String
  endToEndID : String
  status : String
  rejectReason : String
  cycleID : String
  bookingDate : Time
  valueDate : Time
  description : String
  metadata : GoMap String String
  debtorLegTx : String
  creditorLegTx : String
  createdAt : Time

def toPaymentDTO (p : Payment.Payment Amount) : PaymentDTO Amount where
  id := p.id.val
  scheme := p.scheme.val
  debtor := toPartyRefDTO p.debtor
  creditor := toPartyRefDTO p.creditor
  amount := p.amount
  mandateID := p.mandateID.val
  endToEndID := p.endToEndID
  status := p.status.toString
  rejectReason := p.rejectReason
  cycleID := p.cycleID.val
  bookingDate := p.bookingDate
  valueDate := p.valueDate
  description := p.description
  metadata := p.metadata
  debtorLegTx := optionalID Ledger.TransactionID.val p.debtorLegTx
  creditorLegTx := optionalID Ledger.TransactionID.val p.creditorLegTx
  createdAt := p.createdAt

structure MandateDTO (Amount : Type) where
  id : String
  debtor : PartyRefDTO
  creditor : PartyRefDTO
  maxAmount : Amount
  status : String
  createdAt : Time
deriving DecidableEq, Repr

def toMandateDTO (m : Payment.Mandate Amount) : MandateDTO Amount where
  id := m.id.val
  debtor := toPartyRefDTO m.debtor
  creditor := toPartyRefDTO m.creditor
  maxAmount := m.maxAmount
  status := m.status.toString
  createdAt := m.createdAt

/-- Net positions keep their keys, which are ids of banks. -/
structure ClearingCycleDTO (Amount : Type) where
  id : String
  scheme : String
  status : String
  paymentIDs : List String
  netPositions : GoMap Payment.ParticipantID Amount
  openedAt : Time
  closedAt : Time
  settlementID : String

def toClearingCycleDTO (c : Payment.ClearingCycle Amount) : ClearingCycleDTO Amount where
  id := c.id.val
  scheme := c.scheme.val
  status := c.status.toString
  paymentIDs := c.paymentIDs.map Payment.PaymentID.val
  netPositions := c.netPositions
  openedAt := c.openedAt
  closedAt := c.closedAt
  settlementID := optionalID Payment.SettlementID.val c.settlementID

structure SettlementDTO (Amount : Type) where
  id : String
  cycleID : String
  netPositions : GoMap Payment.ParticipantID Amount
  settlementTx : String
  valueDate : Time
  settledAt : Time

def toSettlementDTO (s : Payment.Settlement Amount) : SettlementDTO Amount where
  id := s.id.val
  cycleID := s.cycleID.val
  netPositions := s.netPositions
  settlementTx := optionalID Ledger.TransactionID.val s.settlementTx
  valueDate := s.valueDate
  settledAt := s.settledAt

/-- `Duration.String` of whole seconds. -/
def durationString (d : Int) : String :=
  let seconds := d.toNat / 1000000000
  let hours := if seconds < 3600 then "" else toString (seconds / 3600) ++ "h"
  let minutes := if seconds < 60 then "" else toString (seconds / 60 % 60) ++ "m"
  hours ++ minutes ++ toString (seconds % 60) ++ "s"

structure SchemeDTO where
  id : String
  direction : String
  settlementModel : String
  requiresMandate : Bool
  allowsReturn : Bool
  settlementDelay : String
deriving DecidableEq, Repr

def toSchemeDTO (s : Payment.Scheme) : SchemeDTO where
  id := s.id.val
  direction := s.direction.toString
  settlementModel := s.settlementModel.toString
  requiresMandate := s.requiresMandate
  allowsReturn := s.allowsReturn
  settlementDelay := durationString s.settlementDelay

example : toSchemeDTO .sdd = ⟨"sepa.dd", "Pull", "Net", true, true, "48h0m0s"⟩ := by
  decide +kernel

structure ReserveDTO (Amount : Type) where
  participant : String
  reserve : Amount
deriving DecidableEq, Repr

/-! ## Enumerations in requests -/

/-- The number of a character in hexadecimal, with leading zeros. -/
def hex (digits : Nat) (c : Char) : String :=
  let ds := Nat.toDigits 16 c.toNat
  String.ofList (List.replicate (digits - ds.length) '0' ++ ds)

/-- `%q`: a string in quotes. Of the characters that are not ASCII, `printable` are those that
the Unicode tables of Go hold for printable. -/
def quote (printable : Char → Bool) (s : String) : String :=
  String.join (["\""] ++ s.toList.map escape ++ ["\""])
where
  isPrint (c : Char) : Bool :=
    if c.toNat < 0x80 then 0x20 ≤ c.toNat && c.toNat < 0x7F else printable c
  escape (c : Char) : String :=
    if c = '"' then "\\\""
    else if c = '\\' then "\\\\"
    else if isPrint c then c.toString
    else match c.toNat with
      | 0x07 => "\\a"
      | 0x08 => "\\b"
      | 0x09 => "\\t"
      | 0x0A => "\\n"
      | 0x0B => "\\v"
      | 0x0C => "\\f"
      | 0x0D => "\\r"
      | n =>
        if n < 0x80 then "\\x" ++ hex 2 c
        else if n < 0x10000 then "\\u" ++ hex 4 c
        else "\\U" ++ hex 8 c

example : quote (fun _ => false) "De\u0000bit\té" = "\"De\\x00bit\\t\\u00e9\"" := by
  decide +kernel

def accountTypeFromString (printable : Char → Bool) (s : String) :
    Except String Ledger.AccountType :=
  if s = "Asset" then .ok .asset
  else if s = "Liability" then .ok .liability
  else if s = "Equity" then .ok .equity
  else if s = "Revenue" then .ok .revenue
  else if s = "Expense" then .ok .expense
  else .error ("invalid account type " ++ quote printable s
    ++ " (want Asset, Liability, Equity, Revenue, or Expense)")

def directionFromString (printable : Char → Bool) (s : String) :
    Except String Ledger.Direction :=
  if s = "Debit" then .ok .debit
  else if s = "Credit" then .ok .credit
  else .error ("invalid direction " ++ quote printable s ++ " (want Debit or Credit)")

theorem accountTypeFromString_declared {printable : Char → Bool} {s : String}
    {type : Ledger.AccountType} (h : accountTypeFromString printable s = .ok type) :
    type.Declared := by
  rw [accountTypeFromString] at h
  split_ifs at h <;> cases h <;> trivial

theorem directionFromString_declared {printable : Char → Bool} {s : String}
    {d : Ledger.Direction} (h : directionFromString printable s = .ok d) : d.Declared := by
  rw [directionFromString] at h
  split_ifs at h <;> cases h <;> trivial

/-! ## Requests -/

structure NameRequest where
  name : String

structure CreateAccountRequest where
  name : String
  type : String

/-- The client leaves a date out to have it set by the ledger. -/
structure PostTransactionRequestDTO (Amount : Type) where
  idempotencyKey : String := ""
  entries : List (EntryDTO Amount)
  bookingDate : Option Time := none
  valueDate : Option Time := none
  description : String := ""
  metadata : GoMap String String := ∅

/-- An entry of a request. The ledger gives it an id. -/
def EntryDTO.toDomain (printable : Char → Bool) (e : EntryDTO Amount) :
    Except String (Entry Amount) := do
  let dir ← directionFromString printable e.direction
  pure { accountID := ⟨e.accountID⟩, amount := e.amount, direction := dir }

def PostTransactionRequestDTO.toDomain (printable : Char → Bool)
    (req : PostTransactionRequestDTO Amount) :
    Except String (PostTransactionRequest Amount) := do
  let entries ← req.entries.mapM (EntryDTO.toDomain printable)
  pure
    { idempotencyKey := req.idempotencyKey
      entries := entries
      bookingDate := req.bookingDate.getD Time.zero
      valueDate := req.valueDate.getD Time.zero
      description := req.description
      metadata := req.metadata }

theorem entries_declared {printable : Char → Bool} {dtos : List (EntryDTO Amount)}
    {entries : List (Entry Amount)}
    (h : dtos.mapM (EntryDTO.toDomain printable) = .ok entries) :
    ∀ e ∈ entries, e.direction.Declared := by
  induction dtos generalizing entries with
  | nil =>
    cases h
    exact fun _ he => absurd he List.not_mem_nil
  | cons dto dtos ih =>
    rw [List.mapM_cons] at h
    obtain ⟨e, he, hrest⟩ := Call.except_bind_eq_ok.mp h
    obtain ⟨es, hes, hcons⟩ := Call.except_bind_eq_ok.mp hrest
    obtain ⟨d, hd, hentry⟩ := Call.except_bind_eq_ok.mp he
    cases hcons
    cases hentry
    exact List.forall_mem_cons.mpr ⟨directionFromString_declared hd, ih hes⟩

/-- The directions of a request that has been parsed are declared. -/
theorem toDomain_declared {printable : Char → Bool} {req : PostTransactionRequestDTO Amount}
    {req' : PostTransactionRequest Amount} (h : req.toDomain printable = .ok req') :
    ∀ e ∈ req'.entries, e.direction.Declared := by
  obtain ⟨entries, hentries, hreq⟩ := Call.except_bind_eq_ok.mp h
  cases hreq
  exact entries_declared hentries

structure DescriptionRequest where
  description : String

structure ReasonRequest where
  reason : String

structure OpenDepositAccountRequest (Amount : Type) where
  name : String
  overdraftLimit : Amount

structure StatusRequest where
  action : String

structure CreateHoldRequestDTO (Amount : Type) where
  amount : Amount
  expiresAt : Option Time
  description : String

structure CaptureHoldRequest (Amount : Type) where
  counterparty : String
  amount : Amount
  description : String

structure SnapshotRequest where
  date : String

structure FundRequest (Amount : Type) where
  account : String
  amount : Amount
  description : String

structure CreateMandateRequest (Amount : Type) where
  debtor : PartyRefDTO
  creditor : PartyRefDTO
  maxAmount : Amount

structure InitiatePaymentRequestDTO (Amount : Type) where
  scheme : String
  debtor : PartyRefDTO
  creditor : PartyRefDTO
  amount : Amount
  mandateID : String := ""
  endToEndID : String := ""
  description : String := ""
  metadata : GoMap String String := ∅

def InitiatePaymentRequestDTO.toDomain (req : InitiatePaymentRequestDTO Amount) :
    Payment.InitiatePaymentRequest Amount where
  scheme := ⟨req.scheme⟩
  debtor := req.debtor.toDomain
  creditor := req.creditor.toDomain
  amount := req.amount
  mandateID := ⟨req.mandateID⟩
  endToEndID := req.endToEndID
  description := req.description
  metadata := req.metadata

structure OpenCycleRequest where
  scheme : String

end Api

end CoreBanking
