import CoreBanking.Deposit.Types
import CoreBanking.Ledger.Book

/-!
# The deposit layer: operations (register.go)

A `Register` holds its own accounts, holds and snapshots, and the general
ledger it stands on. In the code the ledger is behind a pointer that the bank
shares; here the register contains it, and the bank's ledger is the one in its
register.

The operations that only read are functions into `Except`; those that write
are `Call`s. As in the ledger, each takes the time its clock shows.
-/

namespace CoreBanking.Deposit

open Ledger (Book PostTransactionRequest Transaction)

/-- The demand-deposit layer over a general ledger. -/
structure Register (Amount : Type) where
  book : Book Amount
  accounts : GoMap AccountID (Account Amount)
  holds : GoMap HoldID (Hold Amount)
  /-- The holds placed on each account, in the order of their creation. -/
  accountHolds : GoMap AccountID (List HoldID)
  /-- End-of-day snapshots by account and by calendar day. -/
  snapshots : GoMap AccountID (GoMap Int (Snapshot Amount))
  auditLog : List (AuditEvent Amount)
  idCounter : Nat

/-- `NewRegister`: a register backed by the given general ledger. -/
def newRegister {Amount : Type} (book : Book Amount) : Register Amount where
  book := book
  accounts := ∅
  holds := ∅
  accountHolds := ∅
  snapshots := ∅
  auditLog := []
  idCounter := 0

namespace Register

variable {Amount : Type}

/-! ## Ids and the audit log -/

def nextID (pfx : String) : Call (Register Amount) Err String := do
  let r ← get
  set { r with idCounter := r.idCounter + 1 }
  pure (ident pfx (r.idCounter + 1))

def appendAudit (now : Time) (eventType : AuditEventType) (entityID : String)
    (payload : Payload Amount) : Call (Register Amount) Err Unit := do
  let id ← nextID "evt"
  modify fun r => { r with
    auditLog := r.auditLog ++ [⟨id, now, eventType, entityID, payload⟩] }

/-- A call on the backing ledger. -/
def onBook {α : Type} (x : Call (Book Amount) Ledger.Err α) :
    Call (Register Amount) Err α :=
  Call.zoom Register.book (fun b r => { r with book := b }) Err.ledger x

/-! ## Accounts -/

/-- `OpenAccount`: open a deposit account and its backing Liability account. -/
def openAccount (now : Time) (subledger : Ledger.SubledgerID) (name : String)
    (overdraftLimit : Amount) : Call (Register Amount) Err (Account Amount) := do
  let gl ← onBook (Book.createAccount now subledger name .liability)
  let id ← nextID "dep"
  let acct : Account Amount := ⟨⟨id⟩, gl.id, name, .active, overdraftLimit, now⟩
  modify fun r => { r with accounts := r.accounts.insert acct.id acct }
  appendAudit now .accountOpened acct.id.val (.account acct.id)
  pure acct

def getAccount (r : Register Amount) (id : AccountID) :
    Except Err (Account Amount) :=
  match r.accounts.lookup id with
  | none => .error .accountNotFound
  | some acct => .ok acct

/-! ## Status lifecycle -/

/-- Write the new status of the account stored under `id` and log the change. -/
def setStatus (now : Time) (id : AccountID) (acct : Account Amount)
    (status : AccountStatus) (eventType : AuditEventType) :
    Call (Register Amount) Err Unit := do
  modify fun r => { r with
    accounts := r.accounts.insert id { acct with status := status } }
  appendAudit now eventType acct.id.val (.account acct.id)

/-- Move an account from one status to another, and log the event. -/
def changeStatus (source target : AccountStatus) (eventType : AuditEventType)
    (now : Time) (id : AccountID) : Call (Register Amount) Err Unit := do
  let r ← get
  let acct ← orThrow (r.accounts.lookup id) .accountNotFound
  require (acct.status = source) .invalidStatusTransition
  setStatus now id acct target eventType

def freeze (now : Time) (id : AccountID) : Call (Register Amount) Err Unit :=
  changeStatus .active .frozen .accountFrozen now id

def unfreeze (now : Time) (id : AccountID) : Call (Register Amount) Err Unit :=
  changeStatus .frozen .active .accountUnfrozen now id

def markDormant (now : Time) (id : AccountID) : Call (Register Amount) Err Unit :=
  changeStatus .active .dormant .accountDormant now id

def reactivate (now : Time) (id : AccountID) : Call (Register Amount) Err Unit :=
  changeStatus .dormant .active .accountReactivated now id

end Register

/-- `expired`: the expiry of a hold has passed. -/
def Hold.Expired {Amount : Type} (h : Hold Amount) (now : Time) : Prop :=
  ¬h.expiresAt.IsZero ∧ h.expiresAt.Before now

instance {Amount : Type} (h : Hold Amount) (now : Time) :
    Decidable (h.Expired now) :=
  inferInstanceAs (Decidable (_ ∧ _))

namespace Register

variable {Amount : Type} [AddCommGroup Amount]

/-! ## Balances -/

/-- One step of the loop of `computeActiveHolds`. -/
def addHold (r : Register Amount) (now : Time) (total : Amount)
    (holdID : HoldID) : Except Err Amount :=
  match r.holds.lookup holdID with
  | none => .error .nilDereference
  | some h =>
    if h.status ≠ .active then .ok total
    else if h.Expired now then .ok total
    else .ok (total + h.amount)

/-- `computeActiveHolds`: the sum of the active holds that have not expired. -/
def computeActiveHolds (r : Register Amount) (now : Time) (id : AccountID) :
    Except Err Amount :=
  ((r.accountHolds.lookup id).getD []).foldlM (r.addHold now) 0

/-- `BookBalance` of the backing ledger. -/
def bookBalance (r : Register Amount) (acct : Account Amount) :
    Except Err Amount :=
  (r.book.bookBalance acct.glAccount).mapError .ledger

/-- `availableLocked`: book balance, minus holds, plus overdraft limit. -/
def available (r : Register Amount) (now : Time) (acct : Account Amount) :
    Except Err Amount := do
  let book ← r.bookBalance acct
  let holds ← r.computeActiveHolds now acct.id
  pure (book - holds + acct.overdraftLimit)

def getBalance (r : Register Amount) (now : Time) (id : AccountID) :
    Except Err (Balance Amount) := do
  let acct ← r.getAccount id
  let book ← r.bookBalance acct
  let holds ← r.computeActiveHolds now id
  pure ⟨book, holds, book - holds + acct.overdraftLimit⟩

end Register

/-- `requireActive`: the error that names why an account is not active. -/
def requireActive {Amount : Type} (acct : Account Amount) : Except Err Unit :=
  match acct.status with
  | .active => .ok ()
  | .frozen => .error .accountFrozen
  | .closed => .error .accountClosed
  -- there is no error for a dormant account
  | .dormant => .error .invalidStatusTransition

namespace Register

variable {Amount : Type} [AddCommGroup Amount] [LinearOrder Amount]

/-- `CheckWithdrawal`: the account is active and has the amount available. -/
def checkWithdrawal (r : Register Amount) (now : Time) (id : AccountID)
    (amount : Amount) : Except Err Unit := do
  let acct ← r.getAccount id
  requireActive acct
  let available ← r.available now acct
  if available - amount < 0 then .error .insufficientAvailable else .ok ()

/-- `Close`: permanently close an account whose book balance is zero. -/
def close (now : Time) (id : AccountID) : Call (Register Amount) Err Unit := do
  let r ← get
  let acct ← orThrow (r.accounts.lookup id) .accountNotFound
  require (acct.status ≠ .closed) .invalidStatusTransition
  -- an open hold does not stop the account from closing
  let book ← Call.ofExcept (r.bookBalance acct)
  require (book = 0) .accountNotEmpty
  setStatus now id acct .closed .accountClosed

/-! ## Holds -/

/-- `CreateHold`: reserve part of the available balance. -/
def createHold (now : Time) (req : CreateHoldRequest Amount) :
    Call (Register Amount) Err (Hold Amount) := do
  let r ← get
  let acct ← orThrow (r.accounts.lookup req.accountID) .accountNotFound
  Call.ofExcept (requireActive acct)
  require (0 < req.amount) .invalidAmount
  let available ← Call.ofExcept (r.available now acct)
  require (¬available - req.amount < 0) .insufficientAvailable
  let id ← nextID "hld"
  let h : Hold Amount :=
    { id := ⟨id⟩
      accountID := req.accountID
      amount := req.amount
      expiresAt := req.expiresAt
      description := req.description
      status := .active
      createdAt := now }
  modify fun r => { r with
    holds := r.holds.insert h.id h
    accountHolds := r.accountHolds.insert req.accountID
      ((r.accountHolds.lookup req.accountID).getD [] ++ [h.id]) }
  appendAudit now .holdCreated h.id.val (.hold h.id)
  pure h

omit [AddCommGroup Amount] [LinearOrder Amount] in
/-- `ReleaseHold`: cancel an active hold. -/
def releaseHold (now : Time) (id : HoldID) : Call (Register Amount) Err Unit := do
  let r ← get
  let h ← orThrow (r.holds.lookup id) .holdNotFound
  require (h.status = .active) .holdNotActive
  modify fun r => { r with
    holds := r.holds.insert id { h with status := .released } }
  appendAudit now .holdReleased h.id.val (.hold h.id)

/-- `CaptureHold`: turn an active hold into a posting. -/
def captureHold (now : Time) (id : HoldID) (counterparty : Ledger.AccountID)
    (captureAmount : Amount) (description : String) :
    Call (Register Amount) Err (Transaction Amount) := do
  let r ← get
  let h ← orThrow (r.holds.lookup id) .holdNotFound
  require (h.status = .active) .holdNotActive
  let acct ← orThrow (r.accounts.lookup h.accountID) .accountNotFound
  -- zero or less captures the hold in full; more than the hold is not refused
  let amount := if captureAmount ≤ 0 then h.amount else captureAmount
  let tx ← onBook (Book.postTransaction now
    { description := description
      entries := Ledger.transfer acct.glAccount counterparty amount })
  modify fun r => { r with
    holds := r.holds.insert id { h with status := .captured } }
  appendAudit now .holdCaptured h.id.val (.capture h.id tx.id)
  pure tx

/-! ## Snapshots -/

omit [LinearOrder Amount] in
/-- `TakeEndOfDaySnapshot`: store the balance of an account for a business
date, in place of an earlier snapshot for the same day. -/
def takeEndOfDaySnapshot (now : Time) (id : AccountID) (date : Time) :
    Call (Register Amount) Err (Snapshot Amount) := do
  let r ← get
  let acct ← orThrow (r.accounts.lookup id) .accountNotFound
  let book ← Call.ofExcept (r.bookBalance acct)
  let holds ← Call.ofExcept (r.computeActiveHolds now id)
  let snap : Snapshot Amount :=
    { accountID := id
      date := date
      balance := ⟨book, holds, book - holds + acct.overdraftLimit⟩
      takenAt := now }
  modify fun r => { r with
    snapshots := r.snapshots.insert id
      (((r.snapshots.lookup id).getD ∅).insert date.dateKey snap) }
  appendAudit now .snapshotTaken id.val (.snapshot snap)
  pure snap

omit [AddCommGroup Amount] [LinearOrder Amount] in
def getSnapshot (r : Register Amount) (id : AccountID) (date : Time) :
    Except Err (Snapshot Amount) :=
  match r.accounts.lookup id with
  | none => .error .accountNotFound
  | some _ =>
    match (r.snapshots.lookup id).bind fun byDate => byDate.lookup date.dateKey with
    | some snap => .ok snap
    | none => .error .snapshotNotFound

omit [AddCommGroup Amount] [LinearOrder Amount] in
def getHold (r : Register Amount) (id : HoldID) : Except Err (Hold Amount) :=
  r.holds.find id .holdNotFound

end Register

end CoreBanking.Deposit
