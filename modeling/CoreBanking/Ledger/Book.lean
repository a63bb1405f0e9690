import CoreBanking.Base.Call
import CoreBanking.Base.Ident
import CoreBanking.Ledger.Types

/-!
# The general ledger: operations (service.go)

`Book` holds the ledgers, subledgers, accounts and transactions, the index of
idempotency keys, the audit log and the id counter. Every operation is a
`Call` on it: a failing call keeps what it has changed so far, so that a call
failing without effect is something to prove and not built in.

An operation takes the time its clock shows while it holds the lock.
-/

namespace CoreBanking.Ledger

/-- The in-memory general ledger. -/
structure Book (Amount : Type) where
  ledgers : GoMap LedgerID Ledger
  subledgers : GoMap SubledgerID Subledger
  accounts : GoMap AccountID Account
  transactions : GoMap TransactionID (Transaction Amount)
  /-- Maps idempotency keys to transaction ids. -/
  idempotencyIndex : GoMap String TransactionID
  auditLog : List AuditEvent
  idCounter : Nat

/-- `NewBook`: an empty general ledger. -/
def newBook (Amount : Type) : Book Amount where
  ledgers := ∅
  subledgers := ∅
  accounts := ∅
  transactions := ∅
  idempotencyIndex := ∅
  auditLog := []
  idCounter := 0

namespace Book

variable {Amount : Type}

/-! ## Ids and the audit log -/

def nextID (pfx : String) : Call (Book Amount) Err String := do
  let s ← get
  set { s with idCounter := s.idCounter + 1 }
  pure (ident pfx (s.idCounter + 1))

def appendAudit (now : Time) (eventType : AuditEventType) (entityID : String)
    (payload : Payload) : Call (Book Amount) Err Unit := do
  let id ← nextID "evt"
  modify fun s => { s with
    auditLog := s.auditLog ++ [⟨id, now, eventType, entityID, payload⟩] }

/-! ## Ledgers, subledgers and accounts -/

def createLedger (now : Time) (name : String) : Call (Book Amount) Err Ledger := do
  let id ← nextID "ldg"
  let l : Ledger := ⟨⟨id⟩, name, now⟩
  modify fun s => { s with ledgers := s.ledgers.insert l.id l }
  appendAudit now .ledgerCreated l.id.val (.ledger l.id)
  pure l

def createSubledger (now : Time) (ledgerID : LedgerID) (name : String) :
    Call (Book Amount) Err Subledger := do
  let s ← get
  let _ ← orThrow (s.ledgers.lookup ledgerID) .ledgerNotFound
  let id ← nextID "sub"
  let sl : Subledger := ⟨⟨id⟩, ledgerID, name, now⟩
  modify fun s => { s with subledgers := s.subledgers.insert sl.id sl }
  appendAudit now .subledgerCreated sl.id.val (.subledger sl.id)
  pure sl

def createAccount (now : Time) (subledgerID : SubledgerID) (name : String)
    (accountType : AccountType) : Call (Book Amount) Err Account := do
  let s ← get
  let _ ← orThrow (s.subledgers.lookup subledgerID) .subledgerNotFound
  let id ← nextID "acct"
  let acct : Account := ⟨⟨id⟩, subledgerID, name, accountType, now⟩
  modify fun s => { s with accounts := s.accounts.insert acct.id acct }
  appendAudit now .accountCreated acct.id.val (.account acct.id)
  pure acct

/-! ## Looking up -/

def getLedger (s : Book Amount) (id : LedgerID) : Except Err Ledger :=
  s.ledgers.find id .ledgerNotFound

def getSubledger (s : Book Amount) (id : SubledgerID) : Except Err Subledger :=
  s.subledgers.find id .subledgerNotFound

def getAccount (s : Book Amount) (id : AccountID) : Except Err Account :=
  s.accounts.find id .accountNotFound

def getTransaction (s : Book Amount) (id : TransactionID) : Except Err (Transaction Amount) :=
  s.transactions.find id .transactionNotFound

/-- `GetTransactionByIdempotencyKey`: the transaction that was posted under a
key. -/
def getTransactionByIdempotencyKey (s : Book Amount) (key : String) :
    Except Err (Transaction Amount) :=
  match s.idempotencyIndex.lookup key with
  | none => .error .transactionNotFound
  | some txID =>
    match s.transactions.lookup txID with
    | none => .error .nilDereference
    | some tx => .ok tx

end Book

section Balances

variable {Amount : Type} [AddCommGroup Amount]

/-! ## Balances -/

/-- What an entry adds to the balance of account `a`, whose balance grows in
direction `normal`. -/
def Entry.effect (normal : Direction) (a : AccountID) (e : Entry Amount) :
    Amount :=
  if e.accountID ≠ a then 0
  else if e.direction = normal then e.amount
  else -e.amount

/-- What a list of entries adds to the balance of account `a`. -/
def effect (normal : Direction) (a : AccountID) (entries : List (Entry Amount)) :
    Amount :=
  (entries.map (Entry.effect normal a)).sum

/-- `computeBookBalance`: replay the entries of all transactions, those marked
as reversed included. -/
def Book.computeBookBalance (s : Book Amount) (accountID : AccountID)
    (accountType : AccountType) : Amount :=
  s.transactions.sum fun _ tx =>
    effect accountType.normalBalance accountID tx.entries

/-- `BookBalance`: the current book balance of an account. -/
def Book.bookBalance (s : Book Amount) (accountID : AccountID) :
    Except Err Amount :=
  match s.accounts.lookup accountID with
  | none => .error .accountNotFound
  | some acct => .ok (s.computeBookBalance accountID acct.type)

/-- One step of `validateBalance`: the debits and credits so far. -/
def addToTotals (totals : Amount × Amount) (e : Entry Amount) : Amount × Amount :=
  if e.direction = .debit then (totals.1 + e.amount, totals.2)
  else (totals.1, totals.2 + e.amount)

/-- `validateBalance`: total debits equal total credits. -/
def ValidateBalance (entries : List (Entry Amount)) : Prop :=
  let totals := entries.foldl addToTotals (0, 0)
  totals.1 = totals.2

end Balances

/-- The two entries that move an amount between accounts: a debit of the first
and a credit of the second. -/
def transfer {Amount : Type} (debit credit : AccountID) (amount : Amount) :
    List (Entry Amount) :=
  [{ accountID := debit, amount := amount, direction := .debit },
    { accountID := credit, amount := amount, direction := .credit }]

/-- The entry of a reversal that offsets an entry of the original. -/
def Entry.reversed {Amount : Type} (e : Entry Amount) : Entry Amount where
  accountID := e.accountID
  amount := e.amount
  direction := e.direction.opposite

namespace Book

variable {Amount : Type} [AddCommGroup Amount] [LinearOrder Amount]

instance (entries : List (Entry Amount)) : Decidable (ValidateBalance entries) :=
  inferInstanceAs (Decidable (_ = _))

/-- One step of the first loop of `checkSufficientBalance`: add an entry to
the net impact on its account. -/
def addImpact (s : Book Amount) (impact : GoMap AccountID Amount)
    (e : Entry Amount) : Except Err (GoMap AccountID Amount) :=
  match s.accounts.lookup e.accountID with
  -- Go would dereference a nil account here
  | none => .error .nilDereference
  | some acct =>
    let old := (impact.lookup e.accountID).getD 0
    .ok (impact.insert e.accountID
      (if e.direction = acct.type.normalBalance then old + e.amount
       else old - e.amount))

/-- The second loop of `checkSufficientBalance` refuses an impact of `delta`
on this account: it is an Asset or Expense account, and the impact takes its
balance below zero. -/
def Overdraws (s : Book Amount) (accountID : AccountID) (delta : Amount) : Prop :=
  ∃ acct ∈ s.accounts.lookup accountID,
    (acct.type = .asset ∨ acct.type = .expense) ∧ delta < 0 ∧
      s.computeBookBalance accountID acct.type + delta < 0

instance (s : Book Amount) (accountID : AccountID) (delta : Amount) :
    Decidable (s.Overdraws accountID delta) :=
  inferInstanceAs (Decidable (∃ acct ∈ _, _))

/-- Some entry of the impact map is refused. -/
def Overdrawn (s : Book Amount) (impact : GoMap AccountID Amount) : Prop :=
  ∃ d ∈ impact.pairs, s.Overdraws d.1 d.2

instance (s : Book Amount) (impact : GoMap AccountID Amount) :
    Decidable (s.Overdrawn impact) :=
  Multiset.decidableExistsMultiset

/-- `checkSufficientBalance`: the entries take no Asset or Expense account
below zero. The outcome does not depend on the order in which Go visits the
impact map, as every refusal is the same error. -/
def checkSufficientBalance (entries : List (Entry Amount)) :
    Call (Book Amount) Err Unit := do
  let s ← get
  match entries.foldlM s.addImpact ∅ with
  | .error e => throw e
  | .ok impact =>
    require (¬s.Overdrawn impact) .insufficientBalance

/-! ## Posting -/

/-- Give the entries of a transaction the ids after `n`. -/
def assignIDs (n : Nat) : List (Entry Amount) → List (Entry Amount)
  | [] => []
  | e :: es => { e with id := ⟨ident "ent" (n + 1)⟩ } :: assignIDs (n + 1) es

/-- Draw one entry id for each entry. -/
def nextEntryIDs (entries : List (Entry Amount)) :
    Call (Book Amount) Err (List (Entry Amount)) := do
  let s ← get
  set { s with idCounter := s.idCounter + entries.length }
  pure (assignIDs s.idCounter entries)

/-- `PostTransaction`: validate the request in six steps, then record it. -/
def postTransaction (now : Time) (req : PostTransactionRequest Amount) :
    Call (Book Amount) Err (Transaction Amount) := do
  let s ← get
  require (req.entries ≠ []) .emptyTransaction
  require (∀ e ∈ req.entries, 0 < e.amount) .invalidAmount
  require (∀ e ∈ req.entries, (s.accounts.lookup e.accountID).isSome)
    .accountNotFound
  require (req.idempotencyKey = "" ∨
    s.idempotencyIndex.lookup req.idempotencyKey = none) .duplicateIdempotencyKey
  require (ValidateBalance req.entries) .unbalancedTransaction
  checkSufficientBalance req.entries
  let bookingDate := if req.bookingDate.IsZero then now else req.bookingDate
  let valueDate := if req.valueDate.IsZero then bookingDate else req.valueDate
  let entries ← nextEntryIDs req.entries
  let id ← nextID "tx"
  let tx : Transaction Amount :=
    { id := ⟨id⟩
      idempotencyKey := req.idempotencyKey
      entries := entries
      bookingDate := bookingDate
      valueDate := valueDate
      status := .posted
      description := req.description
      metadata := req.metadata
      createdAt := now
      reversalOf := none }
  modify fun s => { s with
    transactions := s.transactions.insert tx.id tx
    idempotencyIndex :=
      if req.idempotencyKey = "" then s.idempotencyIndex
      else s.idempotencyIndex.insert req.idempotencyKey tx.id }
  appendAudit now .transactionPosted tx.id.val (.transaction tx.id)
  pure tx

/-! ## Reversal -/

/-- `ReverseTransaction`: post the counter-transaction of a transaction that
has not been reversed yet, and mark that one as reversed. Unlike a posting, a
reversal is not validated. -/
def reverseTransaction (now : Time) (txID : TransactionID)
    (description : String) : Call (Book Amount) Err (Transaction Amount) := do
  let s ← get
  let original ← orThrow (s.transactions.lookup txID) .transactionNotFound
  require (original.status ≠ .reversed) .transactionAlreadyReversed
  let entries ← nextEntryIDs (original.entries.map Entry.reversed)
  let id ← nextID "tx"
  let reversal : Transaction Amount :=
    { id := ⟨id⟩
      idempotencyKey := ""
      entries := entries
      bookingDate := now
      valueDate := original.valueDate
      status := .posted
      description := description
      metadata := ∅
      createdAt := now
      reversalOf := some original.id }
  -- the original first: the reversal is stored under a new id
  modify fun s => { s with
    transactions := (s.transactions.insert txID
      { original with status := .reversed }).insert reversal.id reversal }
  appendAudit now .transactionReversed original.id.val
    (.reversal original.id reversal.id)
  pure reversal

end Book

end CoreBanking.Ledger
