import CoreBanking.Deposit.Register
import CoreBanking.Ledger.Transfer

/-!
# What the deposit operations do to a register

`Register.Op` lists the mutating operations. `Transition` says once what a call of
each can do: a failing call does nothing, and a successful one has checked certain
conditions and makes one of six changes (`call_transition`). `Change` is the change
without the conditions, for the results that do not depend on them.
-/

namespace CoreBanking.Deposit

open Ledger (Book PostTransactionRequest Transaction transfer)

/-- What a capture takes: the whole hold, unless an amount is given. -/
def Hold.captured {Amount : Type} [Zero Amount] [LE Amount] [DecidableLE Amount]
    (h : Hold Amount) (captureAmount : Amount) : Amount :=
  if captureAmount ≤ 0 then h.amount else captureAmount

namespace Register

variable {Amount : Type}

/-! ## Updates -/

/-- The register with one more audit event. -/
def log (r : Register Amount) (now : Time) (eventType : AuditEventType)
    (entityID : String) (payload : Payload Amount) : Register Amount :=
  { r with
    auditLog := r.auditLog ++
      [⟨ident "evt" (r.idCounter + 1), now, eventType, entityID, payload⟩]
    idCounter := r.idCounter + 1 }

/-- The deposit account `OpenAccount` makes. -/
def newDepositAccount (r : Register Amount) (now : Time)
    (subledger : Ledger.SubledgerID) (name : String) (overdraftLimit : Amount) :
    Account Amount :=
  ⟨⟨ident "dep" (r.idCounter + 1)⟩,
    (r.book.newAccount now subledger name .liability).id, name, .active,
    overdraftLimit, now⟩

/-- The register after `OpenAccount`. -/
def addAccount (r : Register Amount) (now : Time)
    (subledger : Ledger.SubledgerID) (name : String) (overdraftLimit : Amount) :
    Register Amount :=
  let acct := r.newDepositAccount now subledger name overdraftLimit
  { r with
    book := r.book.addAccount now (r.book.newAccount now subledger name .liability)
    accounts := r.accounts.insert acct.id acct
    idCounter := r.idCounter + 1 }.log now .accountOpened acct.id.val
      (.account acct.id)

/-- The register after a change of the status of an account. -/
def withStatus (r : Register Amount) (now : Time) (id : AccountID)
    (acct : Account Amount) (status : AccountStatus) (eventType : AuditEventType) :
    Register Amount :=
  { r with
    accounts := r.accounts.insert id { acct with status := status } }.log now
      eventType acct.id.val (.account acct.id)

/-- The hold `CreateHold` makes. -/
def newHold (r : Register Amount) (now : Time) (req : CreateHoldRequest Amount) :
    Hold Amount where
  id := ⟨ident "hld" (r.idCounter + 1)⟩
  accountID := req.accountID
  amount := req.amount
  expiresAt := req.expiresAt
  description := req.description
  status := .active
  createdAt := now

/-- The register after `CreateHold`. -/
def addHoldTo (r : Register Amount) (now : Time) (req : CreateHoldRequest Amount) :
    Register Amount :=
  let h := r.newHold now req
  { r with
    holds := r.holds.insert h.id h
    accountHolds := r.accountHolds.insert req.accountID
      ((r.accountHolds.lookup req.accountID).getD [] ++ [h.id])
    idCounter := r.idCounter + 1 }.log now .holdCreated h.id.val (.hold h.id)

/-- The register with another status of a hold. -/
def withHold (r : Register Amount) (id : HoldID) (h : Hold Amount)
    (status : HoldStatus) : Register Amount :=
  { r with holds := r.holds.insert id { h with status := status } }

/-- The register with another state of the backing ledger. -/
def withBook (r : Register Amount) (b : Book Amount) : Register Amount :=
  { r with book := b }

/-- The register with one more snapshot. -/
def withSnapshot (r : Register Amount) (id : AccountID) (snap : Snapshot Amount) :
    Register Amount :=
  { r with
    snapshots := r.snapshots.insert id
      (((r.snapshots.lookup id).getD ∅).insert snap.date.dateKey snap) }

/-! ## Specifications -/

theorem openAccount_eq (r : Register Amount) (now : Time)
    (subledger : Ledger.SubledgerID) (name : String) (overdraftLimit : Amount) :
    openAccount now subledger name overdraftLimit r =
      match r.book.subledgers.lookup subledger with
      | none => .error (.ledger .subledgerNotFound) r
      | some _ => .ok (r.newDepositAccount now subledger name overdraftLimit)
          (r.addAccount now subledger name overdraftLimit) := by
  have heq := Book.createAccount_eq r.book now subledger name .liability
  cases hsub : r.book.subledgers.lookup subledger with
  | none =>
    rw [hsub] at heq
    exact Call.bind_of_error (Call.zoom_of_error heq) _
  | some _ =>
    rw [hsub] at heq
    exact Call.bind_of_ok (Call.zoom_of_ok heq) _

theorem requireActive_eq_ok {acct : Account Amount} {u : Unit} :
    requireActive acct = .ok u ↔ acct.status = .active := by
  rw [requireActive]
  cases hst : acct.status <;> simp

theorem getAccount_eq_ok {r : Register Amount} {id : AccountID} {acct : Account Amount} :
    r.getAccount id = .ok acct ↔ r.accounts.lookup id = some acct := by
  rw [getAccount]
  cases r.accounts.lookup id <;> simp

theorem changeStatus_eq (source target : AccountStatus)
    (eventType : AuditEventType) (now : Time) (id : AccountID)
    (r : Register Amount) :
    changeStatus source target eventType now id r =
      match r.accounts.lookup id with
      | none => .error .accountNotFound r
      | some acct =>
        if acct.status = source
        then .ok () (r.withStatus now id acct target eventType)
        else .error .invalidStatusTransition r := by
  rw [changeStatus, Call.get_bind]
  cases hacct : r.accounts.lookup id with
  | none => rfl
  | some acct =>
    rw [orThrow_some_bind]
    by_cases hstatus : acct.status = source
    · rw [require_bind_of hstatus]
      simp only [hstatus, if_true]
      rfl
    · rw [require_bind_of_not hstatus]
      simp only [hstatus, if_false]

section Specs

variable [AddCommGroup Amount] [LinearOrder Amount]

/-- `Close` goes through on an open account whose balance is 0. -/
theorem close_of_empty {r : Register Amount} {id : AccountID} {acct : Account Amount}
    (hacct : r.accounts.lookup id = some acct) (hopen : acct.status ≠ .closed)
    (hempty : r.bookBalance acct = .ok 0) (now : Time) :
    close now id r = .ok () (r.withStatus now id acct .closed .accountClosed) := by
  rw [close, Call.get_bind, hacct, orThrow_some_bind, require_bind_of hopen, hempty,
    Call.ofExcept_ok_bind, require_bind_of rfl]
  rfl

/-- `Close` fails without effect, or closes an account whose balance is 0. -/
theorem close_cases (now : Time) (id : AccountID) (r : Register Amount) :
    (∃ e, close now id r = .error e r) ∨
      ∃ acct, r.accounts.lookup id = some acct ∧ acct.status ≠ .closed ∧
        r.bookBalance acct = .ok 0 ∧
        close now id r = .ok () (r.withStatus now id acct .closed .accountClosed) := by
  rw [close, Call.get_bind]
  cases hacct : r.accounts.lookup id with
  | none => exact .inl ⟨_, rfl⟩
  | some acct =>
    rw [orThrow_some_bind]
    by_cases hstatus : acct.status ≠ .closed
    swap
    · exact .inl ⟨_, require_bind_of_not hstatus ..⟩
    rw [require_bind_of hstatus]
    cases hbook : r.bookBalance acct with
    | error e => exact .inl ⟨e, rfl⟩
    | ok book =>
      rw [Call.ofExcept_ok_bind]
      by_cases hzero : book = 0
      · subst hzero
        rw [require_bind_of rfl]
        exact .inr ⟨acct, rfl, hstatus, hbook, rfl⟩
      · exact .inl ⟨_, require_bind_of_not hzero ..⟩

/-- `CreateHold` up to the reading of the book balance: the account and the balance. -/
def readBalance (req : CreateHoldRequest Amount) :
    Call (Register Amount) Err (Account Amount × Amount) := do
  let r ← get
  let acct ← orThrow (r.accounts.lookup req.accountID) .accountNotFound
  Call.ofExcept (requireActive acct)
  require (0 < req.amount) .invalidAmount
  let book ← Call.ofExcept (r.bookBalance acct)
  pure (acct, book)

/-- `CreateHold` from there on. -/
def recordHold (now : Time) (req : CreateHoldRequest Amount)
    (balance : Account Amount × Amount) : Call (Register Amount) Err (Hold Amount) := do
  let r ← get
  let holds ← Call.ofExcept (r.computeActiveHolds now balance.1.id)
  let available := balance.2 - holds + balance.1.overdraftLimit
  require (¬available - req.amount < 0) .insufficientAvailable
  let id ← nextID "hld"
  let h : Hold Amount :=
    { id := ⟨id⟩
      accountID := req.accountID
      amount := req.amount
      expiresAt := req.expiresAt
      description := req.description
      status := .active
      createdAt := now }
  modify fun r => { r with
    holds := r.holds.insert h.id h
    accountHolds := r.accountHolds.insert req.accountID
      ((r.accountHolds.lookup req.accountID).getD [] ++ [h.id]) }
  appendAudit now .holdCreated h.id.val (.hold h.id)
  pure h

/-- The two parts make up `CreateHold`. -/
theorem createHold_eq (now : Time) (req : CreateHoldRequest Amount) (r : Register Amount) :
    createHold now req r = (readBalance req >>= recordHold now req) r := by
  rw [createHold, readBalance, Call.get_bind]
  simp only [bind_assoc, pure_bind]
  rw [Call.get_bind]
  cases r.accounts.lookup req.accountID with
  | none => rfl
  | some acct =>
    rw [orThrow_some_bind, orThrow_some_bind]
    cases requireActive acct with
    | error e => rfl
    | ok _ =>
      rw [Call.ofExcept_ok_bind, Call.ofExcept_ok_bind]
      by_cases hpos : 0 < req.amount
      swap
      · rw [require_bind_of_not hpos, require_bind_of_not hpos]
      rw [require_bind_of hpos, require_bind_of hpos, available]
      cases r.bookBalance acct with
      | error e => rfl
      | ok book =>
        rw [Call.ofExcept_ok_bind, recordHold, Call.get_bind]
        cases r.computeActiveHolds now acct.id with
        | error e => rfl
        | ok holds => rfl

/-- The reading fails, or finds the balance of an active account. It changes nothing. -/
theorem readBalance_cases (req : CreateHoldRequest Amount) (r : Register Amount) :
    (∃ e, readBalance req r = .error e r) ∨
      ∃ acct book, r.accounts.lookup req.accountID = some acct ∧
        requireActive acct = .ok () ∧ 0 < req.amount ∧ r.bookBalance acct = .ok book ∧
        readBalance req r = .ok (acct, book) r := by
  rw [readBalance, Call.get_bind]
  cases hacct : r.accounts.lookup req.accountID with
  | none => exact .inl ⟨_, rfl⟩
  | some acct =>
    rw [orThrow_some_bind]
    cases hactive : requireActive acct with
    | error e => exact .inl ⟨e, rfl⟩
    | ok _ =>
      rw [Call.ofExcept_ok_bind]
      by_cases hpos : 0 < req.amount
      swap
      · exact .inl ⟨_, require_bind_of_not hpos ..⟩
      rw [require_bind_of hpos]
      cases hbook : r.bookBalance acct with
      | error e => exact .inl ⟨e, rfl⟩
      | ok book => exact .inr ⟨acct, book, rfl, hactive, hpos, hbook, rfl⟩

/-- A hold is recorded if the balance that was read covers it. -/
theorem recordHold_eq {now : Time} {balance : Account Amount × Amount} {r : Register Amount}
    {holds : Amount} (hholds : r.computeActiveHolds now balance.1.id = .ok holds)
    (req : CreateHoldRequest Amount) : recordHold now req balance r =
      if ¬balance.2 - holds + balance.1.overdraftLimit - req.amount < 0
      then .ok (r.newHold now req) (r.addHoldTo now req)
      else .error .insufficientAvailable r := by
  rw [recordHold, Call.get_bind, hholds, Call.ofExcept_ok_bind]
  by_cases hsuff : ¬balance.2 - holds + balance.1.overdraftLimit - req.amount < 0
  · rw [require_bind_of hsuff, if_pos hsuff]
    rfl
  · rw [require_bind_of_not hsuff, if_neg hsuff]

/-- Recording a hold fails without effect, or places a hold that what was available covers. -/
theorem recordHold_cases (now : Time) (req : CreateHoldRequest Amount)
    (balance : Account Amount × Amount) (r : Register Amount) :
    (∃ e, recordHold now req balance r = .error e r) ∨
      ∃ holds, r.computeActiveHolds now balance.1.id = .ok holds ∧
        ¬balance.2 - holds + balance.1.overdraftLimit - req.amount < 0 ∧
        recordHold now req balance r = .ok (r.newHold now req) (r.addHoldTo now req) := by
  cases hholds : r.computeActiveHolds now balance.1.id with
  | error e =>
    rw [recordHold, Call.get_bind, hholds]
    exact .inl ⟨e, rfl⟩
  | ok holds =>
    rw [recordHold_eq hholds]
    split
    · next hsuff => exact .inr ⟨holds, rfl, hsuff, rfl⟩
    · exact .inl ⟨_, rfl⟩

/-- `CreateHold` goes through on an active account that has the amount available. -/
theorem createHold_of_available {req : CreateHoldRequest Amount} {r : Register Amount}
    {acct : Account Amount} {available : Amount}
    (hacct : r.accounts.lookup req.accountID = some acct) (hactive : acct.status = .active)
    (hpos : 0 < req.amount) {now : Time} (havail : r.available now acct = .ok available)
    (hsuff : ¬available - req.amount < 0) :
    createHold now req r = .ok (r.newHold now req) (r.addHoldTo now req) := by
  have hok : requireActive acct = .ok () := requireActive_eq_ok.mpr hactive
  rw [createHold, Call.get_bind, hacct, orThrow_some_bind, hok, Call.ofExcept_ok_bind,
    require_bind_of hpos, havail, Call.ofExcept_ok_bind, require_bind_of hsuff]
  rfl

/-- `CreateHold` fails without effect, or places a positive hold that the
available balance of an active account covers. -/
theorem createHold_cases (now : Time) (req : CreateHoldRequest Amount)
    (r : Register Amount) :
    (∃ e, createHold now req r = .error e r) ∨
      ∃ acct available, r.accounts.lookup req.accountID = some acct ∧
        requireActive acct = .ok () ∧ 0 < req.amount ∧
        r.available now acct = .ok available ∧ ¬available - req.amount < 0 ∧
        createHold now req r = .ok (r.newHold now req) (r.addHoldTo now req) := by
  rw [createHold_eq]
  rcases readBalance_cases req r with ⟨e, he⟩ | ⟨acct, book, hacct, hactive, hpos, hbook, hok⟩
  · exact .inl ⟨e, Call.bind_of_error he _⟩
  rw [Call.bind_of_ok hok]
  rcases recordHold_cases now req (acct, book) r with he | ⟨holds, hholds, hsuff, hok'⟩
  · exact .inl he
  · refine .inr ⟨acct, _, hacct, hactive, hpos, ?_, hsuff, hok'⟩
    rw [available, hbook]
    show (r.computeActiveHolds now acct.id >>= _) = _
    rw [hholds]
    rfl

/-- `CheckWithdrawal` accepts what an active account has available. -/
theorem checkWithdrawal_eq_ok {r : Register Amount} {now : Time} {id : AccountID}
    {amount : Amount} : r.checkWithdrawal now id amount = .ok () ↔
      ∃ acct available, r.accounts.lookup id = some acct ∧ acct.status = .active ∧
        r.available now acct = .ok available ∧ ¬available - amount < 0 := by
  have hsuff : ∀ available : Amount,
      (if available - amount < 0 then Except.error Err.insufficientAvailable
        else Except.ok ()) = .ok () ↔ ¬available - amount < 0 := by
    intro available
    split <;> simp_all
  simp only [checkWithdrawal, Call.except_bind_eq_ok, getAccount_eq_ok,
    requireActive_eq_ok, hsuff]
  simp

omit [AddCommGroup Amount] [LinearOrder Amount] in
/-- `ReleaseHold` goes through on an active hold. -/
theorem releaseHold_of_active {r : Register Amount} {id : HoldID} {h : Hold Amount}
    (hh : r.holds.lookup id = some h) (hactive : h.status = .active) (now : Time) :
    releaseHold now id r
      = .ok () ((r.withHold id h .released).log now .holdReleased h.id.val (.hold h.id)) := by
  rw [releaseHold, Call.get_bind, hh, orThrow_some_bind, require_bind_of hactive]
  rfl

omit [AddCommGroup Amount] [LinearOrder Amount] in
/-- `ReleaseHold` fails without effect, or releases an active hold. -/
theorem releaseHold_cases (now : Time) (id : HoldID) (r : Register Amount) :
    (∃ e, releaseHold now id r = .error e r) ∨
      ∃ h, r.holds.lookup id = some h ∧ h.status = .active ∧
        releaseHold now id r
          = .ok () ((r.withHold id h .released).log now .holdReleased h.id.val
              (.hold h.id)) := by
  rw [releaseHold, Call.get_bind]
  cases hh : r.holds.lookup id with
  | none => exact .inl ⟨_, rfl⟩
  | some h =>
    rw [orThrow_some_bind]
    by_cases hstatus : h.status = .active
    · rw [require_bind_of hstatus]
      exact .inr ⟨h, rfl, hstatus, rfl⟩
    · exact .inl ⟨_, require_bind_of_not hstatus ..⟩

/-- The request `CaptureHold` posts. -/
def captureRequest (acct : Account Amount) (h : Hold Amount)
    (counterparty : Ledger.AccountID) (captureAmount : Amount)
    (description : String) : PostTransactionRequest Amount where
  description := description
  entries := transfer acct.glAccount counterparty
    (if captureAmount ≤ 0 then h.amount else captureAmount)

/-- The register after `CaptureHold`. -/
def afterCapture (r : Register Amount) (now : Time) (id : HoldID)
    (h : Hold Amount) (req : PostTransactionRequest Amount) : Register Amount :=
  let tx := r.book.newTransaction now req
  ((r.withBook (r.book.record now tx)).withHold id h .captured).log now
    .holdCaptured h.id.val (.capture h.id tx.id)

/-- `CaptureHold` goes through on an active hold when the ledger takes the posting. -/
theorem captureHold_of_accepts {r : Register Amount} {id : HoldID} {h : Hold Amount}
    {acct : Account Amount} {counterparty : Ledger.AccountID} {captureAmount : Amount}
    {description : String} (hh : r.holds.lookup id = some h) (hactive : h.status = .active)
    (hacct : r.accounts.lookup h.accountID = some acct)
    (hacc : r.book.Accepts (captureRequest acct h counterparty captureAmount description))
    (now : Time) :
    captureHold now id counterparty captureAmount description r
      = .ok (r.book.newTransaction now
          (captureRequest acct h counterparty captureAmount description))
        (r.afterCapture now id h
          (captureRequest acct h counterparty captureAmount description)) := by
  rw [captureHold, Call.get_bind, hh, orThrow_some_bind, require_bind_of hactive, hacct,
    orThrow_some_bind]
  have hpost := Book.postTransaction_of_accepts hacc now
  exact Call.bind_of_ok (Call.zoom_of_ok hpost) _

/-- `CaptureHold` fails without effect, or posts the capture of an active hold
and marks the hold. -/
theorem captureHold_cases (now : Time) (id : HoldID)
    (counterparty : Ledger.AccountID) (captureAmount : Amount)
    (description : String) (r : Register Amount) :
    (∃ e, captureHold now id counterparty captureAmount description r = .error e r) ∨
      ∃ h acct, r.holds.lookup id = some h ∧ h.status = .active ∧
        r.accounts.lookup h.accountID = some acct ∧
        r.book.Accepts (captureRequest acct h counterparty captureAmount description) ∧
        captureHold now id counterparty captureAmount description r
          = .ok (r.book.newTransaction now
              (captureRequest acct h counterparty captureAmount description))
            (r.afterCapture now id h
              (captureRequest acct h counterparty captureAmount description)) := by
  cases hh : r.holds.lookup id with
  | none =>
    left
    rw [captureHold, Call.get_bind, hh]
    exact ⟨_, rfl⟩
  | some h =>
    by_cases hactive : h.status = .active
    swap
    · left
      rw [captureHold, Call.get_bind, hh, orThrow_some_bind]
      exact ⟨_, require_bind_of_not hactive ..⟩
    cases hacct : r.accounts.lookup h.accountID with
    | none =>
      left
      rw [captureHold, Call.get_bind, hh, orThrow_some_bind, require_bind_of hactive, hacct]
      exact ⟨_, rfl⟩
    | some acct =>
      by_cases hacc : r.book.Accepts
          (captureRequest acct h counterparty captureAmount description)
      · exact .inr ⟨h, acct, rfl, hactive, hacct, hacc,
          captureHold_of_accepts hh hactive hacct hacc now⟩
      · left
        rw [captureHold, Call.get_bind, hh, orThrow_some_bind, require_bind_of hactive, hacct,
          orThrow_some_bind]
        obtain ⟨e, hpost, -⟩ := Book.postTransaction_of_not_accepts hacc now
        exact ⟨.ledger e, Call.bind_of_error (Call.zoom_of_error hpost) _⟩

omit [LinearOrder Amount] in
/-- `TakeEndOfDaySnapshot` fails without effect, or stores a snapshot. -/
theorem takeEndOfDaySnapshot_cases (now : Time) (id : AccountID) (date : Time)
    (r : Register Amount) :
    (∃ e, takeEndOfDaySnapshot now id date r = .error e r) ∨
      ∃ snap, takeEndOfDaySnapshot now id date r
        = .ok snap ((r.withSnapshot id snap).log now .snapshotTaken id.val
            (.snapshot snap)) := by
  rw [takeEndOfDaySnapshot, Call.get_bind]
  cases hacct : r.accounts.lookup id with
  | none => exact .inl ⟨_, rfl⟩
  | some acct =>
    rw [orThrow_some_bind]
    cases hbook : r.bookBalance acct with
    | error e => exact .inl ⟨e, rfl⟩
    | ok book =>
      rw [Call.ofExcept_ok_bind]
      cases hholds : r.computeActiveHolds now id with
      | error e => exact .inl ⟨e, rfl⟩
      | ok holds => exact .inr ⟨_, rfl⟩

end Specs

/-! ## Operations -/

/-- The mutating operations of a register, with their arguments. -/
inductive Op (Amount : Type) where
  | openAccount (subledger : Ledger.SubledgerID) (name : String)
      (overdraftLimit : Amount)
  | freeze (id : AccountID)
  | unfreeze (id : AccountID)
  | markDormant (id : AccountID)
  | reactivate (id : AccountID)
  | close (id : AccountID)
  | createHold (req : CreateHoldRequest Amount)
  | releaseHold (id : HoldID)
  | captureHold (id : HoldID) (counterparty : Ledger.AccountID)
      (captureAmount : Amount) (description : String)
  | takeEndOfDaySnapshot (id : AccountID) (date : Time)

/-- The account whose status an operation changes, and the new status. -/
def Op.target : Op Amount → Option (AccountID × AccountStatus)
  | .freeze id => some (id, .frozen)
  | .unfreeze id => some (id, .active)
  | .markDormant id => some (id, .dormant)
  | .reactivate id => some (id, .active)
  | .close id => some (id, .closed)
  | _ => none

/-- The status changes, and the event each of them logs. -/
inductive Op.Moves : Op Amount → AccountID → AccountStatus → AccountStatus →
    AuditEventType → Prop
  | freeze (id : AccountID) : Moves (.freeze id) id .active .frozen .accountFrozen
  | unfreeze (id : AccountID) : Moves (.unfreeze id) id .frozen .active .accountUnfrozen
  | markDormant (id : AccountID) :
      Moves (.markDormant id) id .active .dormant .accountDormant
  | reactivate (id : AccountID) :
      Moves (.reactivate id) id .dormant .active .accountReactivated
  | close (id : AccountID) (source : AccountStatus) (h : source ≠ .closed) :
      Moves (.close id) id source .closed .accountClosed

theorem Op.Moves.target {op : Op Amount} {id : AccountID} {source target : AccountStatus}
    {eventType : AuditEventType} (h : op.Moves id source target eventType) :
    op.target = some (id, target) := by
  cases h <;> rfl

/-- A closed account stays closed. -/
theorem Op.Moves.source_ne {op : Op Amount} {id : AccountID}
    {source target : AccountStatus} {eventType : AuditEventType}
    (h : op.Moves id source target eventType) : source ≠ .closed := by
  cases h with
  | close _ _ hopen => exact hopen
  | _ => decide

/-- A change of status changes it. -/
theorem Op.Moves.target_ne {op : Op Amount} {id : AccountID}
    {source target : AccountStatus} {eventType : AuditEventType}
    (h : op.Moves id source target eventType) : target ≠ source := by
  cases h with
  | close _ _ hopen => exact hopen.symm
  | _ => decide

/-- Only `Close` closes an account. -/
theorem Op.Moves.closed_iff {op : Op Amount} {id : AccountID}
    {source target : AccountStatus} {eventType : AuditEventType}
    (h : op.Moves id source target eventType) : target = .closed ↔ op = .close id := by
  cases h <;> simp

variable [AddCommGroup Amount] [LinearOrder Amount]

/-- Call an operation and drop its result. -/
def call (now : Time) : Op Amount → Call (Register Amount) Err Unit
  | .openAccount subledger name overdraftLimit =>
    (openAccount now subledger name overdraftLimit).discard
  | .freeze id => freeze now id
  | .unfreeze id => unfreeze now id
  | .markDormant id => markDormant now id
  | .reactivate id => reactivate now id
  | .close id => close now id
  | .createHold req => (createHold now req).discard
  | .releaseHold id => releaseHold now id
  | .captureHold id counterparty captureAmount description =>
    (captureHold now id counterparty captureAmount description).discard
  | .takeEndOfDaySnapshot id date => (takeEndOfDaySnapshot now id date).discard

/-- The call is a capture that goes through: of an active hold of the account, in favour of
the counterparty. -/
inductive Captures (r : Register Amount) :
    Op Amount → Hold Amount → Account Amount → Ledger.AccountID → Amount → Prop
  | intro (k : HoldID) (counterparty : Ledger.AccountID) (captureAmount : Amount)
      (description : String) (h : Hold Amount) (acct : Account Amount)
      (hk : r.holds.lookup k = some h) (hactive : h.status = .active)
      (hacct : r.accounts.lookup h.accountID = some acct)
      (hacc : r.book.Accepts
        (captureRequest acct h counterparty captureAmount description)) :
      Captures r (.captureHold k counterparty captureAmount description) h acct
        counterparty (h.captured captureAmount)

/-- A change of status is not a capture. -/
theorem Op.Moves.not_captures {op : Op Amount} {id : AccountID}
    {source target : AccountStatus} {eventType : AuditEventType}
    (hmoves : op.Moves id source target eventType) {r : Register Amount} {h : Hold Amount}
    {acct : Account Amount} {counterparty : Ledger.AccountID} {amount : Amount} :
    ¬r.Captures op h acct counterparty amount := by
  intro hcap
  cases hcap
  cases hmoves.target

/-- What a successful call can do to a register. -/
inductive Change (now : Time) (r : Register Amount) :
    Op Amount → Register Amount → Prop
  | opened (subledger : Ledger.SubledgerID) (name : String)
      (overdraftLimit : Amount) :
      Change now r (.openAccount subledger name overdraftLimit)
        (r.addAccount now subledger name overdraftLimit)
  | status {op : Op Amount} (id : AccountID) (status : AccountStatus)
      (eventType : AuditEventType) (acct : Account Amount)
      (htarget : op.target = some (id, status))
      (hacct : r.accounts.lookup id = some acct) :
      Change now r op (r.withStatus now id acct status eventType)
  | held (req : CreateHoldRequest Amount) (hpos : 0 < req.amount) :
      Change now r (.createHold req) (r.addHoldTo now req)
  | released (id : HoldID) (h : Hold Amount) (hh : r.holds.lookup id = some h) :
      Change now r (.releaseHold id)
        ((r.withHold id h .released).log now .holdReleased h.id.val (.hold h.id))
  | captured (id : HoldID) (counterparty : Ledger.AccountID)
      (captureAmount : Amount) (description : String) (h : Hold Amount)
      (req : PostTransactionRequest Amount) (hh : r.holds.lookup id = some h)
      (hkey : req.idempotencyKey = "") (hacc : r.book.Accepts req)
      (hentries : ∃ debit amount, req.entries = transfer debit counterparty amount) :
      Change now r (.captureHold id counterparty captureAmount description)
        (r.afterCapture now id h req)
  | snapshot (id : AccountID) (date : Time) (snap : Snapshot Amount) :
      Change now r (.takeEndOfDaySnapshot id date)
        ((r.withSnapshot id snap).log now .snapshotTaken id.val (.snapshot snap))

/-- What a successful call does, and the conditions it has checked. -/
inductive Transition (now : Time) (r : Register Amount) :
    Op Amount → Register Amount → Prop
  | opened (subledger : Ledger.SubledgerID) (name : String)
      (overdraftLimit : Amount) :
      Transition now r (.openAccount subledger name overdraftLimit)
        (r.addAccount now subledger name overdraftLimit)
  | status {op : Op Amount} (id : AccountID) (target : AccountStatus)
      (eventType : AuditEventType) (acct : Account Amount)
      (hmoves : op.Moves id acct.status target eventType)
      (hacct : r.accounts.lookup id = some acct)
      (hempty : target = .closed → r.bookBalance acct = .ok 0) :
      Transition now r op (r.withStatus now id acct target eventType)
  | held (req : CreateHoldRequest Amount) (acct : Account Amount) (available : Amount)
      (hacct : r.accounts.lookup req.accountID = some acct)
      (hactive : acct.status = .active) (hpos : 0 < req.amount)
      (havail : r.available now acct = .ok available)
      (hsuff : ¬available - req.amount < 0) :
      Transition now r (.createHold req) (r.addHoldTo now req)
  | released (id : HoldID) (h : Hold Amount) (hh : r.holds.lookup id = some h)
      (hactive : h.status = .active) :
      Transition now r (.releaseHold id)
        ((r.withHold id h .released).log now .holdReleased h.id.val (.hold h.id))
  | captured (id : HoldID) (counterparty : Ledger.AccountID)
      (captureAmount : Amount) (description : String) (h : Hold Amount)
      (acct : Account Amount) (hh : r.holds.lookup id = some h)
      (hactive : h.status = .active) (hacct : r.accounts.lookup h.accountID = some acct)
      (hacc : r.book.Accepts
        (captureRequest acct h counterparty captureAmount description)) :
      Transition now r (.captureHold id counterparty captureAmount description)
        (r.afterCapture now id h
          (captureRequest acct h counterparty captureAmount description))
  | snapshot (id : AccountID) (date : Time) (snap : Snapshot Amount) :
      Transition now r (.takeEndOfDaySnapshot id date)
        ((r.withSnapshot id snap).log now .snapshotTaken id.val (.snapshot snap))

/-- The change, without the conditions. -/
theorem Transition.change {now : Time} {r r' : Register Amount} {op : Op Amount}
    (h : Transition now r op r') : Change now r op r' := by
  cases h with
  | opened subledger name overdraftLimit => exact .opened subledger name overdraftLimit
  | status id target eventType acct hmoves hacct =>
    exact .status id target eventType acct hmoves.target hacct
  | held req acct available hacct hactive hpos => exact .held req hpos
  | released id h hh => exact .released id h hh
  | captured id counterparty captureAmount description h acct hh hactive hacct hacc =>
    exact .captured id counterparty captureAmount description h _ hh rfl hacc ⟨_, _, rfl⟩
  | snapshot id date snap => exact .snapshot id date snap

/-- A status operation fails without effect, or changes the status. -/
theorem changeStatus_transition {op : Op Amount} {source target : AccountStatus}
    {eventType : AuditEventType} {now : Time} {id : AccountID}
    {r : Register Amount} (hmoves : op.Moves id source target eventType)
    (htarget : target ≠ .closed) :
    (∃ e, changeStatus source target eventType now id r = .error e r) ∨
      ∃ r', changeStatus source target eventType now id r = .ok () r' ∧
        Transition now r op r' := by
  rw [changeStatus_eq]
  cases hacct : r.accounts.lookup id with
  | none => exact .inl ⟨_, rfl⟩
  | some acct =>
    dsimp only
    split
    · next hstatus =>
      exact .inr ⟨_, rfl, .status id target eventType acct (hstatus ▸ hmoves) hacct
        fun h => absurd h htarget⟩
    · exact .inl ⟨_, rfl⟩

/-- A call fails without effect, or its conditions hold and it makes its change. -/
theorem call_transition (now : Time) (op : Op Amount) (r : Register Amount) :
    (∃ e, call now op r = .error e r) ∨
      ∃ r', call now op r = .ok () r' ∧ Transition now r op r' := by
  cases op with
  | openAccount subledger name overdraftLimit =>
    have heq := openAccount_eq r now subledger name overdraftLimit
    split at heq
    · exact .inl ⟨_, Call.discard_of_error heq⟩
    · exact .inr ⟨_, Call.discard_of_ok heq, .opened subledger name overdraftLimit⟩
  | freeze id => exact changeStatus_transition (.freeze id) (by decide)
  | unfreeze id => exact changeStatus_transition (.unfreeze id) (by decide)
  | markDormant id => exact changeStatus_transition (.markDormant id) (by decide)
  | reactivate id => exact changeStatus_transition (.reactivate id) (by decide)
  | close id =>
    rcases close_cases now id r with h | ⟨acct, hacct, hopen, hempty, heq⟩
    · exact .inl h
    · exact .inr ⟨_, heq, .status id .closed .accountClosed acct
        (.close id acct.status hopen) hacct fun _ => hempty⟩
  | createHold req =>
    rcases createHold_cases now req r with
      ⟨e, heq⟩ | ⟨acct, available, hacct, hactive, hpos, havail, hsuff, heq⟩
    · exact .inl ⟨e, Call.discard_of_error heq⟩
    · exact .inr ⟨_, Call.discard_of_ok heq, .held req acct available hacct
        (requireActive_eq_ok.mp hactive) hpos havail hsuff⟩
  | releaseHold id =>
    rcases releaseHold_cases now id r with h | ⟨h, hh, hactive, heq⟩
    · exact .inl h
    · exact .inr ⟨_, heq, .released id h hh hactive⟩
  | captureHold id counterparty captureAmount description =>
    rcases captureHold_cases now id counterparty captureAmount description r with
      ⟨e, heq⟩ | ⟨h, acct, hh, hactive, hacct, hacc, heq⟩
    · exact .inl ⟨e, Call.discard_of_error heq⟩
    · exact .inr ⟨_, Call.discard_of_ok heq, .captured id counterparty captureAmount
        description h acct hh hactive hacct hacc⟩
  | takeEndOfDaySnapshot id date =>
    rcases takeEndOfDaySnapshot_cases now id date r with ⟨e, heq⟩ | ⟨snap, heq⟩
    · exact .inl ⟨e, Call.discard_of_error heq⟩
    · exact .inr ⟨_, Call.discard_of_ok heq, .snapshot id date snap⟩

/-- A call fails without effect, or makes a change. -/
theorem call_cases (now : Time) (op : Op Amount) (r : Register Amount) :
    (∃ e, call now op r = .error e r) ∨
      ∃ r', call now op r = .ok () r' ∧ Change now r op r' := by
  rcases call_transition now op r with herr | ⟨r', hok, ht⟩
  · exact .inl herr
  · exact .inr ⟨r', hok, ht.change⟩

end Register

end CoreBanking.Deposit
