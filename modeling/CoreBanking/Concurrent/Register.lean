import CoreBanking.Base.Program
import CoreBanking.Payment.Effects

/-!
# Calls on a bank, with their locks

A network, each register and each ledger has a reader-writer mutex of its own. A call on a
ledger is one section under the lock of the ledger. A call on a register holds the lock of
the register throughout, and takes that of the ledger for the one access that it makes to it.

- `Lock`, `Lock.rank`: the mutexes, and the order in which they are taken;
- `Sections`: a call on a register, cut before and after its access to the ledger. The
  operations that access it are instances, each of which in sequence is the operation of the
  register (`run_*`);
- `Sections.program`: the sections under their locks. Run alone, they are the sequence
  (`alone_program`).

A call reads its clock once.
-/

namespace CoreBanking.Concurrent

open Ledger (Book)
open Deposit (Register)
open Payment

/-- The mutexes of a network: its own, those of the registers and ledgers of its banks, and
that of the central-bank ledger. -/
inductive Lock where
  | network
  | register (i : ParticipantID)
  | book (i : ParticipantID)
  | centralBank
deriving DecidableEq

/-- The network is locked before a register, and a register before a ledger. -/
def Lock.rank : Lock → ℕ
  | .network => 0
  | .register _ => 1
  | .book _ => 2
  | .centralBank => 2

/-- What a goroutine does to a network. -/
abbrev Program (Amount α : Type) : Type := Prog Lock Time (Network Amount) Err α

variable {Amount α β γ : Type}

/-! ## Ledgers -/

/-- A call on the ledger of bank `i`, under its lock. -/
def onLedger (i : ParticipantID) (m : Mode) (x : Time → Call (Book Amount) Ledger.Err α) :
    Program Amount α :=
  .withLock (.book i) m (.critical fun now => Network.onLedger i (x now))

/-- A call on the central-bank ledger, under its lock. -/
def onCentralBank (m : Mode) (x : Time → Call (Book Amount) Ledger.Err α) : Program Amount α :=
  .withLock .centralBank m (.critical fun now => Network.onCentralBank (x now))

@[simp] theorem alone_onLedger (now : Time) (i : ParticipantID) (m : Mode)
    (x : Time → Call (Book Amount) Ledger.Err α) :
    (onLedger i m x).alone now = Network.onLedger i (x now) := by
  rw [onLedger, Prog.alone_withLock, Prog.alone_critical]

@[simp] theorem alone_onCentralBank (now : Time) (m : Mode)
    (x : Time → Call (Book Amount) Ledger.Err α) :
    (onCentralBank m x).alone now = Network.onCentralBank (x now) := by
  rw [onCentralBank, Prog.alone_withLock, Prog.alone_critical]

/-! ## Registers -/

/-- A call on the register of bank `i` that leaves the ledger alone. -/
def onRegister (i : ParticipantID) (m : Mode) (x : Time → Call (Register Amount) Deposit.Err α) :
    Program Amount α :=
  .withLock (.register i) m (.critical fun now => Network.onDeposit i (x now))

/-- A call on a register that accesses the ledger once: what it does before, the access, and
what it does with the result. -/
structure Sections (Amount γ β α : Type) where
  check : Call (Register Amount) Deposit.Err γ
  access : Time → γ → Call (Register Amount) Deposit.Err β
  finish : Time → γ → β → Call (Register Amount) Deposit.Err α

/-- The sections in sequence. -/
def Sections.run (x : Sections Amount γ β α) (now : Time) :
    Call (Register Amount) Deposit.Err α := do
  let c ← x.check
  let b ← x.access now c
  x.finish now c b

/-- The sections at bank `i`, under the lock of the register. -/
def Sections.program (x : Sections Amount γ β α) (i : ParticipantID) (m m' : Mode) :
    Program Amount α :=
  .withLock (.register i) m do
    let now ← .clock
    let c ← .critical fun _ => Network.onDeposit i x.check
    let b ← .withLock (.book i) m' (.critical fun _ => Network.onDeposit i (x.access now c))
    .critical fun _ => Network.onDeposit i (x.finish now c b)

@[simp] theorem alone_onRegister (now : Time) (i : ParticipantID) (m : Mode)
    (x : Time → Call (Register Amount) Deposit.Err α) :
    (onRegister i m x).alone now = Network.onDeposit i (x now) := by
  rw [onRegister, Prog.alone_withLock, Prog.alone_critical]

/-- A call on a register that fails keeps what it has written. -/
theorem onDeposit_error {i : ParticipantID} {s : Network Amount} {p : Participant Amount}
    (hp : s.participants.lookup i = some p) {x : Call (Register Amount) Deposit.Err α}
    {e : Deposit.Err} {r : Register Amount} (hx : x p.deposit = .error e r) :
    Network.onDeposit i x s = .error (.deposit e) (s.setParticipant i (p.withDeposit r)) := by
  rw [Network.onDeposit, Call.get_bind, hp, orThrow_some_bind]
  exact Call.zoom_of_error hx

theorem onDeposit_missing {i : ParticipantID} {s : Network Amount}
    (hp : s.participants.lookup i = none) (x : Call (Register Amount) Deposit.Err α) :
    Network.onDeposit i x s = .error .participantNotFound s := by
  rw [Network.onDeposit, Call.get_bind, hp]
  rfl

/-- A read of a register changes nothing. -/
theorem onDeposit_reading {i : ParticipantID} {s : Network Amount} {p : Participant Amount}
    (hp : s.participants.lookup i = some p) (f : Register Amount → Except Deposit.Err α) :
    Network.onDeposit i (.reading f) s = Call.ofExcept ((f p.deposit).mapError .deposit) s := by
  have hsame : s.setParticipant i (p.withDeposit p.deposit) = s := Network.setParticipant_self hp
  cases hf : f p.deposit with
  | ok a =>
    have hread : Call.reading f p.deposit = .ok a p.deposit := by
      show Call.ofExcept (f p.deposit) p.deposit = _
      rw [hf]
      rfl
    rw [Network.onDeposit_of_ok hp hread]
    show EStateM.Result.ok a (s.setParticipant i (p.withDeposit p.deposit)) = _
    rw [hsame]
    rfl
  | error e =>
    have hread : Call.reading f p.deposit = .error e p.deposit := by
      show Call.ofExcept (f p.deposit) p.deposit = _
      rw [hf]
      rfl
    rw [onDeposit_error hp hread, hsame]
    rfl

theorem setParticipant_setParticipant (s : Network Amount) (i : ParticipantID)
    (p p' : Participant Amount) :
    (s.setParticipant i p).setParticipant i p' = s.setParticipant i p' := by
  unfold Network.setParticipant
  simp only [Finmap.insert_insert]

/-- Two calls on a register in sequence. -/
theorem onDeposit_bind (i : ParticipantID) (x : Call (Register Amount) Deposit.Err α)
    (f : α → Call (Register Amount) Deposit.Err β) :
    Network.onDeposit i (x >>= f)
      = Network.onDeposit i x >>= fun a => Network.onDeposit i (f a) := by
  funext s
  cases hp : s.participants.lookup i with
  | none => rw [onDeposit_missing hp, Call.bind_of_error (onDeposit_missing hp x)]
  | some p =>
    cases hx : x p.deposit with
    | error e r =>
      rw [onDeposit_error hp (Call.bind_of_error hx f), Call.bind_of_error (onDeposit_error hp hx)]
    | ok a r =>
      have hp' : (s.setParticipant i (p.withDeposit r)).participants.lookup i
          = some (p.withDeposit r) := Finmap.lookup_insert _
      have hbind : (x >>= f) p.deposit = f a r := Call.bind_of_ok hx f
      rw [Call.bind_of_ok (Network.onDeposit_of_ok hp hx)]
      cases hf : f a r with
      | ok b r' =>
        rw [Network.onDeposit_of_ok hp (hbind.trans hf), Network.onDeposit_of_ok hp' hf,
          setParticipant_setParticipant]
        rfl
      | error e r' =>
        rw [onDeposit_error hp (hbind.trans hf), onDeposit_error hp' hf,
          setParticipant_setParticipant]
        rfl

/-- Run alone, the sections follow one another. -/
@[simp] theorem Sections.alone_program (x : Sections Amount γ β α) (now : Time)
    (i : ParticipantID) (m m' : Mode) :
    (x.program i m m').alone now = Network.onDeposit i (x.run now) := by
  rw [program, Prog.alone_withLock, Prog.alone_clock_bind, Prog.alone_bind, run,
    onDeposit_bind]
  simp only [Prog.alone_bind, Prog.alone_critical, Prog.alone_withLock, onDeposit_bind]

/-! ## Operations -/

/-- `OpenAccount`. -/
def openAccountSections (subledger : Ledger.SubledgerID) (name : String)
    (overdraftLimit : Amount) : Sections Amount Unit Ledger.Account (Deposit.Account Amount) where
  check := pure ()
  access now _ := Register.onBook (Book.createAccount now subledger name .liability)
  finish now _ gl := do
    let id ← Register.nextID "dep"
    let acct : Deposit.Account Amount := ⟨⟨id⟩, gl.id, name, .active, overdraftLimit, now⟩
    modify fun r => { r with accounts := r.accounts.insert acct.id acct }
    Register.appendAudit now .accountOpened acct.id.val (.account acct.id)
    pure acct

@[inherit_doc openAccountSections]
def openAccount (i : ParticipantID) (subledger : Ledger.SubledgerID) (name : String)
    (overdraftLimit : Amount) : Program Amount (Deposit.Account Amount) :=
  (openAccountSections subledger name overdraftLimit).program i .write .write

theorem run_openAccount (now : Time) (subledger : Ledger.SubledgerID) (name : String)
    (limit : Amount) : (openAccountSections subledger name limit).run now
      = Register.openAccount now subledger name limit := rfl

def getAccount (i : ParticipantID) (id : Deposit.AccountID) :
    Program Amount (Deposit.Account Amount) :=
  onRegister i .read fun _ => .reading fun r => r.getAccount id

def freeze (i : ParticipantID) (id : Deposit.AccountID) : Program Amount Unit :=
  onRegister i .write fun now => Register.freeze now id

def unfreeze (i : ParticipantID) (id : Deposit.AccountID) : Program Amount Unit :=
  onRegister i .write fun now => Register.unfreeze now id

def markDormant (i : ParticipantID) (id : Deposit.AccountID) : Program Amount Unit :=
  onRegister i .write fun now => Register.markDormant now id

def reactivate (i : ParticipantID) (id : Deposit.AccountID) : Program Amount Unit :=
  onRegister i .write fun now => Register.reactivate now id

def releaseHold (i : ParticipantID) (id : Deposit.HoldID) : Program Amount Unit :=
  onRegister i .write fun now => Register.releaseHold now id

def getSnapshot (i : ParticipantID) (id : Deposit.AccountID) (date : Time) :
    Program Amount (Deposit.Snapshot Amount) :=
  onRegister i .read fun _ => .reading fun r => r.getSnapshot id date

section Balances

variable [AddCommGroup Amount]

/-- `GetBalance`. -/
def getBalanceSections (id : Deposit.AccountID) :
    Sections Amount (Deposit.Account Amount) Amount (Deposit.Balance Amount) where
  check := .reading fun r => r.getAccount id
  access _ acct := .reading fun r => r.bookBalance acct
  finish now acct book := .reading fun r => do
    let holds ← r.computeActiveHolds now id
    pure ⟨book, holds, book - holds + acct.overdraftLimit⟩

@[inherit_doc getBalanceSections]
def getBalance (i : ParticipantID) (id : Deposit.AccountID) :
    Program Amount (Deposit.Balance Amount) :=
  (getBalanceSections id).program i .read .read

theorem run_getBalance (now : Time) (id : Deposit.AccountID) :
    (getBalanceSections id : Sections Amount _ _ _).run now
      = .reading fun r => r.getBalance now id := by
  funext r
  simp only [Sections.run, getBalanceSections, Register.getBalance, Call.reading,
    Call.ofExcept_bind]
  refine Call.ofExcept_bind_congr fun acct _ => Call.ofExcept_bind_congr fun book _ => ?_
  rfl

/-- `TakeEndOfDaySnapshot`. -/
def snapshotSections (id : Deposit.AccountID) (date : Time) :
    Sections Amount (Deposit.Account Amount) Amount (Deposit.Snapshot Amount) where
  check := do
    let r ← get
    orThrow (r.accounts.lookup id) .accountNotFound
  access _ acct := .reading fun r => r.bookBalance acct
  finish now acct book := do
    let r ← get
    let holds ← Call.ofExcept (r.computeActiveHolds now id)
    let snap : Deposit.Snapshot Amount :=
      { accountID := id
        date := date
        balance := ⟨book, holds, book - holds + acct.overdraftLimit⟩
        takenAt := now }
    modify fun r => { r with
      snapshots := r.snapshots.insert id
        (((r.snapshots.lookup id).getD ∅).insert date.dateKey snap) }
    Register.appendAudit now .snapshotTaken id.val (.snapshot snap)
    pure snap

@[inherit_doc snapshotSections]
def takeEndOfDaySnapshot (i : ParticipantID) (id : Deposit.AccountID) (date : Time) :
    Program Amount (Deposit.Snapshot Amount) :=
  (snapshotSections id date).program i .write .read

theorem run_takeEndOfDaySnapshot (now : Time) (id : Deposit.AccountID) (date : Time) :
    (snapshotSections id date : Sections Amount _ _ _).run now
      = Register.takeEndOfDaySnapshot now id date := by
  funext r
  simp only [Sections.run, snapshotSections, Register.takeEndOfDaySnapshot, Call.reading,
    bind_assoc]
  refine orThrow_bind_congr fun acct _ => Call.ofExcept_bind_congr fun book _ => ?_
  rfl

variable [LinearOrder Amount]

/-- `CheckWithdrawal`. -/
def checkWithdrawalSections (id : Deposit.AccountID) (amount : Amount) :
    Sections Amount (Deposit.Account Amount) Amount Unit where
  check := .reading fun r => do
    let acct ← r.getAccount id
    Deposit.requireActive acct
    pure acct
  access _ acct := .reading fun r => r.bookBalance acct
  finish now acct book := .reading fun r => do
    let holds ← r.computeActiveHolds now acct.id
    if book - holds + acct.overdraftLimit - amount < 0 then .error .insufficientAvailable
    else .ok ()

@[inherit_doc checkWithdrawalSections]
def checkWithdrawal (i : ParticipantID) (id : Deposit.AccountID) (amount : Amount) :
    Program Amount Unit :=
  (checkWithdrawalSections id amount).program i .read .read

theorem run_checkWithdrawal (now : Time) (id : Deposit.AccountID) (amount : Amount) :
    (checkWithdrawalSections id amount).run now
      = .reading fun r => r.checkWithdrawal now id amount := by
  funext r
  simp only [Sections.run, checkWithdrawalSections, Register.checkWithdrawal,
    Register.available, Call.reading, Call.ofExcept_bind, bind_assoc]
  refine Call.ofExcept_bind_congr fun acct _ => Call.ofExcept_bind_congr fun _ _ => ?_
  show (Call.ofExcept (r.bookBalance acct) >>= _) r = _
  refine Call.ofExcept_bind_congr fun book _ => Call.ofExcept_bind_congr fun holds _ => ?_
  rfl

/-- `Close`. -/
def closeSections (id : Deposit.AccountID) :
    Sections Amount (Deposit.Account Amount) Amount Unit where
  check := do
    let r ← get
    let acct ← orThrow (r.accounts.lookup id) .accountNotFound
    require (acct.status ≠ .closed) .invalidStatusTransition
    pure acct
  access _ acct := .reading fun r => r.bookBalance acct
  finish now acct book := do
    require (book = 0) .accountNotEmpty
    Register.setStatus now id acct .closed .accountClosed

@[inherit_doc closeSections]
def close (i : ParticipantID) (id : Deposit.AccountID) : Program Amount Unit :=
  (closeSections id).program i .write .read

theorem run_close (now : Time) (id : Deposit.AccountID) :
    (closeSections id : Sections Amount _ _ _).run now = Register.close now id := by
  funext r
  simp only [Sections.run, closeSections, Register.close, Call.reading, bind_assoc, pure_bind]
  refine orThrow_bind_congr fun acct _ => require_bind_congr fun _ => ?_
  rfl

/-- `CreateHold`. -/
def createHoldSections (req : Deposit.CreateHoldRequest Amount) :
    Sections Amount (Deposit.Account Amount) Amount (Deposit.Hold Amount) where
  check := do
    let r ← get
    let acct ← orThrow (r.accounts.lookup req.accountID) .accountNotFound
    Call.ofExcept (Deposit.requireActive acct)
    require (0 < req.amount) .invalidAmount
    pure acct
  access _ acct := .reading fun r => r.bookBalance acct
  finish now acct book := do
    let r ← get
    let holds ← Call.ofExcept (r.computeActiveHolds now acct.id)
    require (¬book - holds + acct.overdraftLimit - req.amount < 0) .insufficientAvailable
    let id ← Register.nextID "hld"
    let h : Deposit.Hold Amount :=
      { id := ⟨id⟩
        accountID := req.accountID
        amount := req.amount
        expiresAt := req.expiresAt
        description := req.description
        status := .active
        createdAt := now }
    modify fun r => { r with
      holds := r.holds.insert h.id h
      accountHolds := r.accountHolds.insert req.accountID
        ((r.accountHolds.lookup req.accountID).getD [] ++ [h.id]) }
    Register.appendAudit now .holdCreated h.id.val (.hold h.id)
    pure h

@[inherit_doc createHoldSections]
def createHold (i : ParticipantID) (req : Deposit.CreateHoldRequest Amount) :
    Program Amount (Deposit.Hold Amount) :=
  (createHoldSections req).program i .write .read

theorem run_createHold (now : Time) (req : Deposit.CreateHoldRequest Amount) :
    (createHoldSections req).run now = Register.createHold now req := by
  funext r
  simp only [Sections.run, createHoldSections, Register.createHold, Register.available,
    Call.reading, Call.ofExcept_bind, bind_assoc, pure_bind]
  refine orThrow_bind_congr fun acct _ => Call.ofExcept_bind_congr fun _ _ =>
    require_bind_congr fun _ => Call.ofExcept_bind_congr fun book _ =>
    Call.ofExcept_bind_congr fun holds _ => ?_
  rfl

/-- `CaptureHold`. -/
def captureHoldSections (id : Deposit.HoldID) (counterparty : Ledger.AccountID)
    (captureAmount : Amount) (description : String) :
    Sections Amount (Deposit.Hold Amount × Deposit.Account Amount)
      (Ledger.Transaction Amount) (Ledger.Transaction Amount) where
  check := do
    let r ← get
    let h ← orThrow (r.holds.lookup id) .holdNotFound
    require (h.status = .active) .holdNotActive
    let acct ← orThrow (r.accounts.lookup h.accountID) .accountNotFound
    pure (h, acct)
  access now found := Register.onBook (Book.postTransaction now
    { description := description
      entries := Ledger.transfer found.2.glAccount counterparty
        (if captureAmount ≤ 0 then found.1.amount else captureAmount) })
  finish now found tx := do
    modify fun r => { r with
      holds := r.holds.insert id { found.1 with status := .captured } }
    Register.appendAudit now .holdCaptured found.1.id.val (.capture found.1.id tx.id)
    pure tx

@[inherit_doc captureHoldSections]
def captureHold (i : ParticipantID) (id : Deposit.HoldID) (counterparty : Ledger.AccountID)
    (captureAmount : Amount) (description : String) :
    Program Amount (Ledger.Transaction Amount) :=
  (captureHoldSections id counterparty captureAmount description).program i .write .write

theorem run_captureHold (now : Time) (id : Deposit.HoldID) (counterparty : Ledger.AccountID)
    (amount : Amount) (description : String) :
    (captureHoldSections id counterparty amount description).run now
      = Register.captureHold now id counterparty amount description := by
  funext r
  simp only [Sections.run, captureHoldSections, Register.captureHold, bind_assoc, pure_bind]

end Balances

end CoreBanking.Concurrent
