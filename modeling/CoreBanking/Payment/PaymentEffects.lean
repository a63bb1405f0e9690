import CoreBanking.Payment.Effects

/-!
# What the payment operations do

The specifications of `InitiatePayment`, `RejectPayment`, `ReturnPayment` and
`SettleCycle`, with the requests they post.

A return makes three postings; if the second is refused, the first stays
(`returnPayment_cases`). A settlement posts at the central bank, mirrors each
net position, and posts a creditor leg for each payment; if a mirror is
refused, what was posted before it stays (`settlePositions_cases`).
-/

namespace CoreBanking.Payment

open Ledger (Book newBook Entry PostTransactionRequest Transaction transfer)
open Deposit (Register)

namespace Network

variable {Amount : Type}

@[simp] theorem setParticipant_lookup (s : Network Amount) (i j : ParticipantID)
    (p : Participant Amount) : (s.setParticipant i p).participants.lookup j
      = if j = i then some p else s.participants.lookup j :=
  Finmap.lookup_insert_ite ..

/-! ## Initiating a payment -/

/-- What `InitiatePayment` posts. -/
def debitRequest (now : Time) (p : Payment Amount) (debtor : Participant Amount)
    (gl : Ledger.AccountID) : PostTransactionRequest Amount where
  idempotencyKey := p.id.debitKey
  description := p.description
  bookingDate := now
  valueDate := p.valueDate
  metadata := paymentMetadata p
  entries := transfer gl debtor.suspenseAccount p.amount

/-- The payment a request makes, before its debtor leg is posted. -/
def initialPayment (s : Network Amount) (now : Time)
    (req : InitiatePaymentRequest Amount) (scheme : Scheme) (cycleID : CycleID) :
    Payment Amount :=
  newPayment now req ⟨ident "pay" (s.idCounter + 1)⟩ scheme cycleID

/-- The payment as it is stored. -/
def acceptedPayment (s : Network Amount) (now : Time)
    (req : InitiatePaymentRequest Amount) (scheme : Scheme) (cycleID : CycleID)
    (debtor : Participant Amount) (gl : Ledger.AccountID) : Payment Amount :=
  let p := s.initialPayment now req scheme cycleID
  { p with
    debtorLegTx := some
      (debtor.ledger.newTransaction now (debitRequest now p debtor gl)).id
    status := .accepted }

/-- The network after `InitiatePayment`. -/
def withPayment (s : Network Amount) (now : Time)
    (req : InitiatePaymentRequest Amount) (scheme : Scheme) (cycleID : CycleID)
    (cycle : ClearingCycle Amount) (debtor : Participant Amount)
    (gl : Ledger.AccountID) : Network Amount :=
  let p := s.acceptedPayment now req scheme cycleID debtor gl
  { ((s.posted now req.debtor.participant debtor
      (debitRequest now (s.initialPayment now req scheme cycleID) debtor gl)).setCycle
        cycleID { cycle with paymentIDs := cycle.paymentIDs ++ [p.id] }).setPayment
          p.id p with
    endToEndIndex :=
      if req.endToEndID = "" then s.endToEndIndex
      else s.endToEndIndex.insert req.endToEndID p.id
    idCounter := s.idCounter + 1 }

/-- Every scheme asks the deposit layer of the debtor's bank. -/
theorem validate_checks [AddCommGroup Amount] [LinearOrder Amount] {sc : Scheme}
    {s : Network Amount} {now : Time} {p : Payment Amount} {b : Participant Amount}
    (hvalid : sc.validate s now p = .ok ())
    (hb : s.participants.lookup p.debtor.participant = some b) :
    b.deposit.checkWithdrawal now p.debtor.account p.amount = .ok () := by
  have hfunds : validateFunds s now p = .ok () := by
    cases sc with
    | sct => exact hvalid
    | sdd =>
      obtain ⟨_, -, hfunds⟩ := Call.except_bind_eq_ok.mp hvalid
      exact hfunds
  rw [validateFunds, hb] at hfunds
  cases ha : b.deposit.getAccount p.debtor.account with
  | error e => simp [ha] at hfunds
  | ok a =>
    simp only [ha] at hfunds
    cases hcheck : b.deposit.checkWithdrawal now p.debtor.account p.amount with
    | error e =>
      rw [hcheck] at hfunds
      cases hfunds
    | ok _ => rfl

/-- The conditions under which a payment is accepted. -/
structure Initiates [AddCommGroup Amount] [LinearOrder Amount]
    (s : Network Amount) (now : Time) (req : InitiatePaymentRequest Amount)
    (scheme : Scheme) (cycleID : CycleID) (cycle : ClearingCycle Amount)
    (debtor : Participant Amount) (acct : Deposit.Account Amount) : Prop where
  scheme_known : s.schemes.lookup req.scheme = some scheme
  positive : 0 < req.amount
  debtor_exists : s.Party req.debtor debtor acct
  creditor_exists : ∃ p a, s.Party req.creditor p a
  endToEnd : req.endToEndID = "" ∨ s.endToEndIndex.lookup req.endToEndID = none
  cycle_open : s.openCycle.lookup req.scheme = some cycleID
  cycle_stored : s.cycles.lookup cycleID = some cycle
  valid : scheme.validate { s with idCounter := s.idCounter + 1 } now
    (s.initialPayment now req scheme cycleID) = .ok ()
  accepts : debtor.ledger.Accepts (debitRequest now
    (s.initialPayment now req scheme cycleID) debtor acct.glAccount)

/-- A payment that has passed its checks, and the accounts of its debtor leg. -/
structure CheckedPayment (Amount : Type) where
  payment : Payment Amount
  debtorGL : Ledger.AccountID
  suspense : Ledger.AccountID

section Initiating

variable [AddCommGroup Amount] [LinearOrder Amount]

/-- `InitiatePayment` up to the posting of the debtor leg. -/
def checkPayment (now : Time) (req : InitiatePaymentRequest Amount) :
    Call (Network Amount) Err (CheckedPayment Amount) := do
  let s ← get
  let scheme ← orThrow (s.schemes.lookup req.scheme) .schemeNotFound
  require (0 < req.amount) .invalidPaymentAmount
  Call.ofExcept (s.checkParty req.debtor)
  Call.ofExcept (s.checkParty req.creditor)
  require (req.endToEndID = "" ∨ s.endToEndIndex.lookup req.endToEndID = none)
    .duplicateEndToEndID
  let cycleID ← orThrow (s.openCycle.lookup req.scheme) .cycleNotOpen
  let id ← nextID "pay"
  let p := newPayment now req ⟨id⟩ scheme cycleID
  let s ← get
  Call.ofExcept (scheme.validate s now p)
  let debtor ← orThrow (s.participants.lookup p.debtor.participant) .nilDereference
  let debtorGL ← Call.ofExcept (debtor.glAccount p.debtor.account)
  pure ⟨p, debtorGL, debtor.suspenseAccount⟩

/-- `InitiatePayment` from the posting of the debtor leg on. -/
def postPayment (now : Time) (c : CheckedPayment Amount) :
    Call (Network Amount) Err (Payment Amount) := do
  let p := c.payment
  let tx ← onLedger p.debtor.participant (Book.postTransaction now
    { idempotencyKey := p.id.debitKey
      description := p.description
      bookingDate := p.bookingDate
      valueDate := p.valueDate
      metadata := paymentMetadata p
      entries := transfer c.debtorGL c.suspense p.amount })
  let p ← transition { p with debtorLegTx := some tx.id } .accepted
  let s ← get
  let cycle ← orThrow (s.cycles.lookup p.cycleID) .nilDereference
  modify fun s => { (s.setCycle p.cycleID
      { cycle with paymentIDs := cycle.paymentIDs ++ [p.id] }).setPayment p.id p with
    endToEndIndex :=
      if p.endToEndID = "" then s.endToEndIndex
      else s.endToEndIndex.insert p.endToEndID p.id }
  pure p

/-- The debtor leg of a checked payment. -/
def CheckedPayment.debtorLeg (c : CheckedPayment Amount) : PostTransactionRequest Amount where
  idempotencyKey := c.payment.id.debitKey
  description := c.payment.description
  bookingDate := c.payment.bookingDate
  valueDate := c.payment.valueDate
  metadata := paymentMetadata c.payment
  entries := transfer c.debtorGL c.suspense c.payment.amount

/-- After the debtor leg of a payment is accepted no other bank changes and no id is drawn,
even if the rest of the call fails. -/
theorem postPayment_banks {s : Network Amount} {c : CheckedPayment Amount}
    {debtor : Participant Amount}
    (hbank : s.participants.lookup c.payment.debtor.participant = some debtor)
    (hacc : debtor.ledger.Accepts c.debtorLeg) (now : Time) :
    ((postPayment now c).final s).participants
        = (s.posted now c.payment.debtor.participant debtor c.debtorLeg).participants ∧
      ((postPayment now c).final s).idCounter = s.idCounter := by
  rw [Call.final, show postPayment now c s = _ from
    Call.bind_of_ok ((onLedger_post now hbank c.debtorLeg).1 hacc) _]
  by_cases hedge : PaymentStatus.accepted ∈ allowed c.payment.status
  · rw [transition_bind_of (by exact hedge), Call.get_bind]
    dsimp only
    cases (s.posted now c.payment.debtor.participant debtor c.debtorLeg).cycles.lookup
      c.payment.cycleID with
    | none => exact ⟨rfl, rfl⟩
    | some cycle => exact ⟨rfl, rfl⟩
  · rw [transition, Call.bind_of_error (require_bind_of_not hedge ..)]
    exact ⟨rfl, rfl⟩

/-- The two parts make up `InitiatePayment`. -/
theorem initiatePayment_eq (now : Time) (req : InitiatePaymentRequest Amount) :
    initiatePayment now req = checkPayment now req >>= postPayment now := by
  rw [initiatePayment, checkPayment]
  simp only [bind_assoc, pure_bind, postPayment]
  rfl

/-- What the checks of a payment have found. -/
structure Checks (s : Network Amount) (now : Time) (req : InitiatePaymentRequest Amount)
    (scheme : Scheme) (cycleID : CycleID) (debtor : Participant Amount)
    (acct : Deposit.Account Amount) : Prop where
  scheme_known : s.schemes.lookup req.scheme = some scheme
  positive : 0 < req.amount
  debtor_exists : s.Party req.debtor debtor acct
  creditor_exists : ∃ p a, s.Party req.creditor p a
  endToEnd : req.endToEndID = "" ∨ s.endToEndIndex.lookup req.endToEndID = none
  cycle_open : s.openCycle.lookup req.scheme = some cycleID
  valid : scheme.validate { s with idCounter := s.idCounter + 1 } now
    (s.initialPayment now req scheme cycleID) = .ok ()

/-- A request that passes the checks draws an id and makes a payment. -/
theorem Checks.checkPayment_ok {s : Network Amount} {now : Time}
    {req : InitiatePaymentRequest Amount} {scheme : Scheme} {cycleID : CycleID}
    {debtor : Participant Amount} {acct : Deposit.Account Amount}
    (hc : s.Checks now req scheme cycleID debtor acct) :
    checkPayment now req s = .ok ⟨s.initialPayment now req scheme cycleID, acct.glAccount,
      debtor.suspenseAccount⟩ { s with idCounter := s.idCounter + 1 } := by
  obtain ⟨creditor, creditorAcct, hcreditor⟩ := hc.creditor_exists
  rw [checkPayment, Call.get_bind, hc.scheme_known, orThrow_some_bind,
    require_bind_of hc.positive, hc.debtor_exists.checkParty, Call.ofExcept_ok_bind,
    hcreditor.checkParty, Call.ofExcept_ok_bind, require_bind_of hc.endToEnd, hc.cycle_open,
    orThrow_some_bind, nextID_bind, Call.get_bind]
  -- from here on the id is drawn
  have hvalid := hc.valid
  rw [initialPayment] at hvalid
  have hbank : s.participants.lookup (newPayment now req
      ⟨ident "pay" (s.idCounter + 1)⟩ scheme cycleID).debtor.participant
        = some debtor := hc.debtor_exists.bank
  have hgl : debtor.glAccount (newPayment now req
      ⟨ident "pay" (s.idCounter + 1)⟩ scheme cycleID).debtor.account
        = .ok acct.glAccount := hc.debtor_exists.glAccount
  dsimp only
  rw [hvalid, Call.ofExcept_ok_bind, hbank, orThrow_some_bind, hgl]
  rfl

/-- The checks fail and at most draw an id, or draw an id and make a payment. -/
theorem checkPayment_cases (s : Network Amount) (now : Time)
    (req : InitiatePaymentRequest Amount) :
    (∃ e, checkPayment now req s = .error e s) ∨
      (∃ e, checkPayment now req s = .error e { s with idCounter := s.idCounter + 1 }) ∨
      ∃ scheme cycleID debtor acct, s.Checks now req scheme cycleID debtor acct ∧
        checkPayment now req s
          = .ok ⟨s.initialPayment now req scheme cycleID, acct.glAccount,
              debtor.suspenseAccount⟩ { s with idCounter := s.idCounter + 1 } := by
  rw [checkPayment, Call.get_bind]
  cases hscheme : s.schemes.lookup req.scheme with
  | none => exact .inl ⟨_, rfl⟩
  | some scheme =>
    rw [orThrow_some_bind]
    by_cases hpos : 0 < req.amount
    swap
    · exact .inl ⟨_, require_bind_of_not hpos ..⟩
    rw [require_bind_of hpos]
    cases hdebtor : s.checkParty req.debtor with
    | error e => exact .inl ⟨e, rfl⟩
    | ok _ =>
      rw [Call.ofExcept_ok_bind]
      cases hcreditor : s.checkParty req.creditor with
      | error e => exact .inl ⟨e, rfl⟩
      | ok _ =>
        rw [Call.ofExcept_ok_bind]
        by_cases hend : req.endToEndID = "" ∨
            s.endToEndIndex.lookup req.endToEndID = none
        swap
        · exact .inl ⟨_, require_bind_of_not hend ..⟩
        rw [require_bind_of hend]
        cases hcycle : s.openCycle.lookup req.scheme with
        | none => exact .inl ⟨_, rfl⟩
        | some cycleID =>
          rw [orThrow_some_bind, nextID_bind, Call.get_bind]
          obtain ⟨debtor, acct, hparty⟩ := checkParty_ok hdebtor
          cases hvalid : scheme.validate { s with idCounter := s.idCounter + 1 } now
              (s.initialPayment now req scheme cycleID) with
          | error e =>
            refine .inr (.inl ⟨e, ?_⟩)
            rw [initialPayment] at hvalid
            rw [hvalid]
            rfl
          | ok _ =>
            have hc : s.Checks now req scheme cycleID debtor acct :=
              ⟨hscheme, hpos, hparty, checkParty_ok hcreditor, hend, hcycle, hvalid⟩
            have hok := hc.checkPayment_ok
            rw [checkPayment, Call.get_bind, hscheme, orThrow_some_bind, require_bind_of hpos,
              hdebtor, Call.ofExcept_ok_bind, hcreditor, Call.ofExcept_ok_bind,
              require_bind_of hend, hcycle, orThrow_some_bind, nextID_bind, Call.get_bind] at hok
            exact .inr (.inr ⟨scheme, cycleID, debtor, acct, hc, hok⟩)

/-- What passes the checks and is accepted by the debtor's ledger is accepted. -/
theorem Initiates.initiatePayment_ok {s : Network Amount} {now : Time}
    {req : InitiatePaymentRequest Amount} {scheme : Scheme} {cycleID : CycleID}
    {cycle : ClearingCycle Amount} {debtor : Participant Amount}
    {acct : Deposit.Account Amount}
    (hi : s.Initiates now req scheme cycleID cycle debtor acct) :
    initiatePayment now req s
      = .ok (s.acceptedPayment now req scheme cycleID debtor acct.glAccount)
        (s.withPayment now req scheme cycleID cycle debtor acct.glAccount) := by
  have hc : s.Checks now req scheme cycleID debtor acct :=
    ⟨hi.scheme_known, hi.positive, hi.debtor_exists, hi.creditor_exists, hi.endToEnd,
      hi.cycle_open, hi.valid⟩
  let s₁ : Network Amount := { s with idCounter := s.idCounter + 1 }
  let dreq := debitRequest now (s.initialPayment now req scheme cycleID) debtor
    acct.glAccount
  have hpost := onLedger_post now (s := s₁) hc.debtor_exists.bank dreq
  rw [initiatePayment_eq, Call.bind_of_ok hc.checkPayment_ok]
  refine (Call.bind_of_ok (hpost.1 hi.accepts) _).trans ?_
  have hlook : (s₁.posted now req.debtor.participant debtor
    dreq).cycles.lookup cycleID = some cycle := hi.cycle_stored
  have hedge : PaymentStatus.accepted ∈ allowed .initiated := by decide
  refine (transition_bind_of hedge _ _).trans ?_
  rw [Call.get_bind]
  show (orThrow ((s₁.posted now req.debtor.participant debtor dreq).cycles.lookup
    cycleID) _ >>= _) _ = _
  rw [hlook]
  rfl

/-- `InitiatePayment` fails and at most draws an id, or accepts a payment. -/
theorem initiatePayment_cases {s : Network Amount}
    (hopen : ∀ sc c, s.openCycle.lookup sc = some c → c ∈ s.cycles)
    (now : Time) (req : InitiatePaymentRequest Amount) :
    (∃ e, initiatePayment now req s = .error e s) ∨
      (∃ e, initiatePayment now req s
        = .error e { s with idCounter := s.idCounter + 1 }) ∨
      ∃ scheme cycleID cycle debtor acct,
        s.Initiates now req scheme cycleID cycle debtor acct ∧
          initiatePayment now req s
            = .ok (s.acceptedPayment now req scheme cycleID debtor acct.glAccount)
              (s.withPayment now req scheme cycleID cycle debtor acct.glAccount) := by
  rcases checkPayment_cases s now req with
    ⟨e, he⟩ | ⟨e, he⟩ | ⟨scheme, cycleID, debtor, acct, hc, hok⟩
  · rw [initiatePayment_eq]
    exact .inl ⟨e, Call.bind_of_error he _⟩
  · rw [initiatePayment_eq]
    exact .inr (.inl ⟨e, Call.bind_of_error he _⟩)
  obtain ⟨cycle, hcycle⟩ := Finmap.mem_iff.mp (hopen _ _ hc.cycle_open)
  let s₁ : Network Amount := { s with idCounter := s.idCounter + 1 }
  let dreq := debitRequest now (s.initialPayment now req scheme cycleID) debtor
    acct.glAccount
  by_cases hacc : debtor.ledger.Accepts dreq
  · have hi : s.Initiates now req scheme cycleID cycle debtor acct :=
      ⟨hc.scheme_known, hc.positive, hc.debtor_exists, hc.creditor_exists, hc.endToEnd,
        hc.cycle_open, hcycle, hc.valid, hacc⟩
    exact .inr (.inr ⟨scheme, cycleID, cycle, debtor, acct, hi, hi.initiatePayment_ok⟩)
  · obtain ⟨e, he, -⟩ := (onLedger_post now (s := s₁) hc.debtor_exists.bank dreq).2 hacc
    rw [initiatePayment_eq, Call.bind_of_ok hok]
    exact .inr (.inl ⟨_, Call.bind_of_error he _⟩)

end Initiating

/-! ## Rejecting a payment -/

/-- The network after the debtor leg `tx` of a payment was reversed. -/
def reversed (s : Network Amount) (now : Time) (i : ParticipantID)
    (p : Participant Amount) (txID : Ledger.TransactionID)
    (original : Transaction Amount) (description : String) : Network Amount :=
  s.setParticipant i
    (p.withLedger (p.ledger.recordReversal now txID original description))

/-- A reversal in the ledger of a bank is recorded, or refused without effect. -/
theorem onLedger_reverse {s : Network Amount} (now : Time) {i : ParticipantID}
    {b : Participant Amount}
    (hb : s.participants.lookup i = some b) {txID : Ledger.TransactionID}
    {original : Transaction Amount}
    (hstored : b.ledger.transactions.lookup txID = some original) (description : String) :
    (original.status ≠ .reversed →
      onLedger i (Book.reverseTransaction now txID description) s
        = .ok (b.ledger.newReversal now original description)
          (s.reversed now i b txID original description)) ∧
    (original.status = .reversed →
      ∃ e, onLedger i (Book.reverseTransaction now txID description) s = .error e s) := by
  constructor
  · exact fun hposted =>
      onLedger_of_ok hb (Book.reverseTransaction_of_posted hstored hposted now description)
  · intro hreversed
    cases hx : Book.reverseTransaction now txID description b.ledger with
    | ok tx book =>
      obtain ⟨t, ht, hposted, -⟩ := Book.reverseTransaction_eq_ok.mp hx
      cases hstored.symm.trans ht
      exact absurd hreversed hposted
    | error e book =>
      rw [(Book.reverseTransaction_eq_error hx).1] at hx
      exact ⟨_, onLedger_of_error hb hx⟩

/-- The debtor leg of a payment is reversed, or nothing is done. -/
theorem reverseDebtorLeg_cases (s : Network Amount) (now : Time) {p : Payment Amount}
    {txID : Ledger.TransactionID} (htx : p.debtorLegTx = some txID) (reason : String) :
    (∃ e, reverseDebtorLeg now p reason s = .error e s) ∨
      ∃ debtor original, s.participants.lookup p.debtor.participant = some debtor ∧
        debtor.ledger.transactions.lookup txID = some original ∧
        original.status ≠ .reversed ∧
        reverseDebtorLeg now p reason s = .ok () (s.reversed now p.debtor.participant debtor
          txID original ("Reject payment " ++ p.id.val ++ ": " ++ reason)) := by
  let description := "Reject payment " ++ p.id.val ++ ": " ++ reason
  rw [reverseDebtorLeg, htx]
  cases hbank : s.participants.lookup p.debtor.participant with
  | none =>
    refine .inl ⟨.nilDereference, Call.bind_of_error ?_ _⟩
    rw [onLedger, Call.get_bind, hbank]
    rfl
  | some debtor =>
    cases hrev : Book.reverseTransaction now txID description debtor.ledger with
    | error e b =>
      rw [(Book.reverseTransaction_eq_error hrev).1] at hrev
      exact .inl ⟨_, Call.bind_of_error (onLedger_of_error hbank hrev) _⟩
    | ok tx b =>
      obtain ⟨original, hstored, hposted, -, rfl⟩ := Book.reverseTransaction_eq_ok.mp hrev
      exact .inr ⟨debtor, original, rfl, hstored, hposted,
        Call.bind_of_ok (onLedger_of_ok hbank hrev) _⟩

/-- The books stay as they are when a cycle loses a payment. -/
theorem books_removeFromCycle (s : Network Amount) (p : Payment Amount) :
    (s.removeFromCycle p).participants = s.participants ∧
      (s.removeFromCycle p).centralBank = s.centralBank := by
  rw [removeFromCycle]
  split <;> exact ⟨rfl, rfl⟩

/-- The network after `RejectPayment`. -/
def withRejected (s : Network Amount) (now : Time) (id : PaymentID)
    (p : Payment Amount) (reason : String) (debtor : Participant Amount)
    (txID : Ledger.TransactionID) (original : Transaction Amount) : Network Amount :=
  ((s.reversed now p.debtor.participant debtor txID original
    ("Reject payment " ++ p.id.val ++ ": " ++ reason)).removeFromCycle p).setPayment id
      { p with status := .rejected, rejectReason := reason }

theorem withRejected_eq {s : Network Amount} {now : Time} {id : PaymentID}
    {p : Payment Amount} {reason : String} {debtor : Participant Amount}
    {txID : Ledger.TransactionID} {original : Transaction Amount}
    {c : ClearingCycle Amount} (hc : s.cycles.lookup p.cycleID = some c) :
    s.withRejected now id p reason debtor txID original
      = (((s.reversed now p.debtor.participant debtor txID original
        ("Reject payment " ++ p.id.val ++ ": " ++ reason)).setCycle p.cycleID
          { c with paymentIDs := c.paymentIDs.filter (· ≠ p.id) }).setPayment id
            { p with status := .rejected, rejectReason := reason }) := by
  have hlook : (s.reversed now p.debtor.participant debtor txID original
      ("Reject payment " ++ p.id.val ++ ": " ++ reason)).cycles.lookup p.cycleID
        = some c := hc
  rw [withRejected, removeFromCycle, hlook]

/-- `RejectPayment` fails without effect, or reverses the debtor leg of an
accepted payment and drops it from its cycle. -/
theorem rejectPayment_cases {s : Network Amount}
    (hleg : ∀ id p, s.payments.lookup id = some p →
      p.status ≠ .initiated ∧ ∃ tx, p.debtorLegTx = some tx)
    (now : Time) (id : PaymentID) (reason : String) :
    (∃ e, rejectPayment now id reason s = .error e s) ∨
      ∃ p debtor txID original, s.payments.lookup id = some p ∧
        p.status = .accepted ∧ p.debtorLegTx = some txID ∧
        s.participants.lookup p.debtor.participant = some debtor ∧
        debtor.ledger.transactions.lookup txID = some original ∧
        original.status ≠ .reversed ∧
        rejectPayment now id reason s
          = .ok { p with status := .rejected, rejectReason := reason }
            (s.withRejected now id p reason debtor txID original) := by
  rw [rejectPayment, Call.get_bind]
  cases hp : s.payments.lookup id with
  | none => exact .inl ⟨_, rfl⟩
  | some p =>
    rw [orThrow_some_bind]
    obtain ⟨hinit, txID, htx⟩ := hleg id p hp
    by_cases hstatus : p.status = .initiated ∨ p.status = .accepted
    swap
    · exact .inl ⟨_, require_bind_of_not hstatus ..⟩
    rw [require_bind_of hstatus]
    have haccepted := hstatus.resolve_left hinit
    have hedge : PaymentStatus.rejected ∈ allowed p.status := by
      rw [haccepted]
      decide
    rcases reverseDebtorLeg_cases s now htx reason with
      ⟨e, he⟩ | ⟨debtor, original, hbank, hstored, hposted, hleg⟩
    · exact .inl ⟨e, Call.bind_of_error he _⟩
    refine .inr ⟨p, debtor, txID, original, rfl, haccepted, htx, hbank, hstored, hposted, ?_⟩
    rw [Call.bind_of_ok hleg, Call.modify_bind, transition_bind_of hedge]
    rfl

/-! ## Returning a payment -/

/-- What `ReturnPayment` posts to refund the debtor. -/
def returnDebitRequest (p : Payment Amount) (reason : String)
    (debtor : Participant Amount) (gl : Ledger.AccountID) :
    PostTransactionRequest Amount where
  idempotencyKey := p.id.returnDebitKey
  description := "Return of payment " ++ p.id.val ++ ": " ++ reason
  entries := transfer debtor.reserveAccount gl p.amount

/-- What `ReturnPayment` posts to claw the funds back from the creditor. -/
def returnCreditRequest (p : Payment Amount) (reason : String)
    (creditor : Participant Amount) (gl : Ledger.AccountID) :
    PostTransactionRequest Amount where
  idempotencyKey := p.id.returnCreditKey
  description := "Return of payment " ++ p.id.val ++ ": " ++ reason
  entries := transfer gl creditor.reserveAccount p.amount

/-- What `ReturnPayment` posts at the central bank. -/
def returnSettleRequest (p : Payment Amount) (debtor creditor : Participant Amount) :
    PostTransactionRequest Amount where
  idempotencyKey := p.id.returnSettleKey
  description := "Return settlement for payment " ++ p.id.val
  entries := transfer creditor.settlementAccount debtor.settlementAccount p.amount

/-- The network after the refund of a return. -/
def withRefund (s : Network Amount) (now : Time) (p : Payment Amount)
    (reason : String) (debtor : Participant Amount) (gl : Ledger.AccountID) :
    Network Amount :=
  s.posted now p.debtor.participant debtor (returnDebitRequest p reason debtor gl)

/-- The network after `ReturnPayment`. The creditor's bank is taken from the
state after the refund: it may be the debtor's bank. -/
def withReturned (s : Network Amount) (now : Time) (id : PaymentID)
    (p : Payment Amount) (reason : String) (debtor creditor : Participant Amount)
    (debtorGL creditorGL : Ledger.AccountID) : Network Amount :=
  (((s.withRefund now p reason debtor debtorGL).posted now p.creditor.participant
    creditor (returnCreditRequest p reason creditor creditorGL)).cbPosted now
      (returnSettleRequest p debtor creditor)).setPayment id
        { p with status := .returned, rejectReason := reason }

/-- A settled payment whose refund the debtor's bank accepts. -/
structure Refundable [AddCommGroup Amount] [LinearOrder Amount]
    (s : Network Amount) (id : PaymentID) (p : Payment Amount) (reason : String)
    (debtor : Participant Amount) (acct : Deposit.Account Amount) : Prop where
  stored : s.payments.lookup id = some p
  scheme : ∃ sc ∈ s.schemes.lookup p.scheme, sc.allowsReturn
  settled : p.status = .settled
  debtor_exists : s.Party p.debtor debtor acct
  accepts : debtor.ledger.Accepts (returnDebitRequest p reason debtor acct.glAccount)

/-- After the refund, the creditor's bank is still there with the same accounts. -/
theorem withRefund_party {s : Network Amount} (now : Time) {p : Payment Amount}
    (reason : String) {debtor creditor : Participant Amount}
    (gl : Ledger.AccountID) {ca : Deposit.Account Amount}
    (hd : s.participants.lookup p.debtor.participant = some debtor)
    (hc : s.Party p.creditor creditor ca) :
    ∃ creditor', (s.withRefund now p reason debtor gl).Party p.creditor creditor' ca ∧
      creditor'.reserveAccount = creditor.reserveAccount ∧
      creditor'.settlementAccount = creditor.settlementAccount := by
  by_cases heq : p.creditor.participant = p.debtor.participant
  · have hsame : debtor = creditor := by
      have hbank := hc.bank
      rw [heq, hd] at hbank
      exact Option.some.inj hbank
    subst hsame
    exact ⟨_, ⟨(setParticipant_lookup ..).trans (if_pos heq), hc.account⟩, rfl, rfl⟩
  · exact ⟨creditor, ⟨(setParticipant_lookup ..).trans ((if_neg heq).trans hc.bank),
      hc.account⟩, rfl, rfl⟩

/-- `ReturnPayment` fails without effect, or stops after the refund because the
clawback is refused, or completes. -/
theorem returnPayment_cases [AddCommGroup Amount] [LinearOrder Amount]
    {s : Network Amount}
    (hparties : ∀ id p, s.payments.lookup id = some p →
      (∃ b a, s.Party p.debtor b a) ∧ ∃ b a, s.Party p.creditor b a)
    (hcb : ∀ id p debtor creditor, s.payments.lookup id = some p →
      p.status = .settled →
      s.participants.lookup p.debtor.participant = some debtor →
      s.participants.lookup p.creditor.participant = some creditor →
        s.centralBank.Accepts (returnSettleRequest p debtor creditor))
    (now : Time) (id : PaymentID) (reason : String) :
    (∃ e, returnPayment now id reason s = .error e s) ∨
      ∃ p debtor da, s.Refundable id p reason debtor da ∧
        ∃ creditor ca,
          (s.withRefund now p reason debtor da.glAccount).Party p.creditor creditor ca ∧
          ((¬creditor.ledger.Accepts
              (returnCreditRequest p reason creditor ca.glAccount) ∧
            ∃ e, Book.postTransaction now
              (returnCreditRequest p reason creditor ca.glAccount) creditor.ledger
                = .error e creditor.ledger ∧
              returnPayment now id reason s = .error (.ledger e)
                (s.withRefund now p reason debtor da.glAccount)) ∨
          (creditor.ledger.Accepts
              (returnCreditRequest p reason creditor ca.glAccount) ∧
            s.centralBank.Accepts (returnSettleRequest p debtor creditor) ∧
            returnPayment now id reason s
              = .ok { p with status := .returned, rejectReason := reason }
                (s.withReturned now id p reason debtor creditor
                  da.glAccount ca.glAccount))) := by
  rw [returnPayment, Call.get_bind]
  cases hp : s.payments.lookup id with
  | none => exact .inl ⟨_, rfl⟩
  | some p =>
    rw [orThrow_some_bind]
    by_cases hscheme : ∃ sc ∈ s.schemes.lookup p.scheme, sc.allowsReturn
    swap
    · exact .inl ⟨_, require_bind_of_not hscheme ..⟩
    rw [require_bind_of hscheme]
    by_cases hsettled : p.status = .settled
    swap
    · exact .inl ⟨_, require_bind_of_not hsettled ..⟩
    rw [require_bind_of hsettled]
    obtain ⟨⟨debtor, da, hd⟩, creditor, ca, hc⟩ := hparties id p hp
    rw [hd.bank, orThrow_some_bind, hc.bank, orThrow_some_bind, hd.glAccount,
      Call.ofExcept_ok_bind, hc.glAccount, Call.ofExcept_ok_bind]
    have hrefund := onLedger_post now hd.bank
      (returnDebitRequest p reason debtor da.glAccount)
    by_cases hacc₁ : debtor.ledger.Accepts
        (returnDebitRequest p reason debtor da.glAccount)
    swap
    · obtain ⟨e, he, -⟩ := hrefund.2 hacc₁
      exact .inl ⟨_, Call.bind_of_error he _⟩
    -- the bank the clawback is posted in, as the refund left it
    obtain ⟨creditor', hc', hres, hset⟩ :=
      withRefund_party now reason da.glAccount hd.bank hc
    refine .inr ⟨p, debtor, da, ⟨hp, hscheme, hsettled, hd, hacc₁⟩, creditor', ca, hc', ?_⟩
    -- the request names the accounts of the bank, and those did not change
    have hreq : returnCreditRequest p reason creditor ca.glAccount
        = returnCreditRequest p reason creditor' ca.glAccount := by
      rw [returnCreditRequest, returnCreditRequest, hres]
    have hclaw := onLedger_post now hc'.bank
      (returnCreditRequest p reason creditor' ca.glAccount)
    rw [← hreq] at hclaw ⊢
    by_cases hacc₂ : creditor'.ledger.Accepts
        (returnCreditRequest p reason creditor ca.glAccount)
    · have hsettle : s.centralBank.Accepts (returnSettleRequest p debtor creditor') := by
        rw [returnSettleRequest, hset]
        exact hcb id p debtor creditor hp hsettled hd.bank hc.bank
      -- settled payments may be returned
      have hedge : PaymentStatus.returned ∈ allowed p.status := by
        rw [hsettled]
        decide
      refine .inr ⟨hacc₂, hsettle, ?_⟩
      refine (Call.bind_of_ok (hrefund.1 hacc₁) _).trans ?_
      refine (Call.bind_of_ok (hclaw.1 hacc₂) _).trans ?_
      have hcbpost := onCentralBank_post now
        ((s.withRefund now p reason debtor da.glAccount).posted now
          p.creditor.participant creditor'
          (returnCreditRequest p reason creditor ca.glAccount))
        (returnSettleRequest p debtor creditor')
      rw [← hset]
      refine (Call.bind_of_ok (hcbpost.1 hsettle) _).trans ?_
      refine (transition_bind_of hedge _ _).trans ?_
      rw [withReturned, hreq]
      rfl
    · obtain ⟨e, he, hpost⟩ := hclaw.2 hacc₂
      refine .inl ⟨hacc₂, e, hpost, ?_⟩
      exact (Call.bind_of_ok (hrefund.1 hacc₁) _).trans (Call.bind_of_error he _)

/-! ## Settling the net positions -/

section Settlement

variable [AddCommGroup Amount] [LinearOrder Amount]

/-- The leg of a net position in the central-bank settlement; none for a bank
whose position is zero. -/
def settlementLeg (s : Network Amount) (d : ParticipantID × Amount) :
    List (Entry Amount) :=
  if d.2 = 0 then []
  else match s.participants.lookup d.1 with
    | none => []
    | some p =>
      [if 0 < d.2
        then { accountID := p.settlementAccount, amount := d.2, direction := .credit }
        else { accountID := p.settlementAccount, amount := -d.2, direction := .debit }]

/-- The entries of the central-bank settlement. -/
def settlementEntries (s : Network Amount) (l : List (ParticipantID × Amount)) :
    List (Entry Amount) :=
  l.flatMap s.settlementLeg

theorem foldlM_addSettlementEntry {s : Network Amount}
    {l : List (ParticipantID × Amount)} (h : ∀ d ∈ l, d.1 ∈ s.participants)
    (entries : List (Entry Amount)) :
    l.foldlM s.addSettlementEntry entries
      = .ok (entries ++ s.settlementEntries l) := by
  induction l generalizing entries with
  | nil =>
    rw [settlementEntries, List.flatMap_nil, List.append_nil]
    rfl
  | cons d l ih =>
    obtain ⟨p, hp⟩ := Finmap.mem_iff.mp (h d List.mem_cons_self)
    have hstep : s.addSettlementEntry entries d
        = .ok (entries ++ s.settlementLeg d) := by
      rw [addSettlementEntry, settlementLeg, hp]
      split
      · rw [List.append_nil]
      · rfl
    rw [List.foldlM_cons, hstep]
    refine (ih (fun d' h' => h d' (List.mem_cons_of_mem _ h')) _).trans ?_
    rw [settlementEntries, settlementEntries, List.flatMap_cons, List.append_assoc]

/-- What `SettleCycle` posts at the central bank. -/
def settleRequest (c : ClearingCycle Amount) (entries : List (Entry Amount)) :
    PostTransactionRequest Amount where
  idempotencyKey := c.id.settleKey
  description := "Settlement of clearing cycle " ++ c.id.val
  entries := entries

/-- What `SettleCycle` posts to mirror a net position. -/
def mirrorRequest (c : ClearingCycle Amount) (i : ParticipantID)
    (p : Participant Amount) (net : Amount) : PostTransactionRequest Amount where
  idempotencyKey := c.id.mirrorKey i
  description := "Net settlement of cycle " ++ c.id.val
  entries := mirrorEntries p net

/-- The network after the mirror of a net position. -/
def withMirror (now : Time) (c : ClearingCycle Amount) (d : ParticipantID × Amount)
    (s : Network Amount) : Network Amount :=
  if d.2 = 0 then s
  else match s.participants.lookup d.1 with
    | none => s
    | some p => s.posted now d.1 p (mirrorRequest c d.1 p d.2)

/-- The mirror of a net position has nothing to do or is accepted. -/
def MirrorAccepted (c : ClearingCycle Amount) (s : Network Amount)
    (d : ParticipantID × Amount) : Prop :=
  d.2 = 0 ∨ ∃ p, s.participants.lookup d.1 = some p ∧
    p.ledger.Accepts (mirrorRequest c d.1 p d.2)

theorem mirrorRequest_declared (c : ClearingCycle Amount)
    (i : ParticipantID) (p : Participant Amount) (net : Amount) :
    ∀ e ∈ (mirrorRequest c i p net).entries, e.direction.Declared := by
  show ∀ e ∈ mirrorEntries p net, _
  rw [mirrorEntries]
  split <;> exact Ledger.declared_transfer _ _ _

/-- The mirror of a net position is refused with `err`. -/
def MirrorRefused (now : Time) (c : ClearingCycle Amount) (s : Network Amount)
    (d : ParticipantID × Amount) (err : Err) : Prop :=
  ∃ p e, d.2 ≠ 0 ∧ s.participants.lookup d.1 = some p ∧
    ¬p.ledger.Accepts (mirrorRequest c d.1 p d.2) ∧
    Book.postTransaction now (mirrorRequest c d.1 p d.2) p.ledger
      = .error e p.ledger ∧ err = .ledger e

/-- An accepted mirror does nothing, or is posted. -/
theorem withMirror_cases (now : Time) {c : ClearingCycle Amount} {s : Network Amount}
    {d : ParticipantID × Amount} (h : s.MirrorAccepted c d) :
    (d.2 = 0 ∧ s.withMirror now c d = s) ∨
      ∃ p, d.2 ≠ 0 ∧ s.participants.lookup d.1 = some p ∧
        p.ledger.Accepts (mirrorRequest c d.1 p d.2) ∧
        s.withMirror now c d = s.posted now d.1 p (mirrorRequest c d.1 p d.2) := by
  rw [withMirror]
  by_cases hzero : d.2 = 0
  · exact .inl ⟨hzero, if_pos hzero⟩
  · obtain ⟨p, hp, hacc⟩ := h.resolve_left hzero
    refine .inr ⟨p, hzero, hp, hacc, ?_⟩
    rw [if_neg hzero, hp]

omit [AddCommGroup Amount] [LinearOrder Amount] in
theorem mem_posted {s : Network Amount} {now : Time} {i j : ParticipantID}
    {p : Participant Amount} {req : PostTransactionRequest Amount}
    (h : j ∈ s.participants) : j ∈ (s.posted now i p req).participants :=
  Finmap.mem_insert.mpr (.inr h)

theorem mem_withMirror {now : Time} {c : ClearingCycle Amount}
    {d : ParticipantID × Amount} {s : Network Amount} {j : ParticipantID}
    (h : j ∈ s.participants) : j ∈ (s.withMirror now c d).participants := by
  rw [withMirror]
  split
  · exact h
  · split
    · exact h
    · exact mem_posted h

/-- Mirroring the position of an existing bank succeeds or has no effect. -/
theorem mirrorPosition_cases (now : Time) (c : ClearingCycle Amount)
    {d : ParticipantID × Amount} {s : Network Amount} (h : d.1 ∈ s.participants) :
    (s.MirrorAccepted c d ∧ mirrorPosition now c d s = .ok () (s.withMirror now c d)) ∨
      ∃ e, s.MirrorRefused now c d e ∧ mirrorPosition now c d s = .error e s := by
  obtain ⟨p, hp⟩ := Finmap.mem_iff.mp h
  rw [mirrorPosition, withMirror]
  by_cases hzero : d.2 = 0
  · rw [if_pos hzero, if_pos hzero]
    exact .inl ⟨.inl hzero, rfl⟩
  rw [if_neg hzero, if_neg hzero, Call.get_bind, hp, orThrow_some_bind]
  have hpost := onLedger_post now hp (mirrorRequest c d.1 p d.2)
  by_cases hacc : p.ledger.Accepts (mirrorRequest c d.1 p d.2)
  · exact .inl ⟨.inr ⟨p, hp, hacc⟩, Call.bind_of_ok (hpost.1 hacc) _⟩
  · obtain ⟨e, he, herr⟩ := hpost.2 hacc
    exact .inr ⟨_, ⟨p, e, hzero, hp, hacc, herr, rfl⟩, Call.bind_of_error he _⟩

/-- How far the settlement of the net positions got. -/
inductive PositionsSettled (now : Time)
    (order₁ order₂ : MapOrder ParticipantID Amount) (c : ClearingCycle Amount)
    (s : Network Amount) :
    EStateM.Result Err (Network Amount) (Option Ledger.TransactionID) → Prop
  | nothing (hentries : s.settlementEntries (order₁.toList c.netPositions) = []) :
      PositionsSettled now order₁ order₂ c s (.ok none s)
  | refused (hentries : s.settlementEntries (order₁.toList c.netPositions) ≠ [])
      (req : PostTransactionRequest Amount)
      (hreq : req = settleRequest c
        (s.settlementEntries (order₁.toList c.netPositions)))
      (hacc : ¬s.centralBank.Accepts req) (e : Ledger.Err)
      (he : Book.postTransaction now req s.centralBank = .error e s.centralBank) :
      PositionsSettled now order₁ order₂ c s (.error (.ledger e) s)
  | settled (req : PostTransactionRequest Amount)
      (hreq : req = settleRequest c
        (s.settlementEntries (order₁.toList c.netPositions)))
      (hacc : s.centralBank.Accepts req)
      (hmirrors : Along (withMirror now c) (MirrorAccepted c) (s.cbPosted now req)
        (order₂.toList c.netPositions)) :
      PositionsSettled now order₁ order₂ c s
        (.ok (some (s.centralBank.newTransaction now req).id)
          (run (withMirror now c) (s.cbPosted now req)
            (order₂.toList c.netPositions)))
  | stuck (req : PostTransactionRequest Amount)
      (hreq : req = settleRequest c
        (s.settlementEntries (order₁.toList c.netPositions)))
      (hacc : s.centralBank.Accepts req)
      (pre post : List (ParticipantID × Amount)) (d : ParticipantID × Amount)
      (hlist : order₂.toList c.netPositions = pre ++ d :: post)
      (hmirrors : Along (withMirror now c) (MirrorAccepted c) (s.cbPosted now req)
        pre)
      (e : Err) (hrefused : MirrorRefused now c
        (run (withMirror now c) (s.cbPosted now req) pre) d e) :
      PositionsSettled now order₁ order₂ c s
        (.error e (run (withMirror now c) (s.cbPosted now req) pre))

theorem settlePositions_cases (now : Time)
    (order₁ order₂ : MapOrder ParticipantID Amount) {c : ClearingCycle Amount}
    {s : Network Amount}
    (hkeys : ∀ i v, c.netPositions.lookup i = some v → i ∈ s.participants) :
    PositionsSettled now order₁ order₂ c s
      (settlePositions now order₁ order₂ c s) := by
  have hmem : ∀ (order : MapOrder ParticipantID Amount),
      ∀ d ∈ order.toList c.netPositions, d.1 ∈ s.participants :=
    fun order d hd => hkeys d.1 d.2 (order.mem_toList.mp hd)
  suffices h : ∃ r, settlePositions now order₁ order₂ c s = r ∧
      PositionsSettled now order₁ order₂ c s r by
    obtain ⟨r, hr, h⟩ := h
    rw [hr]
    exact h
  rw [settlePositions, Call.get_bind, foldlM_addSettlementEntry (hmem order₁),
    Call.ofExcept_ok_bind, List.nil_append]
  let req := settleRequest c (s.settlementEntries (order₁.toList c.netPositions))
  by_cases hentries : s.settlementEntries (order₁.toList c.netPositions) = []
  · rw [if_pos hentries]
    exact ⟨_, rfl, .nothing hentries⟩
  rw [if_neg hentries]
  have hpost := onCentralBank_post now s req
  by_cases hacc : s.centralBank.Accepts req
  swap
  · obtain ⟨e, he, herr⟩ := hpost.2 hacc
    exact ⟨_, Call.bind_of_error he _, .refused hentries req rfl hacc e herr⟩
  have hok := hpost.1 hacc
  -- the mirrors: every bank still to come exists
  let J (l : List (ParticipantID × Amount)) (t : Network Amount) : Prop :=
    ∀ d ∈ l, d.1 ∈ t.participants
  have hstep : ∀ d l t, J (d :: l) t →
      (t.MirrorAccepted c d ∧ mirrorPosition now c d t = .ok ⟨⟩ (t.withMirror now c d) ∧
        J l (t.withMirror now c d)) ∨
      ∃ e, t.MirrorRefused now c d e ∧ mirrorPosition now c d t = .error e t := by
    intro d l t hJ
    rcases mirrorPosition_cases now c (hJ d List.mem_cons_self) with ⟨hA, hok⟩ | herr
    · exact .inl ⟨hA, hok, fun d' h' => mem_withMirror (hJ d' (List.mem_cons_of_mem _ h'))⟩
    · exact .inr herr
  have hJ : J (order₂.toList c.netPositions) (s.cbPosted now req) := hmem order₂
  rcases Call.forM_cases hstep hJ with
    ⟨halong, hloop⟩ | ⟨pre, d, post, e, hlist, halong, hrefused, hloop⟩
  · exact ⟨_, (Call.bind_of_ok hok _).trans (Call.bind_of_ok hloop _),
      .settled req rfl hacc halong⟩
  · exact ⟨_, (Call.bind_of_ok hok _).trans (Call.bind_of_error hloop _),
      .stuck req rfl hacc pre post d hlist halong e hrefused⟩

/-! ## Paying the creditors -/

/-- What `SettleCycle` posts to pay a creditor. -/
def creditRequest (p : Payment Amount) (creditor : Participant Amount)
    (gl : Ledger.AccountID) : PostTransactionRequest Amount where
  idempotencyKey := p.id.creditKey
  description := p.description
  valueDate := p.valueDate
  metadata := paymentMetadata p
  entries := transfer creditor.suspenseAccount gl p.amount

/-- A payment after its creditor leg. -/
def creditedPayment (now : Time) (p : Payment Amount)
    (creditor : Participant Amount) (gl : Ledger.AccountID) : Payment Amount :=
  { p with
    creditorLegTx := some
      (creditor.ledger.newTransaction now (creditRequest p creditor gl)).id
    status := .settled }

/-- The network after the creditor leg of a payment. -/
def withCreditorLeg (now : Time) (pid : PaymentID) (s : Network Amount) :
    Network Amount :=
  match s.payments.lookup pid with
  | none => s
  | some p =>
    match s.participants.lookup p.creditor.participant with
    | none => s
    | some creditor =>
      match creditor.glAccount p.creditor.account with
      | .error _ => s
      | .ok gl =>
        (s.posted now p.creditor.participant creditor
          (creditRequest p creditor gl)).setPayment pid
            (creditedPayment now p creditor gl)

/-- A cleared payment whose creditor leg the creditor's bank accepts. -/
structure Creditable (s : Network Amount) (pid : PaymentID) (p : Payment Amount)
    (creditor : Participant Amount) (acct : Deposit.Account Amount) : Prop where
  stored : s.payments.lookup pid = some p
  cleared : p.status = .cleared
  creditor_exists : s.Party p.creditor creditor acct
  accepts : creditor.ledger.Accepts (creditRequest p creditor acct.glAccount)

omit [AddCommGroup Amount] [LinearOrder Amount] in
theorem withCreditorLeg_eq {s : Network Amount} {now : Time} {pid : PaymentID}
    {p : Payment Amount} {creditor : Participant Amount}
    {acct : Deposit.Account Amount} (hp : s.payments.lookup pid = some p)
    (hc : s.Party p.creditor creditor acct) :
    s.withCreditorLeg now pid
      = (s.posted now p.creditor.participant creditor
          (creditRequest p creditor acct.glAccount)).setPayment pid
            (creditedPayment now p creditor acct.glAccount) := by
  rw [withCreditorLeg, hp]
  dsimp only
  rw [hc.bank]
  dsimp only
  rw [hc.glAccount]

/-- The creditor leg of a creditable payment is posted. -/
theorem postCreditorLeg_ok {s : Network Amount} {pid : PaymentID}
    {p : Payment Amount} {creditor : Participant Amount}
    {acct : Deposit.Account Amount} (h : s.Creditable pid p creditor acct)
    (now : Time) :
    postCreditorLeg now pid s = .ok () (s.withCreditorLeg now pid) := by
  have hpost := onLedger_post now h.creditor_exists.bank
    (creditRequest p creditor acct.glAccount)
  let paid : Payment Amount :=
    { p with creditorLegTx := some (creditor.ledger.newTransaction now
        (creditRequest p creditor acct.glAccount)).id }
  have hedge : PaymentStatus.settled ∈ allowed paid.status := by
    show _ ∈ allowed p.status
    rw [h.cleared]
    decide
  rw [withCreditorLeg_eq h.stored h.creditor_exists, postCreditorLeg, Call.get_bind,
    h.stored, orThrow_some_bind, h.creditor_exists.bank, orThrow_some_bind,
    h.creditor_exists.glAccount, Call.ofExcept_ok_bind]
  refine (Call.bind_of_ok (hpost.1 h.accepts) _).trans ?_
  rw [Call.modify_bind]
  refine (transition_bind_of hedge _ _).trans ?_
  show EStateM.Result.ok () (Network.setPayment (Network.setPayment _ pid _) pid _) = _
  simp only [setPayment, Finmap.insert_insert]
  rfl

/-! ## Settling a cycle -/

/-- The settlement record `SettleCycle` makes. -/
def newSettlement (s : Network Amount) (now : Time) (c : ClearingCycle Amount)
    (tx : Option Ledger.TransactionID) : Settlement Amount :=
  ⟨⟨ident "set" (s.idCounter + 1)⟩, c.id, c.netPositions, tx, now, now⟩

/-- The network with the record of a settlement. -/
def withSettlement (s : Network Amount) (id : CycleID) (c : ClearingCycle Amount)
    (st : Settlement Amount) : Network Amount :=
  { s.setCycle id { c with status := .settled, settlementID := some st.id } with
    settlements := s.settlements.insert st.id st
    idCounter := s.idCounter + 1 }

/-- `SettleCycle` on a cycle that is not closed fails without effect; on a
closed one it is the settlement of the positions, and then, if that went
through, the payment of the creditors and the record. -/
theorem settleCycle_eq (now : Time) (order₁ order₂ : MapOrder ParticipantID Amount)
    (id : CycleID) (s : Network Amount) :
    (∃ e, settleCycle now order₁ order₂ id s = .error e s ∧ e.ofLedger = none ∧
      ∀ c, s.cycles.lookup id = some c → c.status ≠ .closed) ∨
    ∃ c, s.cycles.lookup id = some c ∧ c.status = .closed ∧
      (∀ e t, settlePositions now order₁ order₂ c s = .error e t →
        settleCycle now order₁ order₂ id s = .error e t) ∧
      ∀ tx t u, settlePositions now order₁ order₂ c s = .ok tx t →
        c.paymentIDs.forM (postCreditorLeg now) t = .ok () u →
        settleCycle now order₁ order₂ id s
          = .ok (u.newSettlement now c tx)
            (u.withSettlement id c (u.newSettlement now c tx)) := by
  rw [settleCycle, Call.get_bind]
  cases hc : s.cycles.lookup id with
  | none =>
    refine .inl ⟨_, rfl, rfl, ?_⟩
    intro c hsome
    cases hsome
  | some c =>
    rw [orThrow_some_bind]
    by_cases hclosed : c.status = .closed
    · rw [require_bind_of hclosed]
      refine .inr ⟨c, rfl, hclosed, ?_, ?_⟩
      · intro e t he
        exact Call.bind_of_error he _
      · intro tx t u ht hu
        exact (Call.bind_of_ok ht _).trans ((Call.bind_of_ok hu _).trans rfl)
    · refine .inl ⟨_, require_bind_of_not hclosed .., rfl, ?_⟩
      intro c' hsome
      cases hsome
      exact hclosed

end Settlement

end Network

end CoreBanking.Payment
