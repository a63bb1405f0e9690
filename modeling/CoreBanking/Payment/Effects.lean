import CoreBanking.Base.Loop
import CoreBanking.Payment.Banks

/-!
# What the network operations do

One specification for each operation: a call fails without effect, or it leaves
a state that is written down here. The specifications of the two operations
that may stop half way, `SettleCycle` and `ReturnPayment`, also say where they
stopped. The requests they post have names of their own.
-/

namespace CoreBanking.Payment

open Ledger (Book newBook Entry PostTransactionRequest Transaction transfer)
open Deposit (Register)

namespace Network

variable {Amount : Type}

@[simp] theorem nextID_bind {α : Type} (pfx : String)
    (f : String → Call (Network Amount) Err α) (s : Network Amount) :
    (nextID pfx >>= f) s
      = f (ident pfx (s.idCounter + 1)) { s with idCounter := s.idCounter + 1 } := rfl

theorem transition_bind_of {p : Payment Amount} {target : PaymentStatus}
    (h : target ∈ allowed p.status) {α : Type}
    (f : Payment Amount → Call (Network Amount) Err α) (s : Network Amount) :
    (transition p target >>= f) s = f { p with status := target } s := by
  rw [transition]
  exact Call.bind_of_ok (by rw [require_bind_of h]; rfl) f

/-- A bank's ledger account behind a deposit account is that of the account. -/
theorem glAccount_eq (p : Participant Amount) (id : Deposit.AccountID) :
    p.glAccount id = match p.deposit.accounts.lookup id with
      | none => .error .accountNotInParticipant
      | some a => .ok a.glAccount := by
  rw [Participant.glAccount, Register.getAccount]
  cases p.deposit.accounts.lookup id <;> rfl

theorem Party.glAccount {s : Network Amount} {ref : PartyRef}
    {p : Participant Amount} {a : Deposit.Account Amount} (h : s.Party ref p a) :
    p.glAccount ref.account = .ok a.glAccount := by
  rw [glAccount_eq, h.account]

/-- `checkParty` accepts exactly the parties that exist. -/
theorem checkParty_ok {s : Network Amount} {ref : PartyRef}
    (h : s.checkParty ref = .ok ()) : ∃ p a, s.Party ref p a := by
  rw [checkParty] at h
  cases hp : s.participants.lookup ref.participant with
  | none =>
    rw [hp] at h
    cases h
  | some p =>
    rw [hp] at h
    cases ha : p.deposit.accounts.lookup ref.account with
    | none =>
      simp only [Register.getAccount, ha] at h
      cases h
    | some a => exact ⟨p, a, hp, ha⟩

/-- A party that exists passes `checkParty`. -/
theorem Party.checkParty {s : Network Amount} {ref : PartyRef} {p : Participant Amount}
    {a : Deposit.Account Amount} (h : s.Party ref p a) : s.checkParty ref = .ok () := by
  rw [Network.checkParty, h.bank]
  simp only [Register.getAccount, h.account]

/-! ## Participants and mandates -/

/-- The network with a new bank that has `acct` at the central bank. -/
def withBank (s : Network Amount) (now : Time) (acct : Ledger.Account)
    (p : Participant Amount) : Network Amount :=
  { (s.setCentralBank (s.centralBank.addAccount now acct)).setParticipant p.id p with
    idCounter := s.idCounter + 1 }

/-- A bank as `AddParticipant` makes it. -/
structure NewBank [AddCommGroup Amount] [LinearOrder Amount] (s : Network Amount)
    (acct : Ledger.Account) (p : Participant Amount) : Prop where
  id : p.id = ⟨ident "bank" (s.idCounter + 1)⟩
  wf : p.WF
  accounts : p.deposit.accounts = ∅
  transactions : p.ledger.transactions = ∅
  index : p.ledger.idempotencyIndex = ∅
  settlement : p.settlementAccount = acct.id
  acct_id : acct.id = ⟨ident "acct" (s.centralBank.idCounter + 1)⟩
  acct_type : acct.type = .liability

/-- `AddParticipant` always succeeds. -/
theorem addParticipant_ok [AddCommGroup Amount] [LinearOrder Amount]
    {s : Network Amount} (h : s.Banks) (now : Time) (name : String) :
    ∃ acct p, s.NewBank acct p ∧ addParticipant now name s
      = .ok p (s.withBank now acct p) ∧ ∃ subledger name,
        acct = s.centralBank.newAccount now subledger name .liability := by
  obtain ⟨customers, suspense, reserve, bank, hchart, hwf, htx, hidx, hsus, hres, htypes⟩ :=
    bankChart_eq Amount now name
  obtain ⟨sub, hsub⟩ := Finmap.mem_iff.mp h.reserves
  have hcreate := Book.createAccount_eq s.centralBank now s.cbReserveSubledger
    ("Reserve: " ++ name) .liability
  rw [hsub] at hcreate
  let acct := s.centralBank.newAccount now s.cbReserveSubledger
    ("Reserve: " ++ name) .liability
  let p : Participant Amount :=
    { id := ⟨ident "bank" (s.idCounter + 1)⟩
      name := name
      deposit := Deposit.newRegister bank
      customerSubledger := customers
      suspenseAccount := suspense
      reserveAccount := reserve
      settlementAccount := acct.id }
  have hp : p.WF :=
    { deposit := Register.wf_newRegister hwf
      declared :=
        { direction := by
            intro k t hk
            simp [p, Deposit.newRegister, Participant.ledger, htx] at hk
          type := by
            intro a acct ha
            rcases htypes a acct ha with ⟨htype, -⟩ | ⟨htype, -⟩ <;> rw [htype] <;> trivial }
      suspense := hsus
      reserve := hres
      types := fun a acct ha => (htypes a acct ha).imp_left And.left
      gl_ne_suspense := by
        intro id a ha
        simp [p, Deposit.newRegister] at ha
      roles := by
        intro a ha
        obtain ⟨acct, hacct⟩ := Finmap.mem_iff.mp ha
        rcases htypes a acct hacct with ⟨-, rfl⟩ | ⟨-, rfl⟩
        · exact ⟨.suspense, rfl⟩
        · exact ⟨.reserve, rfl⟩ }
  refine ⟨acct, p, ⟨rfl, hp, rfl, htx, hidx, rfl, rfl, rfl⟩, ?_, _, _, rfl⟩
  rw [addParticipant, hchart]
  exact Call.bind_of_ok (Call.zoom_of_ok hcreate) _

/-- The mandate `CreateMandate` makes. -/
def newMandate (s : Network Amount) (now : Time) (debtor creditor : PartyRef)
    (maxAmount : Amount) : Mandate Amount :=
  ⟨⟨ident "mnd" (s.idCounter + 1)⟩, debtor, creditor, maxAmount, .active, now⟩

/-- The network with one more mandate. -/
def withMandate (s : Network Amount) (m : Mandate Amount) : Network Amount :=
  { s with mandates := s.mandates.insert m.id m, idCounter := s.idCounter + 1 }

/-- `CreateMandate` fails without effect, or stores a new mandate. -/
theorem createMandate_cases (now : Time) (debtor creditor : PartyRef)
    (maxAmount : Amount) (s : Network Amount) :
    (∃ e, createMandate now debtor creditor maxAmount s = .error e s) ∨
      createMandate now debtor creditor maxAmount s
        = .ok (s.newMandate now debtor creditor maxAmount)
          (s.withMandate (s.newMandate now debtor creditor maxAmount)) := by
  rw [createMandate, Call.get_bind]
  cases hd : s.checkParty debtor with
  | error e => exact .inl ⟨e, rfl⟩
  | ok _ =>
    rw [Call.ofExcept_ok_bind]
    cases hc : s.checkParty creditor with
    | error e => exact .inl ⟨e, rfl⟩
    | ok _ => exact .inr rfl

/-- `RevokeMandate` fails without effect, or marks a mandate. -/
theorem revokeMandate_cases (id : MandateID) (s : Network Amount) :
    (∃ e, revokeMandate id s = .error e s) ∨
      ∃ m, s.mandates.lookup id = some m ∧ revokeMandate id s = .ok () { s with
        mandates := s.mandates.insert id { m with status := .revoked } } := by
  rw [revokeMandate, Call.get_bind]
  cases hm : s.mandates.lookup id with
  | none => exact .inl ⟨_, rfl⟩
  | some m => exact .inr ⟨m, rfl, rfl⟩

/-! ## Deposits -/

/-- What `Deposit` posts in the bank's ledger. -/
def depositRequest (p : Participant Amount) (gl : Ledger.AccountID)
    (amount : Amount) (description : String) : PostTransactionRequest Amount where
  description := description
  entries := transfer p.reserveAccount gl amount

/-- What `Deposit` posts at the central bank. -/
def reserveCreditRequest (s : Network Amount) (p : Participant Amount)
    (amount : Amount) : PostTransactionRequest Amount where
  description := "Reserve credit: " ++ p.name
  entries := transfer s.cbAssets p.settlementAccount amount

/-- `Deposit` fails without effect, or posts in both ledgers. -/
theorem deposit_cases [AddCommGroup Amount] [LinearOrder Amount]
    {s : Network Amount} (h : s.Banks) (now : Time) (i : ParticipantID)
    (account : Deposit.AccountID) (amount : Amount) (description : String) :
    (∃ e, deposit now i account amount description s = .error e s) ∨
      ∃ p a, 0 < amount ∧ s.participants.lookup i = some p ∧
        p.deposit.accounts.lookup account = some a ∧
        p.ledger.Accepts (depositRequest p a.glAccount amount description) ∧
        s.centralBank.Accepts (s.reserveCreditRequest p amount) ∧
        deposit now i account amount description s = .ok ()
          ((s.posted now i p (depositRequest p a.glAccount amount description)).cbPosted
            now (s.reserveCreditRequest p amount)) := by
  rw [deposit]
  by_cases hpos : 0 < amount
  swap
  · exact .inl ⟨_, require_bind_of_not hpos ..⟩
  rw [require_bind_of hpos, Call.get_bind]
  cases hp : s.participants.lookup i with
  | none => exact .inl ⟨_, rfl⟩
  | some p =>
    rw [orThrow_some_bind, glAccount_eq]
    cases ha : p.deposit.accounts.lookup account with
    | none => exact .inl ⟨_, rfl⟩
    | some a =>
      dsimp only
      rw [Call.ofExcept_ok_bind]
      have hpost := onLedger_post now hp
        (depositRequest p a.glAccount amount description)
      by_cases hacc : p.ledger.Accepts
          (depositRequest p a.glAccount amount description)
      · have hcb : s.centralBank.Accepts (s.reserveCreditRequest p amount) :=
          h.cbAccepts hp rfl hpos h.assets_mem (.inl rfl)
        have hcbpost := onCentralBank_post now
          (s.posted now i p (depositRequest p a.glAccount amount description))
          (s.reserveCreditRequest p amount)
        refine .inr ⟨p, a, hpos, rfl, ha, hacc, hcb, ?_⟩
        exact (Call.bind_of_ok (hpost.1 hacc) _).trans
          (Call.bind_of_ok (hcbpost.1 hcb) _)
      · obtain ⟨e, he, -⟩ := hpost.2 hacc
        exact .inl ⟨_, Call.bind_of_error he _⟩

/-! ## Opening and closing a cycle -/

/-- The cycle `OpenCycle` makes. -/
def newCycle (s : Network Amount) (now : Time) (scheme : SchemeID) :
    ClearingCycle Amount where
  id := ⟨ident "cyc" (s.idCounter + 1)⟩
  scheme := scheme
  status := .open
  paymentIDs := []
  netPositions := ∅
  openedAt := now
  closedAt := Time.zero
  settlementID := none

/-- The network after `OpenCycle`. -/
def withCycle (s : Network Amount) (c : ClearingCycle Amount) : Network Amount :=
  { s.setCycle c.id c with
    openCycle := s.openCycle.insert c.scheme c.id
    idCounter := s.idCounter + 1 }

/-- `OpenCycle` fails without effect, or opens a cycle for a scheme that has no
open one. -/
theorem openCycleFor_cases (now : Time) (scheme : SchemeID) (s : Network Amount) :
    (∃ e, openCycleFor now scheme s = .error e s) ∨
      (s.openCycle.lookup scheme = none ∧ openCycleFor now scheme s
        = .ok (s.newCycle now scheme) (s.withCycle (s.newCycle now scheme))) := by
  rw [openCycleFor, Call.get_bind]
  cases hscheme : s.schemes.lookup scheme with
  | none => exact .inl ⟨_, rfl⟩
  | some sc =>
    rw [orThrow_some_bind]
    by_cases hopen : s.openCycle.lookup scheme = none
    · rw [require_bind_of hopen]
      exact .inr ⟨hopen, rfl⟩
    · exact .inl ⟨_, require_bind_of_not hopen ..⟩

/-- The payments after one of them is marked cleared. -/
def markCleared (pid : PaymentID) (payments : GoMap PaymentID (Payment Amount)) :
    GoMap PaymentID (Payment Amount) :=
  match payments.lookup pid with
  | none => payments
  | some p => payments.insert pid { p with status := .cleared }

/-- Marking payments cleared changes the status of these and nothing else. -/
theorem lookup_markCleared (ids : List PaymentID)
    (payments : GoMap PaymentID (Payment Amount)) (k : PaymentID) :
    (run markCleared payments ids).lookup k = (payments.lookup k).map fun p =>
      if k ∈ ids then { p with status := .cleared } else p := by
  induction ids generalizing payments with
  | nil => simp [run]
  | cons pid ids ih =>
    rw [run, ih, markCleared]
    cases hp : payments.lookup pid with
    | none =>
      by_cases hk : k = pid
      · subst hk
        simp [hp]
      · simp [hk]
    | some p =>
      dsimp only
      rw [Finmap.lookup_insert_ite]
      by_cases hk : k = pid
      · subst hk
        simp [hp]
      · simp [hk]

variable [AddCommGroup Amount]

/-- The net positions after one more payment. -/
def netPayment (net : GoMap ParticipantID Amount) (p : Payment Amount) :
    GoMap ParticipantID Amount :=
  addPosition (addPosition net p.debtor.participant (-p.amount))
    p.creditor.participant p.amount

/-- The net positions after the payments with the given ids. -/
def netPayments (payments : GoMap PaymentID (Payment Amount))
    (net : GoMap ParticipantID Amount) (ids : List PaymentID) :
    GoMap ParticipantID Amount :=
  ids.foldl (fun net pid => match payments.lookup pid with
    | none => net
    | some p => netPayment net p) net

/-- The loop of `CloseCycle` over distinct accepted payments. -/
theorem foldlM_clearPayment {ids : List PaymentID} (hnodup : ids.Nodup)
    {s : Network Amount} (hids : ∀ pid ∈ ids, ∃ p,
      s.payments.lookup pid = some p ∧ p.status = .accepted)
    (net : GoMap ParticipantID Amount) :
    ids.foldlM clearPayment net s = .ok (netPayments s.payments net ids)
      { s with payments := run markCleared s.payments ids } := by
  induction ids generalizing s net with
  | nil => rfl
  | cons pid ids ih =>
    obtain ⟨hpid, hnodup'⟩ := List.nodup_cons.mp hnodup
    obtain ⟨p, hp, hstatus⟩ := hids pid List.mem_cons_self
    have hedge : PaymentStatus.cleared ∈ allowed p.status := by
      rw [hstatus]
      decide
    have hstep : clearPayment net pid s = .ok (netPayment net p)
        { s with payments := markCleared pid s.payments } := by
      rw [clearPayment, Call.get_bind, hp, orThrow_some_bind]
      rw [transition_bind_of hedge, markCleared, hp]
      rfl
    -- the payments still to come are untouched
    have hrest : ∀ k ∈ ids,
        (markCleared pid s.payments).lookup k = s.payments.lookup k := by
      intro k hk
      rw [markCleared, hp]
      exact Finmap.lookup_insert_of_ne _ fun heq => hpid (heq ▸ hk)
    have hnet : netPayments (markCleared pid s.payments) (netPayment net p) ids
        = netPayments s.payments (netPayment net p) ids := by
      rw [netPayments, netPayments]
      refine List.foldl_ext _ _ _ fun net k hk => ?_
      rw [hrest k hk]
    rw [List.foldlM_cons, Call.bind_of_ok hstep, ih hnodup' ?_, hnet]
    · simp [netPayments, hp, run]
    · intro k hk
      obtain ⟨q, hq, hstatus⟩ := hids k (List.mem_cons_of_mem _ hk)
      exact ⟨q, (hrest k hk).trans hq, hstatus⟩

/-- The cycle `CloseCycle` leaves. -/
def closedCycle (s : Network Amount) (now : Time) (c : ClearingCycle Amount) :
    ClearingCycle Amount :=
  { c with
    netPositions := netPayments s.payments ∅ c.paymentIDs
    status := .closed
    closedAt := now }

/-- The network after `CloseCycle`. -/
def withClosed (s : Network Amount) (now : Time) (id : CycleID)
    (c : ClearingCycle Amount) : Network Amount :=
  { s.setCycle id (s.closedCycle now c) with
    payments := run markCleared s.payments c.paymentIDs
    openCycle := s.openCycle.erase c.scheme }

/-- `CloseCycle` fails without effect, or closes an open cycle, whose payments
are distinct and accepted. -/
theorem closeCycle_cases {s : Network Amount}
    (h : ∀ id c, s.cycles.lookup id = some c → c.status = .open →
      c.paymentIDs.Nodup ∧ ∀ pid ∈ c.paymentIDs, ∃ p,
        s.payments.lookup pid = some p ∧ p.status = .accepted)
    (now : Time) (id : CycleID) :
    (∃ e, closeCycle now id s = .error e s ∧
      ∀ c, s.cycles.lookup id = some c → c.status ≠ .open) ∨
      ∃ c, s.cycles.lookup id = some c ∧ c.status = .open ∧
        closeCycle now id s
          = .ok (s.closedCycle now c) (s.withClosed now id c) := by
  rw [closeCycle, Call.get_bind]
  cases hc : s.cycles.lookup id with
  | none =>
    refine .inl ⟨_, rfl, ?_⟩
    intro c hsome
    cases hsome
  | some c =>
    rw [orThrow_some_bind]
    by_cases hopen : c.status = .open
    · obtain ⟨hnodup, hids⟩ := h id c hc hopen
      rw [require_bind_of hopen, Call.bind_of_ok (foldlM_clearPayment hnodup hids ∅)]
      exact .inr ⟨c, rfl, hopen, rfl⟩
    · refine .inl ⟨_, require_bind_of_not hopen .., ?_⟩
      intro c' hsome
      cases hsome
      exact hopen

end Network

end CoreBanking.Payment
