import CoreBanking.Payment.Settling

/-!
# Calls on a network

`Network.Op` lists the mutating operations of the network and of the deposit
layers of its banks. `Network.Change` says once what a call of each can do
(`WF.call_change`): every result about all runs is proved by cases on it.
-/

namespace CoreBanking.Payment

open Ledger (Book PostTransactionRequest Transaction)
open Deposit (Register)

namespace Network

variable {Amount : Type}

/-- The mutating operations, with their arguments. The orders of a settlement
are those in which its two loops visit the net positions. -/
inductive Op (Amount : Type) where
  | registerScheme (sc : Scheme)
  | addParticipant (name : String)
  | openCustomerAccount (i : ParticipantID) (name : String)
  | register (i : ParticipantID) (op : Register.Op Amount)
  | deposit (i : ParticipantID) (account : Deposit.AccountID) (amount : Amount)
      (description : String)
  | createMandate (debtor creditor : PartyRef) (maxAmount : Amount)
  | revokeMandate (id : MandateID)
  | openCycle (scheme : SchemeID)
  | closeCycle (id : CycleID)
  | settleCycle (order₁ order₂ : MapOrder ParticipantID Amount) (id : CycleID)
  | initiatePayment (req : InitiatePaymentRequest Amount)
  | rejectPayment (id : PaymentID) (reason : String)
  | returnPayment (id : PaymentID) (reason : String)

variable [AddCommGroup Amount] [LinearOrder Amount]

/-- Call an operation and drop its result. -/
def call (now : Time) : Op Amount → Call (Network Amount) Err Unit
  | .registerScheme sc => modify fun s => s.registerScheme sc
  | .addParticipant name => (addParticipant now name).discard
  | .openCustomerAccount i name => do
    let s ← get
    let p ← orThrow (s.participants.lookup i) .participantNotFound
    onDeposit i (p.openCustomerAccount now name).discard
  | .register i op => onDeposit i (Register.call now op)
  | .deposit i account amount description => deposit now i account amount description
  | .createMandate debtor creditor maxAmount =>
    (createMandate now debtor creditor maxAmount).discard
  | .revokeMandate id => revokeMandate id
  | .openCycle scheme => (openCycleFor now scheme).discard
  | .closeCycle id => (closeCycle now id).discard
  | .settleCycle order₁ order₂ id => (settleCycle now order₁ order₂ id).discard
  | .initiatePayment req => (initiatePayment now req).discard
  | .rejectPayment id reason => (rejectPayment now id reason).discard
  | .returnPayment id reason => (returnPayment now id reason).discard

/-- The operation on the deposit layer of bank `i` that a call makes. -/
inductive OnRegister (i : ParticipantID) (b : Participant Amount) :
    Op Amount → Register.Op Amount → Prop
  | register (op : Register.Op Amount) : OnRegister i b (.register i op) op
  | customer (name : String) : OnRegister i b (.openCustomerAccount i name)
      (.openAccount b.customerSubledger name 0)

/-- What a call can do to a network: whether it fails, and what it leaves. -/
inductive Change (now : Time) (s : Network Amount) :
    Op Amount → Option Err → Network Amount → Prop
  | refused (op : Op Amount) (e : Err) : Change now s op (some e) s
  | scheme (sc : Scheme) :
      Change now s (.registerScheme sc) none (s.registerScheme sc)
  | bank (name : String) (acct : Ledger.Account) (p : Participant Amount)
      (hnew : s.NewBank acct p) (subledger : Ledger.SubledgerID) (acctName : String)
      (hacct : acct = s.centralBank.newAccount now subledger acctName .liability) :
      Change now s (.addParticipant name) none (s.withBank now acct p)
  | register {op : Op Amount} (i : ParticipantID) (b : Participant Amount)
      (rop : Register.Op Amount) (r : Register Amount) (hop : OnRegister i b op rop)
      (hb : s.participants.lookup i = some b)
      (hc : Register.Change now b.deposit rop r) :
      Change now s op none (s.setParticipant i (b.withDeposit r))
  | deposit (i : ParticipantID) (account : Deposit.AccountID) (amount : Amount)
      (description : String) (b : Participant Amount) (a : Deposit.Account Amount)
      (hpos : 0 < amount) (hb : s.participants.lookup i = some b)
      (ha : b.deposit.accounts.lookup account = some a)
      (hacc : b.ledger.Accepts (depositRequest b a.glAccount amount description))
      (hcb : s.centralBank.Accepts (s.reserveCreditRequest b amount)) :
      Change now s (.deposit i account amount description) none
        ((s.posted now i b (depositRequest b a.glAccount amount description)).cbPosted
          now (s.reserveCreditRequest b amount))
  | mandated (debtor creditor : PartyRef) (maxAmount : Amount) (m : Mandate Amount) :
      Change now s (.createMandate debtor creditor maxAmount) none
        { s with mandates := s.mandates.insert m.id m, idCounter := s.idCounter + 1 }
  | revoked (id : MandateID) (m : Mandate Amount) (hm : s.mandates.lookup id = some m) :
      Change now s (.revokeMandate id) none
        { s with mandates := s.mandates.insert id { m with status := .revoked } }
  | opened (scheme : SchemeID) (hno : s.openCycle.lookup scheme = none) :
      Change now s (.openCycle scheme) none (s.withCycle (s.newCycle now scheme))
  | closed (id : CycleID) (c : ClearingCycle Amount)
      (hc : s.cycles.lookup id = some c) (hopen : c.status = .open) :
      Change now s (.closeCycle id) none (s.withClosed now id c)
  | settle (order₁ order₂ : MapOrder ParticipantID Amount) (id : CycleID)
      (r : EStateM.Result Err (Network Amount) (Settlement Amount))
      (ho : SettleOutcome now order₁ order₂ id s r) :
      Change now s (.settleCycle order₁ order₂ id) (Call.failure r) (Call.state r)
  | idDrawn (req : InitiatePaymentRequest Amount) (e : Err) :
      Change now s (.initiatePayment req) (some e)
        { s with idCounter := s.idCounter + 1 }
  | initiated (req : InitiatePaymentRequest Amount) (scheme : Scheme)
      (cycleID : CycleID) (cycle : ClearingCycle Amount) (debtor : Participant Amount)
      (acct : Deposit.Account Amount)
      (hi : s.Initiates now req scheme cycleID cycle debtor acct) :
      Change now s (.initiatePayment req) none
        (s.withPayment now req scheme cycleID cycle debtor acct.glAccount)
  | rejected (id : PaymentID) (reason : String) (p : Payment Amount)
      (debtor : Participant Amount) (txID : Ledger.TransactionID)
      (original : Transaction Amount) (hp : s.payments.lookup id = some p)
      (hst : p.status = .accepted) (hleg : p.debtorLegTx = some txID)
      (hb : s.participants.lookup p.debtor.participant = some debtor)
      (hstored : debtor.ledger.transactions.lookup txID = some original)
      (hposted : original.status ≠ .reversed) :
      Change now s (.rejectPayment id reason) none
        (s.withRejected now id p reason debtor txID original)
  | refunded (id : PaymentID) (reason : String) (p : Payment Amount)
      (debtor : Participant Amount) (da : Deposit.Account Amount)
      (hf : s.Refundable id p reason debtor da) (e : Ledger.Err) :
      Change now s (.returnPayment id reason) (some (.ledger e))
        (s.withRefund now p reason debtor da.glAccount)
  | returned (id : PaymentID) (reason : String) (p : Payment Amount)
      (debtor creditor : Participant Amount) (da ca : Deposit.Account Amount)
      (hf : s.Refundable id p reason debtor da)
      (hparty : (s.withRefund now p reason debtor da.glAccount).Party p.creditor
        creditor ca)
      (hacc : creditor.ledger.Accepts
        (returnCreditRequest p reason creditor ca.glAccount))
      (hcb : s.centralBank.Accepts (returnSettleRequest p debtor creditor)) :
      Change now s (.returnPayment id reason) none
        (s.withReturned now id p reason debtor creditor da.glAccount ca.glAccount)

/-- A call fails without effect, or leaves what `Change` allows. -/
def Changes (now : Time) (s : Network Amount) (op : Op Amount) : Prop :=
  Change now s op (Call.failure (call now op s)) (Call.state (call now op s))

variable {s : Network Amount} {now : Time}

theorem Changes.of_error {op : Op Amount} {e : Err} {s' : Network Amount}
    (h : call now op s = .error e s') (hc : Change now s op (some e) s') :
    Changes now s op := by
  rw [Changes, h]
  exact hc

theorem Changes.of_ok {op : Op Amount} {s' : Network Amount}
    (h : call now op s = .ok () s') (hc : Change now s op none s') :
    Changes now s op := by
  rw [Changes, h]
  exact hc

/-- A call on the deposit layer of a bank. -/
theorem onRegister_changes {i : ParticipantID} {op : Op Amount}
    {rop : Participant Amount → Register.Op Amount}
    (hop : ∀ b, OnRegister i b op (rop b))
    (hcall : ∀ b, s.participants.lookup i = some b →
      call now op s = onDeposit i (Register.call now (rop b)) s)
    (hmissing : s.participants.lookup i = none → ∃ e, call now op s = .error e s) :
    Changes now s op := by
  cases hb : s.participants.lookup i with
  | none =>
    obtain ⟨e, he⟩ := hmissing hb
    exact .of_error he (.refused op e)
  | some b =>
    rcases Register.call_cases now (rop b) b.deposit with ⟨e, he⟩ | ⟨r, hr, hc⟩
    · exact .of_error ((hcall b hb).trans (onDeposit_of_error hb he)) (.refused op _)
    · exact .of_ok ((hcall b hb).trans (onDeposit_of_ok hb hr))
        (.register i b (rop b) r (hop b) hb hc)

/-- The settlement of a return is accepted: its key is unused. -/
theorem Core.return_accepts (h : s.Core) {id : PaymentID} {p : Payment Amount}
    {debtor creditor : Participant Amount} (hp : s.payments.lookup id = some p)
    (hst : p.status = .settled)
    (hd : s.participants.lookup p.debtor.participant = some debtor)
    (hc : s.participants.lookup p.creditor.participant = some creditor) :
    s.centralBank.Accepts (returnSettleRequest p debtor creditor) := by
  have hunused := (h.legs.legs id p hp).cbUnreturned (by simp [hst])
  exact h.banks.cbAccepts hd rfl (h.records.positive id p hp)
    (h.banks.settlement_mem hc) (.inr (h.banks.centralBank.keyed_eq_none.mp hunused))

/-- What a call on a network that keeps the invariant does. -/
theorem WF.call_change (h : s.WF) (now : Time) (op : Op Amount) :
    Changes now s op := by
  cases op with
  | registerScheme sc => exact .of_ok rfl (.scheme sc)
  | addParticipant name =>
    obtain ⟨acct, p, hnew, hok, subledger, acctName, hacct⟩ :=
      addParticipant_ok h.banks now name
    exact .of_ok (Call.discard_of_ok hok) (.bank name acct p hnew subledger acctName hacct)
  | openCustomerAccount i name =>
    refine onRegister_changes (fun b => .customer name) ?_ ?_
    · intro b hb
      rw [call, Call.get_bind, hb, orThrow_some_bind]
      rfl
    · intro hnone
      rw [call, Call.get_bind, hnone]
      exact ⟨_, rfl⟩
  | register i op =>
    refine onRegister_changes (fun b => .register op) (fun b hb => rfl) ?_
    intro hnone
    rw [call, onDeposit, Call.get_bind, hnone]
    exact ⟨_, rfl⟩
  | deposit i account amount description =>
    rcases deposit_cases h.banks now i account amount description with
      ⟨e, he⟩ | ⟨b, a, hpos, hb, ha, hacc, hcb, hok⟩
    · exact .of_error he (.refused _ e)
    · exact .of_ok hok
        (.deposit i account amount description b a hpos hb ha hacc hcb)
  | createMandate debtor creditor maxAmount =>
    rcases createMandate_cases now debtor creditor maxAmount s with
      ⟨e, he⟩ | hok
    · exact .of_error (Call.discard_of_error he) (.refused _ e)
    · exact .of_ok (Call.discard_of_ok hok) (.mandated debtor creditor maxAmount _)
  | revokeMandate id =>
    rcases revokeMandate_cases id s with ⟨e, he⟩ | ⟨m, hm, hok⟩
    · exact .of_error he (.refused _ e)
    · exact .of_ok hok (.revoked id m hm)
  | openCycle scheme =>
    rcases openCycleFor_cases now scheme s with ⟨e, he⟩ | ⟨hno, hok⟩
    · exact .of_error (Call.discard_of_error he) (.refused _ e)
    · exact .of_ok (Call.discard_of_ok hok) (.opened scheme hno)
  | closeCycle id =>
    rcases closeCycle_cases h.open_accepted now id with
      ⟨e, he, -⟩ | ⟨c, hc, hopen, hok⟩
    · exact .of_error (Call.discard_of_error he) (.refused _ e)
    · exact .of_ok (Call.discard_of_ok hok) (.closed id c hc hopen)
  | settleCycle order₁ order₂ id =>
    rw [Changes, call, Call.failure_discard, Call.state_discard]
    exact .settle order₁ order₂ id _ (h.settleCycle_outcome now order₁ order₂ id)
  | initiatePayment req =>
    rcases initiatePayment_cases h.cycles.open_stored now req with
      ⟨e, he⟩ | ⟨e, he⟩ | ⟨scheme, cycleID, cycle, debtor, acct, hi, hok⟩
    · exact .of_error (Call.discard_of_error he) (.refused _ e)
    · exact .of_error (Call.discard_of_error he) (.idDrawn req e)
    · exact .of_ok (Call.discard_of_ok hok)
        (.initiated req scheme cycleID cycle debtor acct hi)
  | rejectPayment id reason =>
    rcases rejectPayment_cases h.debtor_named now id reason with
      ⟨e, he⟩ | ⟨p, debtor, txID, original, hp, hst, hleg, hb, hstored, hposted, hok⟩
    · exact .of_error (Call.discard_of_error he) (.refused _ e)
    · exact .of_ok (Call.discard_of_ok hok)
        (.rejected id reason p debtor txID original hp hst hleg hb hstored hposted)
  | returnPayment id reason =>
    rcases returnPayment_cases h.records.parties
        (fun id p _ _ hp hst hd hc => h.return_accepts hp hst hd hc) now id reason with
      ⟨e, he⟩ | ⟨p, debtor, da, hf, creditor, ca, hparty,
        ⟨-, e, -, herr⟩ | ⟨hacc, hcb, hok⟩⟩
    · exact .of_error (Call.discard_of_error he) (.refused _ e)
    · exact .of_error (Call.discard_of_error herr)
        (.refunded id reason p debtor da hf e)
    · exact .of_ok (Call.discard_of_ok hok)
        (.returned id reason p debtor creditor da ca hf hparty hacc hcb)

end Network

end CoreBanking.Payment
