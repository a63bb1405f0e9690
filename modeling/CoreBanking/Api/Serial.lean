import CoreBanking.Api.Served
import CoreBanking.Payment.ClientKeys

/-!
# One request after another

A server that handles one request at a time makes one call of the domain for a request that
writes, and none for a GET or for a request that it refuses before it calls the domain.

- `Request.op`: the call that a request makes;
- `final_handle`: what a request leaves is what its call leaves;
- `handled_reached`: so what any requests leave is what a run of the domain leaves.
-/

namespace CoreBanking.Api

open Concurrent
open Ledger (Book)
open Deposit (Register)
open Payment (Network Participant ParticipantID)
open Payment.Network (Op ClientOp clientCall clientExec clientReached)

variable {Amount α : Type}

/-! ## Calls of requests -/

/-- The call on a register that an action asks for. -/
def statusOp (did action : String) : Option (Register.Op Amount) :=
  if action = "freeze" then some (.freeze ⟨did⟩)
  else if action = "unfreeze" then some (.unfreeze ⟨did⟩)
  else if action = "markDormant" then some (.markDormant ⟨did⟩)
  else if action = "reactivate" then some (.reactivate ⟨did⟩)
  else none

/-- The call that a request makes at bank `pid`, if the bank is there. -/
def atBank (s : Network Amount) (pid : String) (f : Participant Amount → Option (ClientOp Amount)) :
    Option (ClientOp Amount) :=
  (s.participants.lookup ⟨pid⟩).bind f

/-- The call on the domain that a request makes. -/
def Request.op (c : Choices Amount) (s : Network Amount) :
    Request Amount → Option (ClientOp Amount)
  | .addParticipant body => body.toOption.map fun req => .network (.addParticipant req.name)
  | .fundDeposit pid body => atBank s pid fun p => body.toOption.map fun req =>
    .network (.deposit p.id ⟨req.account⟩ req.amount req.description)
  | .createLedger pid body => atBank s pid fun _ => body.toOption.map fun req =>
    .ledger ⟨pid⟩ (.createLedger req.name)
  | .createSubledger pid lid body => atBank s pid fun _ => body.toOption.map fun req =>
    .ledger ⟨pid⟩ (.createSubledger ⟨lid⟩ req.name)
  | .createAccount pid sid body => atBank s pid fun _ => body.toOption.bind fun req =>
    (accountTypeFromString c.printable req.type).toOption.map fun type =>
      .ledger ⟨pid⟩ (.createAccount ⟨sid⟩ req.name type)
  | .postTransaction pid body => atBank s pid fun _ => body.toOption.bind fun req =>
    (req.toDomain c.printable).toOption.map fun req => .ledger ⟨pid⟩ (.postTransaction req)
  | .reverseTransaction pid tid body => atBank s pid fun _ => body.toOption.map fun req =>
    .ledger ⟨pid⟩ (.reverseTransaction ⟨tid⟩ req.description)
  | .openDepositAccount pid body => atBank s pid fun p => body.toOption.map fun req =>
    .network (.register ⟨pid⟩ (.openAccount p.customerSubledger req.name req.overdraftLimit))
  | .depositStatus pid did body => atBank s pid fun _ => body.toOption.bind fun req =>
    (statusOp did req.action).map fun op => .network (.register ⟨pid⟩ op)
  | .closeDepositAccount pid did => atBank s pid fun _ =>
    some (.network (.register ⟨pid⟩ (.close ⟨did⟩)))
  | .createHold pid did body => atBank s pid fun _ => body.toOption.map fun req =>
    .network (.register ⟨pid⟩ (.createHold
      { accountID := ⟨did⟩
        amount := req.amount
        expiresAt := req.expiresAt.getD Time.zero
        description := req.description }))
  | .releaseHold pid hid => atBank s pid fun _ =>
    some (.network (.register ⟨pid⟩ (.releaseHold ⟨hid⟩)))
  | .captureHold pid hid body => atBank s pid fun _ => body.toOption.map fun req =>
    .network (.register ⟨pid⟩
      (.captureHold ⟨hid⟩ ⟨req.counterparty⟩ req.amount req.description))
  | .takeSnapshot pid did body => atBank s pid fun _ => body.toOption.bind fun req =>
    (parseDay req.date).toOption.map fun day =>
      .network (.register ⟨pid⟩ (.takeEndOfDaySnapshot ⟨did⟩ day))
  | .createMandate body => body.toOption.map fun req =>
    .network (.createMandate req.debtor.toDomain req.creditor.toDomain req.maxAmount)
  | .revokeMandate mid => some (.network (.revokeMandate ⟨mid⟩))
  | .initiatePayment body => body.toOption.map fun req =>
    .network (.initiatePayment req.toDomain)
  | .rejectPayment payid body => body.toOption.map fun req =>
    .network (.rejectPayment ⟨payid⟩ req.reason)
  | .returnPayment payid body => body.toOption.map fun req =>
    .network (.returnPayment ⟨payid⟩ req.reason)
  | .openCycle body => body.toOption.map fun req => .network (.openCycle ⟨req.scheme⟩)
  | .closeCycle cid => some (.network (.closeCycle ⟨cid⟩))
  | .settleCycle cid => some (.network (.settleCycle c.positions₁ c.positions₂ ⟨cid⟩))
  | _ => none

variable {s t : Network Amount} {now : Clock} {pid : String}

/-! ## Looks -/

/-- A look at a register, or at no bank at all. -/
theorem onDeposit_look (pid : String) (f : Register Amount → Except Deposit.Err α)
    (t : Network Amount) :
    Network.onDeposit ⟨pid⟩ (.reading f) t = Call.ofExcept (atDeposit t pid f) t := by
  cases hp : t.participants.lookup ⟨pid⟩ with
  | none =>
    rw [onDeposit_missing hp, atDeposit, Network.getParticipant, Finmap.find, hp]
    rfl
  | some p =>
    rw [onDeposit_reading hp, atDeposit, Network.getParticipant, Finmap.find, hp]
    rfl

/-! ## Calls without their results -/

theorem zoom_discard {σ τ ε ε' : Type} (view : σ → τ) (put : τ → σ → σ) (wrap : ε' → ε)
    (x : Call τ ε' α) (s : σ) :
    Call.zoom view put wrap x.discard s = (Call.zoom view put wrap x).discard s := by
  cases h : x (view s) with
  | ok a t =>
    rw [Call.zoom_of_ok (Call.discard_of_ok h), Call.discard_of_ok (Call.zoom_of_ok h)]
  | error e t =>
    rw [Call.zoom_of_error (Call.discard_of_error h), Call.discard_of_error (Call.zoom_of_error h)]

theorem onLedger_discard {p : Participant Amount} {i : ParticipantID}
    (hp : s.participants.lookup i = some p) (x : Call (Book Amount) Ledger.Err α) :
    Network.onLedger i x.discard s = (Network.onLedger i x).discard s := by
  have hzoom : Network.onLedger i x s = Call.zoom (fun _ => p.ledger)
      (fun b s => s.setParticipant i (p.withLedger b)) .ledger x s := by
    rw [Network.onLedger, Call.get_bind, hp, orThrow_some_bind]
  rw [Network.onLedger, Call.get_bind, hp, orThrow_some_bind]
  exact (zoom_discard ..).trans (Call.bind_congr_left hzoom _).symm

theorem onDeposit_discard {p : Participant Amount} {i : ParticipantID}
    (hp : s.participants.lookup i = some p) (x : Call (Register Amount) Deposit.Err α) :
    Network.onDeposit i x.discard s = (Network.onDeposit i x).discard s := by
  have hzoom : Network.onDeposit i x s = Call.zoom (fun _ => p.deposit)
      (fun r s => s.setParticipant i { p with deposit := r }) .deposit x s := by
    rw [Network.onDeposit, Call.get_bind, hp, orThrow_some_bind]
  rw [Network.onDeposit, Call.get_bind, hp, orThrow_some_bind]
  exact (zoom_discard ..).trans (Call.bind_congr_left hzoom _).symm

variable [AddCommGroup Amount] [LinearOrder Amount]

/-! ## What a handler makes of a call -/

/-- The handler, run alone, makes the call, or none. It leaves what the call leaves. If it
answers, the call has succeeded, and if it refuses, the call has failed. -/
structure Makes (now : Clock) (p : Handling Amount (Response Amount)) (s : Network Amount)
    (op : Option (ClientOp Amount)) : Prop where
  final : (p.alone now.now).final s = op.elim s fun o => clientExec (now, o) s
  answers : ∀ r t, p.alone now.now s = .ok r t →
    r.status ∈ successes ∧ ∀ o ∈ op, Call.failure (clientCall now.now o s) = none
  refuses : s.Sound → ∀ e t, p.alone now.now s = .error e t →
    ∀ o ∈ op, Call.failure (clientCall now.now o s) ≠ none

section Rules

variable {p q : Handling Amount (Response Amount)} {o : ClientOp Amount}
  {op : Option (ClientOp Amount)} {r : Response Amount}

theorem Makes.congr (hq : Makes now q s op) (h : p.alone now.now s = q.alone now.now s) :
    Makes now p s op where
  final := by
    rw [Call.final, h]
    exact hq.final
  answers r t hr := hq.answers r t (h.symm.trans hr)
  refuses hs e t he := hq.refuses hs e t (h.symm.trans he)

/-- A refusal before the domain is called. -/
theorem makes_none {e : Refusal} (h : p.alone now.now s = .error e s) : Makes now p s none where
  final := Call.final_of_error h
  answers r t hr := by
    rw [h] at hr
    cases hr
  refuses _ _ _ _ o ho := by cases ho

theorem makes_view {c : Choices Amount} {req : Request Amount}
    {x : Except Refusal (Response Amount)} (hx : view c now.now s req = some x) :
    Makes now (handle c req) s none := by
  have halone : (handle c req).alone now.now s = Call.ofExcept x s := alone_of_view hx
  cases x with
  | error e => exact makes_none halone
  | ok r =>
    refine ⟨Call.final_of_ok halone, fun r' t hr => ⟨?_, fun o ho => by cases ho⟩,
      fun _ _ _ _ o ho => by cases ho⟩
    rw [halone] at hr
    cases hr
    exact (present_of_view hx).1 ▸ List.mem_cons_self

/-- A call that goes through, and its response. -/
theorem makes_of_ok (hp : p.alone now.now s = .ok r t) (ho : clientCall now.now o s = .ok () t)
    (hr : r.status ∈ successes) : Makes now p s (some o) where
  final := (Call.final_of_ok hp).trans (Call.final_of_ok ho).symm
  answers r' t' hr' := by
    rw [hp] at hr'
    cases hr'
    refine ⟨hr, fun o' ho' => ?_⟩
    cases ho'
    rw [ho, Call.failure_ok]
  refuses _ e t' he := by
    rw [hp] at he
    cases he

/-- A call that fails, and the refusal. -/
theorem makes_of_error {e : Refusal} {e' : Payment.Err} (hp : p.alone now.now s = .error e t)
    (ho : clientCall now.now o s = .error e' t) : Makes now p s (some o) where
  final := (Call.final_of_error hp).trans (Call.final_of_error ho).symm
  answers r' t' hr' := by
    rw [hp] at hr'
    cases hr'
  refuses _ _ _ _ o' ho' := by
    cases ho'
    rw [ho, Call.failure_error]
    exact Option.some_ne_none e'

/-- After the call at `s`, the rest of the handler answers at `t` and changes nothing. -/
def Responds (now : Clock) (s : Network Amount) (q : Handling Amount (Response Amount))
    (t : Network Amount) : Prop :=
  ∃ x : Except Refusal (Response Amount), q.alone now.now t = Call.ofExcept x t ∧
    (∀ r, x = .ok r → r.status ∈ successes) ∧ (s.Sound → ∃ r, x = .ok r)

theorem responds_pure (hr : r.status ∈ successes) : Responds now s (pure r) t :=
  ⟨.ok r, rfl, fun _ h => by cases h; exact hr, fun _ => ⟨r, rfl⟩⟩

/-- A look that finds something. -/
theorem responds_look {y : Program Amount α} {x : Except Payment.Err α} {g : α → Response Amount}
    (hy : y.alone now.now t = Call.ofExcept x t) (hg : ∀ a, (g a).status ∈ successes)
    (hx : s.Sound → ∃ a, x = .ok a) : Responds now s (call y >>= fun a => pure (g a)) t := by
  refine ⟨see x g, sees_call hy g, fun r hr => ?_, fun h => ?_⟩
  · obtain ⟨a, -, rfl⟩ := see_eq_ok.mp hr
    exact hg a
  · obtain ⟨a, rfl⟩ := hx h
    exact ⟨g a, rfl⟩

/-- A call of the domain, and the rest of the handler. -/
theorem makes_call {x : Program Amount α} {k : α → Handling Amount (Response Amount)}
    (hx : clientCall now.now o s = (x.alone now.now).discard s)
    (hk : ∀ a t, x.alone now.now s = .ok a t → Responds now s (k a) t) :
    Makes now (call x >>= k) s (some o) := by
  have hbind : (call x >>= k).alone now.now s
      = (EStateM.adaptExcept Refusal.error (x.alone now.now) >>=
        fun a => (k a).alone now.now) s := by
    rw [Prog.alone_bind, call, Prog.alone_mapError]
  cases ha : x.alone now.now s with
  | error e t =>
    rw [Call.bind_of_error (Prog.adaptExcept_of_error ha _)] at hbind
    exact makes_of_error hbind (hx.trans (Call.discard_of_error ha))
  | ok a t =>
    obtain ⟨y, hy, hstatus, hok⟩ := hk a t ha
    have hdone := hx.trans (Call.discard_of_ok ha)
    rw [Call.bind_of_ok (Prog.adaptExcept_of_ok ha _), hy] at hbind
    cases y with
    | ok r => exact makes_of_ok hbind hdone (hstatus r rfl)
    | error e =>
      refine ⟨(Call.final_of_error hbind).trans (Call.final_of_ok hdone).symm,
        fun r t' hr => ?_, fun h => ?_⟩
      · rw [hbind] at hr
        cases hr
      · obtain ⟨r, hr⟩ := hok h
        cases hr

end Rules

/-! ## Handlers -/

theorem makes_body {x : Except String α} {f : α → Handling Amount (Response Amount)}
    {g : α → Option (ClientOp Amount)} (hf : ∀ a, Makes now (f a) s (g a)) :
    Makes now (orBadRequest x >>= f) s (x.toOption.bind g) := by
  cases x with
  | ok a => exact hf a
  | error message => exact makes_none rfl

theorem makes_bodyOf {x : Except String α} {f : α → Handling Amount (Response Amount)}
    {g : α → ClientOp Amount} (hf : ∀ a, Makes now (f a) s (some (g a))) :
    Makes now (orBadRequest x >>= f) s (x.toOption.map g) := by
  cases x with
  | ok a => exact hf a
  | error message => exact makes_none rfl

theorem makes_bank {f : Participant Amount → Handling Amount (Response Amount)}
    {g : Participant Amount → Option (ClientOp Amount)}
    (hf : ∀ p, s.participants.lookup ⟨pid⟩ = some p → Makes now (f p) s (g p)) :
    Makes now (participant pid >>= f) s (atBank s pid g) := by
  cases hp : s.participants.lookup ⟨pid⟩ with
  | none =>
    have hbank : (participant pid : Handling Amount _).alone now.now s
        = .error (.error .participantNotFound) s := by
      rw [alone_bankOf, Network.getParticipant, Finmap.find, hp]
      rfl
    rw [atBank, hp]
    refine makes_none (e := .error .participantNotFound) ?_
    rw [Prog.alone_bind]
    exact Call.bind_of_error hbank _
  | some p =>
    rw [atBank, hp]
    exact (hf p hp).congr (alone_participant_bind hp f)

/-- A call, and its response. -/
theorem makes_respond {x : Program Amount α} {g : α → Response Amount} {o : ClientOp Amount}
    (hx : clientCall now.now o s = (x.alone now.now).discard s)
    (hg : ∀ a, (g a).status ∈ successes) :
    Makes now (call x >>= fun a => pure (g a)) s (some o) :=
  makes_call hx fun a _ _ => responds_pure (hg a)

theorem makes_ledger {p : Participant Amount} (hp : s.participants.lookup ⟨pid⟩ = some p)
    {x : Time → Call (Book Amount) Ledger.Err α} (op : Book.Op Amount)
    (hop : ∀ now, Book.call now op = (x now).discard) {g : α → Response Amount}
    (hg : ∀ a, (g a).status ∈ successes) :
    Makes now (call (onLedger ⟨pid⟩ .write x) >>= fun a => pure (g a)) s
      (some (.ledger ⟨pid⟩ op)) := by
  refine makes_respond ?_ hg
  rw [clientCall, Call.get_bind, hp, orThrow_some_bind, hop, alone_onLedger]
  exact onLedger_discard hp _

/-- A call on the register of a bank, and the rest of the handler. -/
theorem makes_register {p : Participant Amount} (hp : s.participants.lookup ⟨pid⟩ = some p)
    {x : Program Amount α} {k : α → Handling Amount (Response Amount)}
    {y : Call (Register Amount) Deposit.Err α} (op : Register.Op Amount)
    (hx : x.alone now.now = Network.onDeposit ⟨pid⟩ y)
    (hop : Register.call now.now op = y.discard)
    (hk : ∀ a r, y p.deposit = .ok a r →
      Responds now s (k a) (s.setParticipant ⟨pid⟩ (p.withDeposit r))) :
    Makes now (call x >>= k) s (some (.network (.register ⟨pid⟩ op))) := by
  refine makes_call ?_ fun a t ha => ?_
  · show Network.onDeposit ⟨pid⟩ (Register.call now.now op) s = _
    rw [hx, hop]
    exact onDeposit_discard hp y
  · rw [hx] at ha
    obtain ⟨r, hr, rfl⟩ := onDeposit_eq_ok hp ha
    exact hk a r hr

/-! ### Handlers of two calls -/

/-- After a call that goes through, the network has what it had. -/
theorem goes_of_clientCall {o : ClientOp Amount} (h : s.Sound)
    (hcall : clientCall now.now o s = .ok () t) :
    t.Sound ∧ s.Retains t := by
  have houtcome := ((h.anyCall_outcome now.now (.client o)).ok hcall).1
  exact ⟨houtcome.sound h, houtcome.retains h⟩

omit [AddCommGroup Amount] [LinearOrder Amount] in
/-- The status of an account that is there has been changed. -/
theorem mem_of_changeStatus {source target : Deposit.AccountStatus}
    {eventType : Deposit.AuditEventType} {time : Time} {id : Deposit.AccountID}
    {r r' : Register Amount}
    (h : Register.changeStatus source target eventType time id r = .ok () r') :
    id ∈ r.accounts := by
  by_contra hmissing
  rw [Register.changeStatus, Call.get_bind, Finmap.lookup_eq_none.mpr hmissing] at h
  cases h

/-- A deposit is to an account that is there. -/
theorem mem_of_deposit {time : Time} {i : ParticipantID} {id : Deposit.AccountID}
    {amount : Amount} {description : String}
    (h : Network.deposit time i id amount description s = .ok () t) :
    ∃ p, s.participants.lookup i = some p ∧ id ∈ p.deposit.accounts := by
  rw [Network.deposit] at h
  by_cases hpos : 0 < amount
  swap
  · rw [require_bind_of_not hpos] at h
    cases h
  rw [require_bind_of hpos, Call.get_bind] at h
  cases hp : s.participants.lookup i with
  | none =>
    rw [hp] at h
    cases h
  | some p =>
    refine ⟨p, rfl, ?_⟩
    rw [hp, orThrow_some_bind] at h
    by_contra hmissing
    have hgl : p.glAccount id = .error .accountNotInParticipant := by
      rw [Participant.glAccount, Register.getAccount, Finmap.lookup_eq_none.mpr hmissing]
    rw [hgl] at h
    cases h

/-- The account is read after its status has been changed. -/
theorem responds_account {p : Participant Amount} {did : String}
    (hp : s.participants.lookup ⟨pid⟩ = some p) (op : Register.Op Amount) {r : Register Amount}
    (hr : Register.call now.now op p.deposit = .ok () r)
    (hid : (⟨did⟩ : Deposit.AccountID) ∈ p.deposit.accounts) :
    Responds now s (call (getAccount ⟨pid⟩ ⟨did⟩) >>= fun acct =>
      pure (ok (.depositAccount (toDepositAccountDTO acct))))
      (s.setParticipant ⟨pid⟩ (p.withDeposit r)) := by
  refine responds_look
    (x := atDeposit (s.setParticipant ⟨pid⟩ (p.withDeposit r)) pid fun r => r.getAccount ⟨did⟩)
    ?_ (fun _ => List.mem_cons_self) fun h => ?_
  · rw [getAccount, alone_onRegister, onDeposit_look]
  · have hcall : clientCall now.now (.network (.register ⟨pid⟩ op)) s
        = .ok () (s.setParticipant ⟨pid⟩ (p.withDeposit r)) :=
      Network.onDeposit_of_ok hp hr
    have hthere : InDeposit s pid fun r => (⟨did⟩ : Deposit.AccountID) ∈ r.accounts := ⟨p, hp, hid⟩
    have hstays := hthere.mono (goes_of_clientCall h hcall).2 fun _ _ hr => hr.accounts.mem
    refine found_inDeposit hstays fun r hr => ?_
    obtain ⟨a, ha⟩ := Finmap.mem_iff.mp hr
    exact ⟨a, by rw [Register.getAccount, ha]⟩

/-- The action of a status request, and the call on the register. -/
theorem makes_status {p : Participant Amount} (hp : s.participants.lookup ⟨pid⟩ = some p)
    (did action : String) :
    Makes now (statusCall pid did action >>= fun _ => call (getAccount ⟨pid⟩ ⟨did⟩) >>= fun acct =>
      pure (ok (.depositAccount (toDepositAccountDTO acct)))) s
      ((statusOp did action).map fun op => .network (.register ⟨pid⟩ op)) := by
  rw [statusCall, statusOp]
  split
  · exact makes_register hp (.freeze _) (alone_onRegister ..) (Call.discard_self _).symm
      fun _ r hr =>
        responds_account hp (.freeze _) hr (mem_of_changeStatus hr)
  · split
    · exact makes_register hp (.unfreeze _) (alone_onRegister ..) (Call.discard_self _).symm
        fun _ r hr =>
          responds_account hp (.unfreeze _) hr (mem_of_changeStatus hr)
    · split
      · exact makes_register hp (.markDormant _) (alone_onRegister ..) (Call.discard_self _).symm
          fun _ r hr =>
            responds_account hp (.markDormant _) hr (mem_of_changeStatus hr)
      · split
        · exact makes_register hp (.reactivate _) (alone_onRegister ..) (Call.discard_self _).symm
            fun _ r hr =>
              responds_account hp (.reactivate _) hr (mem_of_changeStatus hr)
        · exact makes_none (e := .badRequest _) rfl

/-- The balance is read after the account has been funded. -/
theorem makes_fund {p : Participant Amount} (hp : s.participants.lookup ⟨pid⟩ = some p)
    (id : String) (amount : Amount) (description : String) :
    Makes now (call (deposit p.id ⟨id⟩ amount description) >>= fun _ =>
      call (getBalance ⟨pid⟩ ⟨id⟩) >>= fun bal => pure (ok (.balance (toBalanceDTO bal)))) s
      (some (.network (.deposit p.id ⟨id⟩ amount description))) := by
  have halone := alone_deposit now.now p.id ⟨id⟩ amount description
  refine makes_call ?_ fun _ t ht => ?_
  · rw [halone, Call.discard_self]
    rfl
  refine responds_look (x := atDeposit t pid fun r => r.getBalance now.now ⟨id⟩) ?_
    (fun _ => List.mem_cons_self) fun h => ?_
  · rw [getBalance, Sections.alone_program, run_getBalance, onDeposit_look]
  · rw [halone] at ht
    obtain ⟨p', hp', hid⟩ := mem_of_deposit ht
    have hsame : p.id = ⟨pid⟩ := h.ids.participants.own _ _ hp
    rw [hsame, hp] at hp'
    cases hp'
    have hcall : clientCall now.now (.network (.deposit p.id ⟨id⟩ amount description)) s
        = .ok () t := ht
    have hgoes := goes_of_clientCall h hcall
    have hthere : InDeposit s pid fun r => (⟨id⟩ : Deposit.AccountID) ∈ r.accounts := ⟨p, hp, hid⟩
    obtain ⟨b, hb, hid'⟩ := hthere.mono hgoes.2 fun _ _ hr => hr.accounts.mem
    have hlinked := (hgoes.1.banks _ b hb).linked
    have hfound : InDeposit t pid fun r => r.Linked ∧ (⟨id⟩ : Deposit.AccountID) ∈ r.accounts :=
      ⟨b, hb, hlinked, hid'⟩
    exact found_inDeposit hfound fun r hr => found_balance hr.1 now.now hr.2

/-- The mandate is read after it has been revoked. -/
theorem makes_revoke (mid : String) :
    Makes now (call (revokeMandate ⟨mid⟩) >>= fun _ => call (query fun s => s.getMandate ⟨mid⟩) >>=
      fun m => pure (ok (.mandate (toMandateDTO m)))) s
      (some (.network (.revokeMandate ⟨mid⟩))) := by
  have halone : (revokeMandate ⟨mid⟩ : Program Amount Unit).alone now.now = _ :=
    alone_revokeMandate now.now ⟨mid⟩
  refine makes_call ?_ fun _ t ht => ?_
  · rw [halone, Call.discard_self]
    rfl
  refine responds_look (x := t.getMandate ⟨mid⟩) ?_ (fun _ => List.mem_cons_self) fun h => ?_
  · rw [alone_query]
    rfl
  · rw [halone] at ht
    have hmem : (⟨mid⟩ : Payment.MandateID) ∈ s.mandates := by
      by_contra hmissing
      rw [Network.revokeMandate, Call.get_bind, Finmap.lookup_eq_none.mpr hmissing] at ht
      cases ht
    have hcall : clientCall now.now (.network (.revokeMandate ⟨mid⟩)) s = .ok () t := ht
    have hgoes := goes_of_clientCall h hcall
    obtain ⟨m, hm⟩ := Finmap.mem_iff.mp (hgoes.2.mandates.mem hmem)
    exact ⟨m, Finmap.find_eq_ok.mpr hm⟩

/-! ## Requests -/

/-- **A request makes the call that it asks for.** -/
theorem makes_handle (now : Clock) (c : Choices Amount) (s : Network Amount)
    (req : Request Amount) : Makes now (handle c req) s (req.op c s) := by
  cases req with
  | addParticipant body =>
    refine makes_bodyOf fun req => makes_respond ?_ fun _ => created_mem
    rw [alone_addParticipant]
    rfl
  | fundDeposit pid body =>
    exact makes_bank fun p hp => makes_bodyOf fun req => makes_fund hp _ _ _
  | createLedger pid body =>
    exact makes_bank fun p hp => makes_bodyOf fun req =>
      makes_ledger hp (.createLedger _) (fun _ => rfl) fun _ => created_mem
  | createSubledger pid lid body =>
    exact makes_bank fun p hp => makes_bodyOf fun req =>
      makes_ledger hp (.createSubledger _ _) (fun _ => rfl) fun _ => created_mem
  | createAccount pid sid body =>
    exact makes_bank fun p hp => makes_body fun req => makes_bodyOf fun type =>
      makes_ledger hp (.createAccount _ _ _) (fun _ => rfl) fun _ => created_mem
  | postTransaction pid body =>
    exact makes_bank fun p hp => makes_body fun req => makes_bodyOf fun req =>
      makes_ledger hp (.postTransaction _) (fun _ => rfl) fun _ => created_mem
  | reverseTransaction pid tid body =>
    exact makes_bank fun p hp => makes_bodyOf fun req =>
      makes_ledger hp (.reverseTransaction _ _) (fun _ => rfl) fun _ => created_mem
  | openDepositAccount pid body =>
    refine makes_bank fun p hp => makes_bodyOf fun req => makes_register hp _ ?_ rfl
      fun _ _ _ => responds_pure created_mem
    rw [openAccount, Sections.alone_program, run_openAccount]
  | depositStatus pid did body =>
    exact makes_bank fun p hp => makes_body fun req => makes_status hp _ _
  | closeDepositAccount pid did =>
    refine makes_bank fun p hp => makes_register hp _ ?_ (Call.discard_self _).symm
      fun _ _ _ => responds_pure noContent_mem
    rw [close, Sections.alone_program, run_close]
    rfl
  | createHold pid did body =>
    refine makes_bank fun p hp => makes_bodyOf fun req => makes_register hp _ ?_ rfl
      fun _ _ _ => responds_pure created_mem
    rw [createHold, Sections.alone_program, run_createHold]
  | releaseHold pid hid =>
    exact makes_bank fun p hp => makes_register hp _ (alone_onRegister ..)
      (Call.discard_self _).symm fun _ _ _ => responds_pure noContent_mem
  | captureHold pid hid body =>
    refine makes_bank fun p hp => makes_bodyOf fun req => makes_register hp _ ?_ rfl
      fun _ _ _ => responds_pure created_mem
    rw [captureHold, Sections.alone_program, run_captureHold]
  | takeSnapshot pid did body =>
    refine makes_bank fun p hp => makes_body fun req => makes_bodyOf fun day =>
      makes_register hp _ ?_ rfl fun _ _ _ => responds_pure created_mem
    rw [takeEndOfDaySnapshot, Sections.alone_program, run_takeEndOfDaySnapshot]
  | createMandate body =>
    refine makes_bodyOf fun req => makes_respond ?_ fun _ => created_mem
    rw [alone_createMandate]
    rfl
  | revokeMandate mid => exact makes_revoke mid
  | initiatePayment body =>
    refine makes_bodyOf fun req => makes_respond ?_ fun _ => created_mem
    rw [alone_initiatePayment]
    rfl
  | rejectPayment payid body =>
    refine makes_bodyOf fun req => makes_respond ?_ fun _ => ok_mem
    rw [alone_rejectPayment]
    rfl
  | returnPayment payid body =>
    refine makes_bodyOf fun req => makes_respond ?_ fun _ => ok_mem
    rw [alone_returnPayment]
    rfl
  | openCycle body =>
    refine makes_bodyOf fun req => makes_respond ?_ fun _ => created_mem
    rw [alone_openCycleFor]
    rfl
  | closeCycle cid =>
    refine makes_respond ?_ fun _ => ok_mem
    rw [alone_closeCycle]
    rfl
  | settleCycle cid =>
    refine makes_respond ?_ fun _ => ok_mem
    rw [alone_settleCycle]
    rfl
  | _ => exact makes_view rfl

/-! ## Runs of requests -/

/-- A request, when it is handled, and what Go chooses then. -/
structure Arrival (Amount : Type) where
  now : Clock
  choices : Choices Amount
  request : Request Amount

namespace Arrival

/-- The request, served alone. -/
def served (a : Arrival Amount) : Call (Network Amount) Empty (Response Amount) :=
  (serve a.choices a.request).alone a.now.now

/-- The network after a request. -/
def exec (a : Arrival Amount) (s : Network Amount) : Network Amount := a.served.final s

/-- The call that the request makes. -/
def op (a : Arrival Amount) (s : Network Amount) : Option (ClientOp Amount) :=
  a.request.op a.choices s

end Arrival

/-- The calls that requests make, one request after the other. -/
def calls (s : Network Amount) : List (Arrival Amount) → List (Clock × ClientOp Amount)
  | [] => []
  | a :: as => ((a.op s).toList.map fun o => (a.now, o)) ++ calls (a.exec s) as

/-- The response to a request, and what it says about the call. -/
theorem Arrival.served_eq (a : Arrival Amount) (h : s.Sound) :
    ∃ r, a.served s = .ok r (a.exec s) ∧
      a.exec s = ((a.op s).elim s fun o => clientExec (a.now, o) s) ∧
      ∀ o ∈ a.op s, (r.status ∈ successes ↔ Call.failure (clientCall a.now.now o s) = none) := by
  have hmakes := makes_handle a.now a.choices s a.request
  cases hhandle : (handle a.choices a.request).alone a.now.now s with
  | ok r t =>
    have hserved : a.served s = .ok r t := Prog.alone_recover_of_ok _ hhandle _
    have hexec : a.exec s = t := Call.final_of_ok hserved
    obtain ⟨hstatus, hcall⟩ := hmakes.answers r t hhandle
    rw [hexec]
    refine ⟨r, hserved, (Call.final_of_ok hhandle).symm.trans hmakes.final, fun o ho => ?_⟩
    exact iff_of_true hstatus (hcall o ho)
  | error e t =>
    have hserved : a.served s = .ok e.response t := Prog.alone_recover_of_error _ hhandle _
    have hexec : a.exec s = t := Call.final_of_ok hserved
    rw [hexec]
    refine ⟨e.response, hserved, (Call.final_of_error hhandle).symm.trans hmakes.final,
      fun o ho => ?_⟩
    exact iff_of_false (refusal_not_success e) (hmakes.refuses h e t hhandle o ho)

theorem Arrival.sound_exec (a : Arrival Amount) (h : s.Sound) : (a.exec s).Sound := by
  obtain ⟨r, -, hexec, -⟩ := a.served_eq h
  rw [hexec]
  cases a.op s with
  | none => exact h
  | some o => exact Network.anyExec_sound (a.now.now, .client o) s h

theorem run_arrivals (as : List (Arrival Amount)) (h : s.Sound) :
    run Arrival.exec s as = run clientExec s (calls s as) := by
  induction as generalizing s with
  | nil => rfl
  | cons a as ih =>
    obtain ⟨r, -, hexec, -⟩ := a.served_eq h
    show run Arrival.exec (a.exec s) as = run clientExec s (_ ++ calls (a.exec s) as)
    rw [ih (a.sound_exec h), run_append]
    congr 1
    rw [hexec]
    cases a.op s <;> rfl

/-- **Requests, one after the other, are a run of the domain.** What they leave of a new network
is what the calls that they make leave of it, and a request that makes a call is answered with
a success exactly if the call goes through. -/
theorem requests_are_calls (start : Clock) (as : List (Arrival Amount)) (a : Arrival Amount) :
    let s := run Arrival.exec (Network.newNetwork Amount start.now) as
    s = clientReached start (calls (Network.newNetwork Amount start.now) as) ∧
      ∃ r, a.served s = .ok r (a.exec s) ∧
        a.exec s = ((a.op s).elim s fun o => clientExec (a.now, o) s) ∧
        ∀ o ∈ a.op s, (r.status ∈ [200, 201, 204] ↔
          Call.failure (clientCall a.now.now o s) = none) := by
  have hnew : (Network.newNetwork Amount start.now).Sound := Network.sound_newNetwork start.now
  refine ⟨run_arrivals as hnew, ?_⟩
  exact a.served_eq (run_invariant (fun a _ h => a.sound_exec h) hnew as)

end CoreBanking.Api
