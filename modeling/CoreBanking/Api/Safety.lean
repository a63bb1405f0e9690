import CoreBanking.Api.Served

/-!
# What requests are answered, whatever others do

While a request is handled, others are: between its calls on the domain, and between the
sections of these.

- `handled_handle`: still the handler does not panic, and what its answer names is there when
  it answers;
- `found_handle`: a GET for what is there when it is sent is answered with a 200;
- `answered_serve`: what follows for the responses of the server (`Answered`).
-/

namespace CoreBanking.Api

open Concurrent
open Ledger (Book)
open Deposit (Register)
open Payment (Network Participant ParticipantID)

variable {Amount α β : Type} [AddCommGroup Amount] [LinearOrder Amount]
  {held : List (Lock × Mode)} {s s' : Network Amount} {pid : String}

/-! ## Handlers -/

/-- The network is sound, and what the response names is there. -/
def Answering (pid : String) (r : Response Amount) (s : Network Amount) : Prop :=
  s.Sound ∧ Answers pid r s

theorem stable_answering (pid : String) :
    Prog.Stable (interference Amount) held (Answering pid) :=
  fun _ _ _ ha hs => ⟨(hs ha.1).sound, ha.2.mono (hs ha.1).retains⟩

/-- Whatever others do, the handler does not panic, and what it answers with is there. -/
abbrev Handled (held : List (Lock × Mode)) (pid : String) (p : Handling Amount (Response Amount))
    (s : Network Amount) : Prop :=
  Prog.Safe (interference Amount) (fun e => ¬e.Panics) held p s (Answering pid)

theorem handled_pure {r : Response Amount} (h : s.Sound) (hr : Answers pid r s) :
    Handled held pid (pure r) s :=
  .pure ⟨h, hr⟩ (stable_answering pid)

theorem handled_body {x : Except String α} {f : α → Handling Amount (Response Amount)}
    (hf : ∀ a, Handled held pid (f a) s) : Handled held pid (orBadRequest x >>= f) s := by
  cases x with
  | ok a => exact hf a
  | error message => exact Prog.SafeFrom.fail not_false

/-- A call of the domain, and what comes after it. -/
theorem handled_bind {x : Program Amount α} {f : α → Handling Amount (Response Amount)}
    {P : α → Network Amount → Prop} (h : s.Sound) (hx : SafeIn held x s P)
    (hf : ∀ a s', P a s' → s'.Sound → s.Retains s' → Handled held pid (f a) s') :
    Handled held pid (call x >>= f) s := by
  have hcall : Prog.Safe (interference Amount) (fun e : Refusal => ¬e.Panics) held (call x) s
      fun a s' => P a s' ∧ s'.Sound ∧ s.Retains s' := (hx.since h).mapError fun _ he => he
  exact .bind (hcall.mono (fun a s' ha => hf a s' ha.1 ha.2.1 ha.2.2) fun _ he => he)

/-- What takes effect at one moment is as it is alone. -/
theorem handled_of_indivisible {q : Handling Amount (Response Amount)} (h : s.Sound)
    (hq : Indivisible q) (hserved : ∀ now t, t.Sound → s.Retains t → Served now pid q t) :
    Handled held pid q s := by
  refine (hq held s h).mono (fun r s' hr => ?_) ?_
  · obtain ⟨now, t, t', ht, hrt, hok, ht', hr', hs'⟩ := took_elim h hr
    exact ⟨hs', (((hserved now t ht hrt).ok hok).2 ht').mono hr'⟩
  · rintro e ⟨now, t, t', ht, he⟩
    exact ((hserved now t (ht h).1 (ht h).2).error he).2

/-- The bank in the path is found, and stays. -/
theorem handled_participant {i : String}
    {f : Participant Amount → Handling Amount (Response Amount)} (h : s.Sound)
    (hf : ∀ p s', s'.Sound → (⟨i⟩ : ParticipantID) ∈ s'.participants →
      Handled held pid (f p) s') : Handled held pid (participant i >>= f) s := by
  have hfound : SafeIn held (query fun s => s.getParticipant ⟨i⟩) s
      fun (_ : Participant Amount) s' => s'.Sound ∧ (⟨i⟩ : ParticipantID) ∈ s'.participants :=
    safe_query h (fun _ t t' ht hs => ⟨(hs ht.1).sound, (hs ht.1).retains.participants.mem ht.2⟩)
      (fun _ _ => getParticipant_not_panics) fun _ _ hs' _ hp => ⟨hs', mem_of_find hp⟩
  exact handled_bind h hfound fun p s' hp _ _ => hf p s' hp.1 hp.2

/-! ## Requests of several calls -/

theorem files_participant (pid : String) : Files Network.participants
    fun (p : Participant Amount) t => Named t pid (.participant (toParticipantDTO p)) where
  stored _ _ _ ht hp := named_participant ht hp
  stays _ _ _ hr hp := hp.mono hr

theorem files_payment (pid : String) : Files Network.payments
    fun (p : Payment.Payment Amount) t => Named t pid (.payment (toPaymentDTO p)) where
  stored _ _ _ ht hp := named_payment ht hp
  stays _ _ _ hr hp := hp.mono hr

theorem files_settlement (pid : String) : Files Network.settlements
    fun (st : Payment.Settlement Amount) t => Named t pid (.settlement (toSettlementDTO st)) where
  stored _ _ _ ht hst := named_settlement ht hst
  stays _ _ _ hr hst := hst.mono hr

/-- A look at a register, for a bank that has been found. -/
theorem handled_readDeposit (h : s.Sound) {i : String}
    (hi : (⟨i⟩ : ParticipantID) ∈ s.participants) {g : Register Amount → Except Deposit.Err α}
    (hpanic : ∀ r e, g r = .error e → ¬e.Panics) {f : α → Response Amount}
    (hf : ∀ a t p, t.Sound → t.participants.lookup ⟨i⟩ = some p → g p.deposit = .ok a →
      Answers pid (f a) t) :
    Handled held pid (readDeposit i g >>= fun a => pure (f a)) s := by
  have hkeeps : Keeps .read fun _ => Call.reading g :=
    .of_reading (fun _ r e _ he => hpanic r e he) .read
  refine handled_of_indivisible h (.respond (.onRegister hkeeps) f) fun now t ht hr => ?_
  obtain ⟨p, hp⟩ := Finmap.mem_iff.mp (hr.participants.mem hi)
  refine served_onDeposit ht hp (alone_onRegister _ _ _ _) hkeeps fun a r t' ha ht' hp' => ?_
  have hread : Call.Guarantees (fun r => r = p.deposit) (fun _ => True) (Call.reading g)
      p.deposit fun a _ => g p.deposit = .ok a := .reading rfl (fun _ _ => trivial) fun _ hg => hg
  obtain ⟨rfl, hg⟩ := hread.ok ha
  exact hf a t' _ ht' hp' hg

/-- The account is answered with after its status has changed. -/
theorem handled_account (h : s.Sound) {i did : String}
    (hi : (⟨i⟩ : ParticipantID) ∈ s.participants) :
    Handled held i (call (getAccount ⟨i⟩ ⟨did⟩) >>= fun acct =>
      pure (ok (.depositAccount (toDepositAccountDTO acct)))) s :=
  handled_readDeposit h hi (fun _ _ => getAccount_not_panics) fun _ _ _ ht hp ha =>
    answers_ok (named_depositAccount ht hp (lookup_of_getAccount ha))

theorem handled_statusCall (h : s.Sound) {i did action : String}
    {f : Unit → Handling Amount (Response Amount)}
    (hf : ∀ s', s'.Sound → s.Retains s' → Handled held pid (f ()) s') :
    Handled held pid (statusCall i did action >>= f) s := by
  have hcall : ∀ {x : Time → Call (Register Amount) Deposit.Err Unit} (op : Register.Op Amount),
      (∀ now, Register.call now op = x now) →
      Handled held pid (call (onRegister ⟨i⟩ .write x) >>= f) s := by
    intro x op hx
    have hkeeps : Keeps .write x :=
      .of_call op fun now => (hx now).trans (Call.discard_self _).symm
    have hatomic : AtomicIn held (onRegister ⟨i⟩ .write x) _ s := atomic_onRegister h hkeeps
    have hsafe := hatomic.safe h fun now t e t' ht _ he => hkeeps.not_panics ht he
    exact handled_bind h hsafe fun _ s' _ hs' hr => hf s' hs' hr
  rw [statusCall]
  split
  · exact hcall (.freeze _) fun _ => rfl
  · split
    · exact hcall (.unfreeze _) fun _ => rfl
    · split
      · exact hcall (.markDormant _) fun _ => rfl
      · split
        · exact hcall (.reactivate _) fun _ => rfl
        · exact Prog.SafeFrom.fail not_false

/-- What is named stays there. -/
theorem stable_named {f : α → DTO Amount} (pid : String) :
    Prog.Stable (interference Amount) held fun a s' => s'.Sound ∧ Named s' pid (f a) :=
  fun _ _ _ ha hs => ⟨(hs ha.1).sound, ha.2.mono (hs ha.1).retains⟩

/-- The reserve of a bank that is there is found. -/
theorem safe_reserveOf (h : s.Sound) {p : Participant Amount} (hp : p.id ∈ s.participants) :
    Prog.Safe (interference Amount) (fun _ : Refusal => False) held (reserveOf p) s
      fun d s' => s'.Sound ∧ Named s' pid d := by
  have hfound : ∀ {now t x}, Goes s t → (reserveBalance p.id).alone now t = x →
      ∃ bal, x = .ok bal t ∧ t.reserveBalance p.id = .ok bal := by
    intro now t x hgoes hx
    obtain ⟨bal, hbal⟩ := found_reserve (hgoes h).1 ((hgoes h).2.participants.mem hp)
    rw [alone_reserveBalance, hbal] at hx
    exact ⟨bal, hx.symm, hbal⟩
  have hcall : Prog.Safe (interference Amount) (fun _ : Payment.Err => False) held
      (reserveBalance p.id) s
      fun bal s' => s'.Sound ∧ Named s' pid (.reserve ⟨p.id.val, bal⟩) := by
    refine (atomic_reserveBalance h p.id).mono ?_ ?_
    · rintro bal s' ⟨now, t, t', hgoes, hok, -, hlater⟩
      obtain ⟨bal', heq, hbal⟩ := hfound hgoes hok
      cases heq
      have hs' := hlater (hgoes h).1
      exact ⟨hs'.1, (named_reserve hbal).mono hs'.2⟩
    · rintro e ⟨now, t, t', hgoes, herr⟩
      obtain ⟨bal, heq, -⟩ := hfound hgoes herr
      cases heq
  refine .bind ((hcall.mapError fun _ he => he).mono (fun bal s' hbal => ?_) fun _ he => he)
  exact .pure hbal (stable_named (f := fun d => d) pid)

/-- The banks in a listing are there. -/
theorem safe_listParticipants (h : s.Sound) (c : Choices Amount) {E : Payment.Err → Prop} :
    Prog.Safe (interference Amount) E held (query fun s =>
        .ok (s.listParticipants c.participants.order c.participants.sorter)) s
      fun parts s' => s'.Sound ∧ ∀ p ∈ parts, p.id ∈ s'.participants := by
  refine .locked (fun parts t t' ht hs => ?_) fun _ t hs =>
    .reading ((interference Amount).guar_refl _ t) (fun _ he => ?_) fun parts hparts => ?_
  · exact ⟨(hs ht.1).sound, fun p hp => (hs ht.1).retains.participants.mem (ht.2 p hp)⟩
  · cases he
  · cases hparts
    refine ⟨(hs h).sound, fun p hp => ?_⟩
    obtain ⟨⟨k, hk⟩, -⟩ := mem_listed.mp hp
    rw [(hs h).sound.ids.participants.own k p hk]
    exact Finmap.mem_of_lookup_eq_some hk

/-- The reserves are listed without fail. -/
theorem safe_listReserves (h : s.Sound) (c : Choices Amount) (pid : String) :
    Prog.Safe (interference Amount) (fun _ : Refusal => False) held (handleListReserves c) s
      fun r s' => Answering pid r s' ∧ r.status = 200 := by
  have hbanks : Prog.Safe (interference Amount) (fun _ : Refusal => False) held
      (call (query fun s => .ok (s.listParticipants c.participants.order c.participants.sorter)))
      s fun parts s' => s'.Sound ∧ ∀ p ∈ parts, p.id ∈ s'.participants :=
    (safe_listParticipants h c (E := fun _ => False)).mapError fun _ he => he
  refine .bind (hbanks.mono (fun parts s₁ hparts => ?_) fun _ he => he)
  obtain ⟨h₁, hparts⟩ := hparts
  have hloop : Prog.Safe (interference Amount) (fun _ : Refusal => False) held
      (parts.mapM reserveOf) s₁
      fun ds s' => s'.Sound ∧ ∀ d ∈ ds, s'.Sound ∧ Named s' pid d :=
    .mapM within_goes (fun _ _ ht hgoes => (hgoes ht).1)
      (fun _ _ _ ht hd hgoes => ⟨(hgoes ht).1, hd.2.mono (hgoes ht).2⟩) h₁
      fun p hp t ht hgoes => safe_reserveOf ht ((hgoes h₁).2.participants.mem (hparts p hp))
  refine .bind (hloop.mono (fun ds s₂ hds => ?_) fun _ he => he)
  refine .pure ⟨⟨hds.1, ?_, fun d hd => (hds.2 d hd).2⟩, rfl⟩ fun r t t' ht hs => ?_
  · exact List.mem_cons_self
  · exact ⟨stable_answering pid r t t' ht.1 hs, ht.2⟩

/-! ## All requests -/

/-- **Whatever others do, a handler does not panic, and what it answers with is there.** -/
theorem handled_handle (h : s.Sound) (c : Choices Amount) (req : Request Amount) :
    Handled held req.bank (handle c req) s := by
  by_cases hreq : req.Single
  · exact handled_of_indivisible h (indivisible_handle c hreq) fun now t ht _ =>
      served_handle ht c hreq now
  cases req with
  | addParticipant body =>
    exact handled_body fun req => handled_bind h (safe_addParticipant h (files_participant _) _)
      fun p s' hp hs' _ => handled_pure hs' (answers_created hp.2)
  | fundDeposit pid body =>
    refine handled_participant h fun p s₁ h₁ hp => handled_body fun req => ?_
    refine handled_bind h₁ (safe_deposit h₁ _ _ _ _) fun _ s₂ _ h₂ _ => ?_
    have hkeeps : Keeps .read fun now => Call.reading fun r : Register Amount =>
        r.getBalance now ⟨req.account⟩ :=
      .of_reading (fun _ _ _ hr he => hr.getBalance_not_panics he) .read
    have hatomic : AtomicIn held (getBalance ⟨pid⟩ ⟨req.account⟩) _ s₂ := atomic_getBalance h₂ _ _
    have hbalance := hatomic.safe h₂ fun now t e t' ht _ he => hkeeps.not_panics ht he
    refine handled_bind h₂ hbalance fun bal s₃ _ h₃ _ => handled_pure h₃ (answers_ok ?_)
    rintro q ⟨⟩
  | listReserves =>
    exact (safe_listReserves h c _).mono (fun _ _ hr => hr.1) fun _ he => absurd he not_false
  | depositStatus pid did body =>
    refine handled_participant h fun p s₁ h₁ hp => handled_body fun req => ?_
    exact handled_statusCall h₁ fun s₂ h₂ hr => handled_account h₂ (hr.participants.mem hp)
  | revokeMandate mid =>
    have hatomic : AtomicIn held (revokeMandate ⟨mid⟩) _ s := atomic_revokeMandate _
    have hrevoke := hatomic.safe h fun _ _ _ _ _ _ he => revokeMandate_error he
    refine handled_bind h hrevoke fun _ s₁ _ h₁ _ => ?_
    have hfound : SafeIn held (query fun s => s.getMandate ⟨mid⟩) s₁
        fun m s' => s'.Sound ∧ Named s' "" (.mandate (toMandateDTO m)) := by
      refine safe_query h₁ (stable_named "") (fun s' e he => ?_) fun s' m hs' _ hm => ?_
      · rw [Finmap.eq_of_find_error he]
        exact not_false
      · exact ⟨hs', named_mandate hs' (Finmap.find_eq_ok.mp hm)⟩
    exact handled_bind h₁ hfound fun m s' hm hs' _ => handled_pure hs' (answers_ok hm.2)
  | initiatePayment body =>
    exact handled_body fun req => handled_bind h (safe_initiatePayment h (files_payment _) _)
      fun p s' hp hs' _ => handled_pure hs' (answers_created hp.2)
  | rejectPayment payid body =>
    exact handled_body fun req => handled_bind h (safe_rejectPayment h (files_payment _) _ _)
      fun p s' hp hs' _ => handled_pure hs' (answers_ok hp.2)
  | returnPayment payid body =>
    exact handled_body fun req => handled_bind h (safe_returnPayment h (files_payment _) _ _)
      fun p s' hp hs' _ => handled_pure hs' (answers_ok hp.2)
  | settleCycle cid =>
    exact handled_bind h (safe_settleCycle h (files_settlement _) _ _ _)
      fun st s' hst hs' _ => handled_pure hs' (answers_ok hst.2)
  | _ => exact absurd trivial hreq

omit [LinearOrder Amount] in
theorem exists_view {req : Request Amount} (hreq : Lasting req) (c : Choices Amount)
    (now : Time) (s : Network Amount) : ∃ x, view c now s req = some x := by
  cases req <;> first | exact ⟨_, rfl⟩ | exact absurd hreq not_false

omit [AddCommGroup Amount] [LinearOrder Amount] in
theorem lasting_of_present {req : Request Amount} (hreq : Present s req) : Lasting req := by
  cases req <;> first | trivial | exact hreq.1

omit [AddCommGroup Amount] [LinearOrder Amount] in
/-- Of the GETs, only one makes several calls. -/
theorem eq_listReserves {req : Request Amount} (hreq : Lasting req) (hsingle : ¬req.Single) :
    req = .listReserves := by
  cases req <;> first | rfl | exact absurd trivial hsingle | exact absurd hreq not_false

/-- A GET is a look at the network, at one moment. -/
theorem alone_of_lasting {req : Request Amount} (hreq : Lasting req) (c : Choices Amount)
    (now : Time) : ∃ x, view c now s req = some x ∧
      (handle c req).alone now s = Call.ofExcept x s := by
  obtain ⟨x, hx⟩ := exists_view hreq c now s
  exact ⟨x, hx, alone_of_view hx⟩

/-- **What is there is answered with a 200**, though others go on before it is looked up. -/
theorem found_handle (h : s.Sound) (c : Choices Amount) {req : Request Amount}
    (hreq : Present s req) :
    Prog.Safe (interference Amount) (fun _ : Refusal => False) held (handle c req) s
      fun r _ => r.status = 200 := by
  have hlasting := lasting_of_present hreq
  have hfound : ∀ {now t x}, Goes s t → (handle c req).alone now t = x →
      ∃ r, x = .ok r t ∧ r.status = 200 := by
    intro now t x hgoes hx
    obtain ⟨r, hr, hstatus⟩ :=
      view_of_present (hgoes h).1 (hreq.mono (hgoes h).2) c now
    rw [alone_of_view hr] at hx
    exact ⟨r, hx.symm, hstatus⟩
  by_cases hsingle : req.Single
  · refine (indivisible_handle c hsingle held s h).mono ?_ ?_
    · rintro r s' ⟨now, t, t', hgoes, hok, -, -⟩
      obtain ⟨r', heq, hstatus⟩ := hfound hgoes hok
      cases heq
      exact hstatus
    · rintro e ⟨now, t, t', hgoes, herr⟩
      obtain ⟨r, heq, -⟩ := hfound hgoes herr
      cases heq
  · obtain rfl := eq_listReserves hlasting hsingle
    exact (safe_listReserves h c "").mono (fun _ _ hr => hr.2) fun _ he => he

/-- **What is answered is there**, and stays there. -/
theorem lasting_handle (h : s.Sound) (c : Choices Amount) {req : Request Amount}
    (hreq : Lasting req) :
    Prog.Safe (interference Amount) (fun _ : Refusal => True) held (handle c req) s
      fun _ s' => s'.Sound ∧ Present s' req := by
  by_cases hsingle : req.Single
  · refine (indivisible_handle c hsingle held s h).mono ?_ fun _ _ => trivial
    rintro r s' ⟨now, t, t', hgoes, hok, -, hlater⟩
    obtain ⟨x, hx, halone⟩ := alone_of_lasting (s := t) hreq c now
    have hlook := halone.symm.trans hok
    cases x with
    | error e => cases hlook
    | ok r' =>
      cases hlook
      have hs' := hlater (hgoes h).1
      exact ⟨hs'.1, ((present_of_view hx).2 hreq).mono hs'.2⟩
  · obtain rfl := eq_listReserves hreq hsingle
    exact (safe_listReserves h c "").mono (fun _ _ hr => ⟨hr.1.1, trivial⟩)
      fun _ _ => trivial

/-! ## The server -/

/-- What is known of a response to a request that arrived at `s`, when it is sent at `s'`. -/
structure Answered (req : Request Amount) (s : Network Amount) (r : Response Amount)
    (s' : Network Amount) : Prop where
  sound : s'.Sound
  retains : s.Retains s'
  status : r.status ∈ successes ++ clientErrors
  /-- What a success names is there. -/
  named : r.status ∈ successes → ∀ d ∈ r.entities, Named s' req.bank d
  /-- What was there is found. -/
  found : Present s req → r.status = 200
  /-- What has been found is there. -/
  present : Lasting req → r.status = 200 → Present s' req

/-- **Every response of the server**, whatever is served meanwhile. -/
theorem answered_serve (h : s.Sound) (c : Choices Amount) (req : Request Amount) :
    Prog.Safe (interference Amount) (fun _ => False) held (serve c req) s (Answered req s) := by
  have hhandled : Handled held req.bank (handle c req) s := handled_handle h c req
  have hfound : Prog.Safe (interference Amount) (fun _ => ¬Present s req) held (handle c req) s
      fun r _ => Present s req → r.status = 200 := by
    by_cases hreq : Present s req
    · exact (found_handle h c hreq).mono (fun _ _ hr _ => hr) fun _ he => absurd he not_false
    · exact hhandled.mono (fun _ _ _ hpresent => absurd hpresent hreq) fun _ _ => hreq
  have hlasting : Prog.Safe (interference Amount) (fun _ => True) held (handle c req) s
      fun _ s' => Lasting req → Present s' req := by
    by_cases hreq : Lasting req
    · exact (lasting_handle h c hreq).mono (fun _ _ hr _ => hr.2) fun _ _ => trivial
    · exact hhandled.mono (fun _ _ _ hlast => absurd hlast hreq) fun _ _ => trivial
  have hall := ((hhandled.and hfound).and hlasting).since within_goes
  refine .recover within_goes (hall.mono (fun r s' hr => ?_) fun _ he => he) ?_
  · obtain ⟨⟨⟨hanswer, hfound⟩, hpresent⟩, hgoes⟩ := hr
    exact
      { sound := hanswer.1
        retains := (hgoes h).2
        status := List.mem_append_left _ hanswer.2.status
        named := fun _ => hanswer.2.named
        found := hfound
        present := fun hlast _ => hpresent hlast }
  · rintro e s' ⟨⟨hpanic, hmissing⟩, -⟩ hgoes
    have hstatus : (Refusal.response e : Response Amount).status ∈ clientErrors :=
      Refusal.status_mem hpanic
    exact
      { sound := (hgoes h).1
        retains := (hgoes h).2
        status := List.mem_append_right _ hstatus
        named := fun hsuccess => absurd hsuccess (not_success hstatus)
        found := fun hreq => absurd hreq hmissing
        present := fun _ hok => absurd (hok ▸ List.mem_cons_self) (not_success hstatus) }

end CoreBanking.Api
