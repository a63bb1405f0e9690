import CoreBanking.Concurrent.Sections

/-!
# The operations of a network under interference

While an operation of the network goes on, the clients of banks open and close accounts there,
hold and release funds, and post to the ledgers. What an operation has found in the records of
the network stays; of the banks it can only rely on what is there to stay.

There is a lemma for each operation. From a sound network, an operation leaves a sound one
after each of its sections, does not read through a missing entry, and returns what is in the
records (`safe_*`). One that calls on no ledger takes effect at one moment (`atomic_*`).
-/

namespace CoreBanking.Concurrent

open Ledger (Book newBook)
open Deposit (Register)
open Payment

variable {Amount α β : Type} [AddCommGroup Amount] [LinearOrder Amount]
  {held : List (Lock × Mode)} {s s' : Network Amount}

/-! ## The records -/

/-- A section has written to the records, and left the banks alone. -/
structure Recorded (s s' : Network Amount) : Prop where
  sound : s'.Sound
  retains : s.Retains s'
  declared : s.Declared → s'.Declared
  banks : ∀ i b, s.participants.lookup i = some b → s'.participants.lookup i = some b

theorem Recorded.grants (h : Recorded s s') (hheld : (Lock.network, Mode.write) ∈ held) :
    Grants held s s' :=
  grants_recorded hheld (fun _ => ⟨h.sound, h.retains⟩) h.declared h.banks

theorem Recorded.refl (h : s.Sound) : Recorded s s :=
  ⟨h, .refl s, fun hs => hs, fun _ _ hb => hb⟩

theorem Recorded.of_updates (h : s.Sound) (hu : Network.Updates s s')
    (hbooks : s'.participants = s.participants ∧ s'.centralBank = s.centralBank) :
    Recorded s s' where
  sound := hu.sound h
  retains := hu.retains h
  declared hs := ⟨hbooks.1 ▸ hs.banks, hbooks.2 ▸ hs.centralBank⟩
  banks i b hb := by
    rw [hbooks.1]
    exact hb

/-- An operation of the network holds its lock to write. -/
theorem safe_network {p : Program Amount α} {P : α → Network Amount → Prop} (h : s.Sound)
    (hstable : Prog.Stable (interference Amount) held P) (m : Mode)
    (hp : ∀ s', s'.Sound → SafeIn ((Lock.network, m) :: held) p s' P) :
    SafeIn held (.withLock .network m p) s P :=
  .withLock hstable fun s' hs => hp s' (hs h).sound

/-- A section that writes to the records. -/
theorem safe_record_bind {x : Time → Call (Network Amount) Err α} {f : α → Program Amount β}
    {Q : β → Network Amount → Prop} (h : s.Sound) (hheld : (Lock.network, Mode.write) ∈ held)
    (hx : ∀ now s', s'.Sound → Relies held s s' →
      Call.Guarantees (Recorded s') (fun e => ¬e.Panics) (x now) s' fun a t =>
        SafeIn held (f a) t Q) : SafeIn held (.critical x >>= f) s Q :=
  .critical_bind fun now s' hs => (hx now s' (hs h).sound hs).mono
    (fun _ hrecorded => hrecorded.grants hheld) fun _ _ _ hf => hf

/-- The last section. -/
theorem safe_record {x : Time → Call (Network Amount) Err α} {P : α → Network Amount → Prop}
    (h : s.Sound) (hheld : (Lock.network, Mode.write) ∈ held)
    (hstable : Prog.Stable (interference Amount) held P)
    (hx : ∀ now s', s'.Sound → Relies held s s' →
      Call.Guarantees (Recorded s') (fun e => ¬e.Panics) (x now) s' P) :
    SafeIn held (.critical x) s P :=
  .critical hstable fun now s' hs => (hx now s' (hs h).sound hs).mono
    (fun _ hrecorded => hrecorded.grants hheld) fun _ _ _ hf => hf

/-- What holds of an entity that is stored in a sound network, and goes on to hold. -/
structure Files {K V : Type} [DecidableEq K] (entities : Network Amount → GoMap K V)
    (M : V → Network Amount → Prop) : Prop where
  stored : ∀ k v t, t.Sound → (entities t).lookup k = some v → M v t
  stays : ∀ v t t', t.Retains t' → M v t → M v t'

/-- The network is sound, and it holds of what the operation has returned. -/
def Filed (M : α → Network Amount → Prop) (a : α) (s : Network Amount) : Prop :=
  s.Sound ∧ M a s

section Files

variable {K V : Type} [DecidableEq K] {entities : Network Amount → GoMap K V}
  {M : V → Network Amount → Prop}

theorem Files.stable (hM : Files entities M) :
    Prog.Stable (interference Amount) held (Filed M) :=
  fun v t t' ht hs => ⟨(hs ht.1).sound, hM.stays v t t' (hs ht.1).retains ht.2⟩

theorem Files.filed (hM : Files entities M) (h : s.Sound) {k : K} {v : V}
    (hv : (entities s).lookup k = some v) : Filed M v s :=
  ⟨h, hM.stored k v s h hv⟩

end Files

/-- An operation that is one section. -/
theorem atomic_record {x : Time → Call (Network Amount) Err α}
    (hx : ∀ now s', s'.Sound → Recorded s' ((x now).final s')) :
    AtomicIn held (.withLock .network .write (.critical x)) x s :=
  .locked within_goes fun now s' _ h => (hx now s' h).grants List.mem_cons_self h

/-- A look at the records. -/
theorem safe_query {g : Network Amount → Except Err α} {P : α → Network Amount → Prop}
    (h : s.Sound) (hstable : Prog.Stable (interference Amount) held P)
    (herror : ∀ s' e, g s' = .error e → ¬e.Panics)
    (hok : ∀ s' a, s'.Sound → s.Retains s' → g s' = .ok a → P a s') :
    SafeIn held (query g) s P :=
  .locked hstable fun _ s' hs => .reading ((interference Amount).guar_refl _ s') (herror s')
    fun a ha => hok s' a (hs h).sound (hs h).retains ha

/-! ## Participants -/

theorem safe_addParticipant (h : s.Sound) {M : Participant Amount → Network Amount → Prop}
    (hM : Files Network.participants M) (name : String) :
    SafeIn held (addParticipant name) s (Filed M) := by
  refine safe_network h hM.stable .write fun s₁ h₁ => .clock_bind fun now => ?_
  obtain ⟨customers, suspense, reserve, bank, hchart, hwf, htx, -, hsuspense, hreserve, htypes⟩ :=
    bankChart_eq Amount now name
  have hbank := ((Network.bankChart_reachable Amount now name).ok hchart).1
  rw [hchart]
  refine safe_reading_bind h₁ (fun _ _ _ _ he => by cases he) fun s₂ sub h₂ _ _ => ?_
  refine safe_onCentralBank_bind h₂ (.createAccount sub _ _) (fun _ => rfl) trivial ?_
  rintro s₃ acct h₃ - ⟨t, book, hcreate⟩
  refine safe_record h₃ List.mem_cons_self hM.stable fun _ s₄ h₄ hs₄ => ?_
  let b : Participant Amount :=
    { id := ⟨ident "bank" (s₄.idCounter + 1)⟩
      name := name
      deposit := Deposit.newRegister bank
      customerSubledger := customers
      suspenseAccount := suspense
      reserveAccount := reserve
      settlementAccount := acct.id }
  have hb : b.Sound :=
    { chart :=
        { deposit := Register.wf_newRegister hwf
          suspense := hsuspense
          reserve := hreserve
          gl_ne_suspense := Finmap.forall_lookup_empty }
      reachable := Register.reachable_newRegister hbank }
  have hmem := (hs₄ h₃).retains.centralBank.accounts.mem (Book.createAccount_mem hcreate)
  have hjoined := Network.Update.joined (s := s₄) b rfl hb hmem
  have hfresh := h₄.ids.participants.fresh (fun _ _ => ParticipantID.mk.inj) (v := b) rfl
  have hdeclared : b.ledger.Declared := by
    refine ⟨fun k t hk => ?_, fun a acct ha => ?_⟩
    · rw [show b.ledger.transactions = ∅ from htx] at hk
      exact absurd hk (by simp)
    · rcases htypes a acct ha with ⟨htype, -⟩ | ⟨htype, -⟩ <;> exact htype ▸ trivial
  have hrecorded : Recorded s₄ _ := ⟨hjoined.sound h₄, hjoined.retains h₄,
    fun hs => ⟨Finmap.forall_lookup_insert hs.banks hdeclared, hs.centralBank⟩,
    fun i c hc => (Finmap.lookup_insert_fresh hfresh).mpr (.inr hc)⟩
  exact Network.nextID_guarantees (.of_ok rfl hrecorded
    (hM.filed hrecorded.sound (Finmap.lookup_insert _)))

/-! ## Mandates and cycles -/

/-- The parties that have been checked are still there when the mandate is recorded. -/
theorem atomic_createMandate (h : s.Sound) (debtor creditor : PartyRef) (maxAmount : Amount) :
    AtomicIn held (createMandate debtor creditor maxAmount)
      (fun now => Network.createMandate now debtor creditor maxAmount) s := by
  simp only [← alone_createMandate, createMandate, Prog.alone_withLock, Prog.alone_bind,
    alone_checkParty, Prog.alone_critical]
  refine .withLock within_goes fun s₁ hs₁ => ?_
  refine atomic_checkParty_bind (hs₁ h).sound fun s₂ h₂ _ hdebtor => ?_
  refine atomic_checkParty_bind h₂ fun s₃ h₃ hr₃ hcreditor => ?_
  refine .critical within_goes fun now s₄ hs₄ => Recorded.grants ?_ List.mem_cons_self
  have hkept := hs₄ h₃
  have hr := hkept.retains
  have hm : s₄.MandateRefers (s₄.newMandate now debtor creditor maxAmount) :=
    ⟨hr.party (hr₃.party hdebtor), hr.party hcreditor⟩
  have hu := (Network.Updates.refl s₄).tail (.mandated _ rfl hm)
  exact .of_updates hkept.sound hu ⟨rfl, rfl⟩

omit [AddCommGroup Amount] [LinearOrder Amount] in
theorem revokeMandate_error {id : MandateID} {s' : Network Amount} {e : Err}
    (he : Network.revokeMandate id s = .error e s') : ¬e.Panics := by
  cases hm : s.mandates.lookup id with
  | none =>
    rw [Network.revokeMandate, Call.get_bind, hm] at he
    cases he
    exact not_false
  | some m =>
    rw [Network.revokeMandate, Call.get_bind, hm, orThrow_some_bind] at he
    cases he

theorem atomic_revokeMandate (id : MandateID) :
    AtomicIn held (revokeMandate id) (fun _ => Network.revokeMandate id) s := by
  refine atomic_record fun _ s₁ h₁ => ?_
  have hrevoked : Call.Guarantees (Recorded s₁) (fun _ => True) (Network.revokeMandate id) s₁
      Any := by
    refine .read (.orThrow (fun _ => ⟨.refl h₁, trivial⟩) fun m hm => ?_)
    exact .of_ok rfl (.of_updates h₁ ((Network.Updates.refl s₁).tail (.revoked hm)) ⟨rfl, rfl⟩)
      trivial
  exact hrevoked.final

theorem atomic_openCycleFor (scheme : SchemeID) :
    AtomicIn held (openCycleFor scheme) (fun now => Network.openCycleFor now scheme) s := by
  refine atomic_record fun now s₁ h₁ => ?_
  have hopened : Call.Guarantees (Recorded s₁) (fun _ => True) (Network.openCycleFor now scheme)
      s₁ Any := by
    refine .read (.orThrow (fun _ => ⟨.refl h₁, trivial⟩) fun _ _ => ?_)
    refine .require (fun _ => ⟨.refl h₁, trivial⟩) fun hnone => ?_
    have hc : s₁.CycleRefers (s₁.newCycle now scheme) :=
      ⟨fun _ hpid => absurd hpid List.not_mem_nil, fun _ hi => absurd hi Finmap.notMem_empty⟩
    have hu := (Network.Updates.refl s₁).tail (.opened (s₁.newCycle now scheme) rfl hc)
    have ho := Network.Outcome.opened hu hnone (Finmap.mem_insert.mpr (.inl rfl))
    exact .of_ok rfl ⟨ho.sound h₁, ho.retains h₁, fun hs => ⟨hs.banks, hs.centralBank⟩,
      fun _ _ hb => hb⟩ trivial
  exact hopened.final

omit [LinearOrder Amount] in
/-- Closing a cycle moves no money. -/
theorem closeCycle_banks (now : Time) (id : CycleID) (s : Network Amount) :
    Call.Guarantees
      (fun t => t.participants = s.participants ∧ t.centralBank = s.centralBank)
      (fun _ => True) (Network.closeCycle now id) s fun _ _ => True := by
  let same (t : Network Amount) : Prop :=
    t.participants = s.participants ∧ t.centralBank = s.centralBank
  have hs : same s := ⟨rfl, rfl⟩
  refine .read (.orThrow (fun _ => ⟨hs, trivial⟩) fun c _ => ?_)
  refine .require (fun _ => ⟨hs, trivial⟩) fun _ => ?_
  have hloop : Call.Guarantees same (fun _ => True)
      (c.paymentIDs.foldlM Network.clearPayment ∅) s fun _ _ => True := by
    refine .foldlM hs trivial fun net pid t _ ht _ => ?_
    refine .read (.orThrow (fun _ => ⟨ht, trivial⟩) fun p _ => ?_)
    have hmoved : Call.Guarantees same (fun _ => True)
        (Network.transition p .cleared) t fun _ _ => True :=
      .require (fun _ => ⟨ht, trivial⟩) fun _ => .pure ht trivial
    exact .bind hmoved fun _ _ ht' _ => .of_ok rfl ht' trivial
  exact .bind hloop fun _ _ ht _ => .of_ok rfl ht trivial

theorem atomic_closeCycle (id : CycleID) :
    AtomicIn held (closeCycle id) (fun now => Network.closeCycle now id) s := by
  refine atomic_record fun now s₁ h₁ => ?_
  exact .of_updates h₁ (Network.closeCycle_safe h₁ now id).final
    (closeCycle_banks now id s₁).final

/-! ## Funding -/

theorem safe_deposit (h : s.Sound) (i : ParticipantID) (account : Deposit.AccountID)
    (amount : Amount) (description : String) :
    SafeIn held (deposit i account amount description) s Any := by
  refine safe_network h (stable_any held) .write fun s₁ h₁ => ?_
  refine safe_read_bind h₁ fun _ s₂ h₂ _ => .require (fun _ => ⟨rfl, not_false⟩) fun _ => ?_
  refine .read (.orThrow (fun _ => ⟨rfl, not_false⟩) fun b hb => .pure rfl ?_)
  have hi := Finmap.mem_of_lookup_eq_some hb
  refine safe_glAccount_bind h₂ hi fun s₃ gl h₃ hs₃ _ => ?_
  have hi₃ := (hs₃ h₂).retains.participants.mem hi
  refine safe_onLedger_bind h₃ hi₃ (.postTransaction _) (fun _ => rfl)
    (Ledger.declared_transfer _ _ _) fun s₄ _ h₄ _ _ => ?_
  exact safe_onCentralBank_bind h₄ (.postTransaction _) (fun _ => rfl)
    (Ledger.declared_transfer _ _ _) fun _ _ _ _ _ => safe_pure _

omit [LinearOrder Amount] in
theorem bookBalance_not_panics {b : Book Amount} {id : Ledger.AccountID} {e : Ledger.Err}
    (he : b.bookBalance id = .error e) : ¬e.Panics := by
  rw [Book.bookBalance] at he
  split at he <;> cases he
  rintro ⟨⟩

/-- The account of a bank at the central bank stays the same. -/
theorem atomic_reserveBalance (h : s.Sound) (i : ParticipantID) :
    AtomicIn held (reserveBalance i : Program Amount Amount)
      (fun now => (reserveBalance i : Program Amount Amount).alone now) s := by
  simp only [reserveBalance, Prog.alone_withLock, Prog.alone_bind, alone_participant,
    alone_onCentralBank]
  refine .withLock within_goes fun s₁ hs₁ => ?_
  refine atomic_participant_bind (hs₁ h).sound (fun b b' hb => ?_) fun b s₂ _ _ => ?_
  · rw [hb.same]
  · exact atomic_onCentralBank (.of_reading fun book => book.bookBalance b.settlementAccount)

/-! ## Settlement -/

/-- The bank of a net position is there. -/
theorem safe_mirrorPosition (h : s.Sound) (c : ClearingCycle Amount)
    {d : ParticipantID × Amount} (hd : d.1 ∈ s.participants) :
    SafeIn held (mirrorPosition c d) s Any := by
  rw [mirrorPosition]
  split
  · exact safe_pure _
  · refine safe_participant_bind h (fun hnot => absurd hd hnot) fun s₁ b h₁ hs₁ _ => ?_
    have hd₁ := (hs₁ h).retains.participants.mem hd
    exact safe_onLedger_bind h₁ hd₁ (.postTransaction _) (fun _ => rfl)
      (Network.mirrorRequest_declared c d.1 b d.2) fun _ _ _ _ _ => safe_pure _

theorem safe_settlePositions (h : s.Sound) (order₁ order₂ : MapOrder ParticipantID Amount)
    {c : ClearingCycle Amount} (hnet : Network.Positioned c.netPositions s) :
    SafeIn held (settlePositions order₁ order₂ c) s Any := by
  have hkeys : ∀ (order : MapOrder ParticipantID Amount), ∀ d ∈ order.toList c.netPositions,
      d.1 ∈ s.participants := by
    rintro order ⟨i, net⟩ hd
    exact hnet i (Finmap.mem_of_lookup_eq_some (order.mem_toList.mp hd))
  have hfold : ∀ s₁, Relies held s s₁ →
      (order₁.toList c.netPositions).foldlM s₁.addSettlementEntry []
        = .ok ([] ++ s₁.settlementEntries (order₁.toList c.netPositions)) :=
    fun s₁ hs₁ => Network.foldlM_addSettlementEntry
      (fun d hd => (hs₁ h).retains.participants.mem (hkeys order₁ d hd)) []
  refine safe_reading_bind h (fun s₁ e h₁ hs₁ he => ?_) fun s₁ entries h₁ hs₁ hentries => ?_
  · rw [hfold s₁ hs₁] at he
    cases he
  split
  · exact safe_pure _
  have hdeclared : ∀ e ∈ entries, e.direction.Declared := by
    rw [hfold s₁ hs₁] at hentries
    cases hentries
    exact fun e he => Network.settlementEntries_declared he
  refine safe_onCentralBank_bind h₁ (.postTransaction _) (fun _ => rfl) hdeclared
    fun s₂ tx h₂ hs₂ _ => ?_
  refine safe_bind h₂ (safe_forM h₂ fun d hd s₃ h₃ hr₃ => ?_) fun _ _ _ _ => safe_pure _
  have hr := ((hs₁ h).retains.trans (hs₂ h₁).retains).trans hr₃
  exact safe_mirrorPosition h₃ c (hr.participants.mem (hkeys order₂ d hd))

/-- A payment of the cycle is there, and so is the creditor's bank. -/
theorem safe_postCreditorLeg (h : s.Sound) (hheld : (Lock.network, Mode.write) ∈ held)
    {pid : PaymentID} (hpid : pid ∈ s.payments) :
    SafeIn held (postCreditorLeg pid : Program Amount Unit) s Any := by
  refine safe_read_bind h fun _ s₁ h₁ hs₁ => .read (.lookup rfl (fun hnone => ?_) fun p hp => ?_)
  · exact absurd ((hs₁ h).retains.payments.mem hpid) (Finmap.lookup_eq_none.mp hnone)
  obtain ⟨c, ca, hc⟩ := (h₁.refers.payments pid p hp).creditor
  have hi := Finmap.mem_of_lookup_eq_some hc.bank
  refine safe_participant_bind h₁ (fun hnot => absurd hi hnot) fun s₂ b h₂ hs₂ _ => ?_
  have hi₂ := (hs₂ h₁).retains.participants.mem hi
  refine safe_glAccount_bind h₂ hi₂ fun s₃ gl h₃ hs₃ _ => ?_
  have hi₃ := (hs₃ h₂).retains.participants.mem hi₂
  refine safe_onLedger_bind h₃ hi₃ (.postTransaction _) (fun _ => rfl)
    (Ledger.declared_transfer _ _ _) fun s₄ tx h₄ hs₄ _ => ?_
  refine safe_record h₄ hheld (stable_any held) fun _ s₅ h₅ hs₅ => ?_
  have hr := (((hs₂ h₁).retains.trans (hs₃ h₂).retains).trans (hs₄ h₃).retains).trans
    (hs₅ h₄).retains
  obtain ⟨p', hp', hterms⟩ := hr.payments pid p hp
  let credited : Payment Amount := { p with creditorLegTx := some tx.id }
  let settled : Payment Amount := { credited with status := .settled }
  have hcredited : p.SameTerms credited := rfl
  have hleg := (Network.Updates.refl s₅).tail
    (.payment hp' credited (hterms.symm.trans hcredited))
  refine .write (.bind (Network.transition_guarantees (.of_updates h₅ hleg ⟨rfl, rfl⟩) credited
    .settled) ?_)
  rintro p'' s₆ - ⟨rfl, rfl⟩
  have hstored : (s₅.setPayment pid credited).payments.lookup pid = some credited :=
    Finmap.lookup_insert _
  have hsame : credited.SameTerms settled := rfl
  exact .of_ok rfl (.of_updates h₅ (hleg.tail (.payment hstored settled hsame)) ⟨rfl, rfl⟩)
    trivial

theorem safe_settleCycle (h : s.Sound) {M : Settlement Amount → Network Amount → Prop}
    (hM : Files Network.settlements M) (order₁ order₂ : MapOrder ParticipantID Amount)
    (id : CycleID) : SafeIn held (settleCycle order₁ order₂ id) s (Filed M) := by
  refine safe_network h hM.stable .write fun s₁ h₁ => ?_
  refine safe_read_bind h₁ fun _ s₂ h₂ _ => .read (.orThrow (fun _ => ⟨rfl, not_false⟩) ?_)
  refine fun c hc => .require (fun _ => ⟨rfl, not_false⟩) fun _ => .pure rfl ?_
  obtain ⟨hpayments, hpositions⟩ := h₂.refers.cycles id c hc
  refine safe_bind h₂ (safe_settlePositions h₂ order₁ order₂ hpositions) fun tx s₃ h₃ hr₃ => ?_
  have hpaid : SafeIn ((Lock.network, Mode.write) :: held)
      (c.paymentIDs.forM postCreditorLeg) s₃ Any :=
    safe_forM h₃ fun pid hpid s₄ h₄ hr₄ => safe_postCreditorLeg h₄ List.mem_cons_self
      ((hr₃.trans hr₄).payments.mem (hpayments pid hpid))
  refine safe_bind h₃ hpaid fun _ s₄ h₄ hr₄ => ?_
  refine safe_record h₄ List.mem_cons_self hM.stable fun now s₅ h₅ hs₅ => ?_
  have hr := (hr₃.trans hr₄).trans (hs₅ h₄).retains
  obtain ⟨c', hc', hremains⟩ := hr.cycles id c hc
  let st := s₅.newSettlement now c tx
  let settled : ClearingCycle Amount :=
    { c with status := .settled, settlementID := some st.id }
  have hsame : c.Remains settled := rfl
  have hst : s₅.SettlementRefers st := by
    refine ⟨?_, fun i hi => hr.participants.mem (hpositions i hi)⟩
    have hid : c.id = id := h₂.ids.cycles.own id c hc
    show c.id ∈ s₅.cycles
    rw [hid]
    exact Finmap.mem_of_lookup_eq_some hc'
  have hrecorded := (Network.Updates.refl s₅).tail (.settled st rfl hst)
  have hstored : ({ s₅ with
      settlements := s₅.settlements.insert st.id st
      idCounter := s₅.idCounter + 1 } : Network Amount).cycles.lookup id = some c' := hc'
  have hsettled := Network.Update.cycle hstored settled (hremains.symm.trans hsame)
    ⟨fun pid hpid => hr.payments.mem (hpayments pid hpid),
      fun i hi => hr.participants.mem (hpositions i hi)⟩
  have hafter := Recorded.of_updates h₅ (hrecorded.tail hsettled) ⟨rfl, rfl⟩
  exact .of_ok rfl hafter (hM.filed hafter.sound (Finmap.lookup_insert _))

/-! ## Payments -/

/-- A read of the register of a bank. -/
theorem safe_readDeposit {i : ParticipantID} {g : Register Amount → Except Deposit.Err α}
    {P : α → Network Amount → Prop} (h : s.Sound)
    (hstable : Prog.Stable (interference Amount) held P)
    (herror : ∀ r e, Register.Linked r → g r = .error e → ¬e.Panics)
    (hP : ∀ s' a, s'.Sound → Relies held s s' → P a s') :
    SafeIn held (.critical fun _ => Network.onDeposit i (.reading g)) s P := by
  refine .critical hstable fun _ s' hs => ?_
  have h' := (hs h).sound
  have hgrants := (interference Amount).guar_refl held s'
  refine .read (.orThrow (fun _ => ⟨hgrants, not_false⟩) fun b hb => ?_)
  have hself : s'.setParticipant i { b with deposit := b.deposit } = s' :=
    Network.setParticipant_self hb
  refine .zoom_reading ?_ (fun e he => herror _ e (h'.banks i b hb).linked he) fun a _ => ?_
  · rw [hself]
    exact hgrants
  · rw [hself]
    exact hP s' a h' hs

/-- A withdrawal is checked by three reads, each of which finds what it looks for. -/
theorem safe_checkWithdrawal_bind {i : ParticipantID} {id : Deposit.AccountID} {amount : Amount}
    {f : Unit → Program Amount β} {Q : β → Network Amount → Prop} (h : s.Sound)
    (hf : ∀ s', s'.Sound → Relies held s s' → SafeIn held (f ()) s' Q) :
    SafeIn held (checkWithdrawal i id amount >>= f) s Q := by
  have htrans := @(interference Amount).rely_trans
  have hcons := @(interference Amount).rely_of_cons
  refine .withLock_bind fun s₀ hs₀ => .clock_bind fun now => ?_
  have h₀ := (hs₀ h).sound
  refine .bind (safe_readDeposit h₀ (fun _ _ _ hp hs => hp.rely hs) (fun r e _ he => ?_)
    fun s₁ acct h₁ hs₁ => ?_)
  · rcases Call.except_bind_eq_error.mp he with he | ⟨acct, -, he⟩
    · exact getAccount_not_panics he
    · rcases Call.except_bind_eq_error.mp he with he | ⟨-, -, he⟩
      · exact Register.requireActive_not_panics he
      · cases he
  refine .withLock_bind fun s₂ hs₂ => ?_
  have h₂ := (hs₂ h₁).sound
  refine safe_readDeposit h₂ (fun _ _ _ hp hs => hp.rely (hcons hs))
    (fun r e _ he => Register.bookBalance_not_panics he) fun s₃ book h₃ hs₃ => ?_
  refine safe_readDeposit h₃ (fun _ _ _ hp hs => hp.rely (hcons hs)) (fun r e hr he => ?_)
    fun s₄ _ h₄ hs₄ => ?_
  · rcases Call.except_bind_eq_error.mp he with he | ⟨holds, -, he⟩
    · rw [hr.computeActiveHolds_eq] at he
      cases he
    · split at he <;> cases he
      exact not_false
  refine hf s₄ h₄ ?_
  exact htrans hs₀ (hcons (htrans hs₁ (htrans hs₂ (htrans (hcons hs₃) hs₄))))

/-- What is validated is still so for the records, though not for the bank. -/
theorem safe_validate_bind {sc : Scheme} {p : Payment Amount} {f : Unit → Program Amount β}
    {Q : β → Network Amount → Prop} (h : s.Sound)
    (hf : ∀ s', s'.Sound → Relies held s s' → SafeIn held (f ()) s' Q) :
    SafeIn held (validate sc p >>= f) s Q := by
  have htrans := @(interference Amount).rely_trans
  have hfunds : ∀ s₁, s₁.Sound → Relies held s s₁ →
      SafeIn held (validateFunds p >>= f) s₁ Q := by
    intro s₁ h₁ hs₁
    rw [validateFunds, bind_assoc]
    refine safe_checkParty_bind h₁ fun s₂ h₂ hs₂ _ => ?_
    refine safe_checkWithdrawal_bind h₂ fun s₃ h₃ hs₃ => ?_
    exact hf s₃ h₃ (htrans hs₁ (htrans hs₂ hs₃))
  cases sc with
  | sct => exact hfunds s h ((interference Amount).rely_refl held s)
  | sdd =>
    rw [validate, bind_assoc]
    exact safe_reading_bind h (fun _ _ _ _ he => Network.validateMandate_not_panics he)
      fun s₁ _ h₁ hs₁ _ => hfunds s₁ h₁ hs₁

/-- A payment is recorded under the number that it has drawn. -/
theorem recorded_payment (h : s.Sound) {p : Payment Amount} {n : Nat}
    (hid : p.id = ⟨ident "pay" n⟩) (hn : n ≤ s.idCounter)
    (hfresh : s.payments.lookup p.id = none) (hp : s.PaymentRefers p)
    {cycle : ClearingCycle Amount} (hcycle : s.cycles.lookup p.cycleID = some cycle)
    {key : String} (hkey : key = "" ∨ s.endToEndIndex.lookup key = none) :
    Recorded s { (s.setCycle p.cycleID
        { cycle with paymentIDs := cycle.paymentIDs ++ [p.id] }).setPayment p.id p with
      endToEndIndex := if key = "" then s.endToEndIndex
        else s.endToEndIndex.insert key p.id } := by
  let s₁ : Network Amount := { s with payments := s.payments.insert p.id p }
  let listed : ClearingCycle Amount := { cycle with paymentIDs := cycle.paymentIDs ++ [p.id] }
  have hsame := Network.Retains.refl s
  have hr₁ : s.Retains s₁ :=
    { hsame with payments := .insert Payment.SameTerms.refl hfresh p }
  have hold := h.refers.mono hr₁
  have hkeys : KeysUpTo PaymentID.mk "pay" s.idCounter (s.payments.insert p.id p) := by
    rw [hid]
    exact h.ids.payments.keys.insert le_rfl hn p
  have h₁ : s₁.Sound :=
    { ids := { h.ids with
        payments := ⟨hkeys, Finmap.forall_lookup_insert h.ids.payments.own rfl⟩ }
      banks := h.banks
      centralBank := h.centralBank
      refers := { hold with
        payments := Finmap.forall_lookup_insert hold.payments (hp.mono hr₁) } }
  have hmem : p.id ∈ s₁.payments := Finmap.mem_insert.mpr (.inl rfl)
  obtain ⟨hpayments, hpositions⟩ := h₁.refers.cycles _ cycle hcycle
  have hlisted : Network.Update s₁ (s₁.setCycle p.cycleID listed) := by
    refine Network.Update.cycle (s := s₁) hcycle listed rfl ⟨fun pid hpid => ?_, hpositions⟩
    rcases List.mem_append.mp hpid with hpid | hpid
    · exact hpayments pid hpid
    · rw [List.mem_singleton.mp hpid]
      exact hmem
  have hu := (Network.Updates.refl s₁).tail hlisted
  have hrecorded : ∀ {t}, Network.Updates s₁ t →
      t.participants = s₁.participants ∧ t.centralBank = s₁.centralBank → Recorded s t :=
    fun hu hbooks =>
      have hafter := Recorded.of_updates h₁ hu hbooks
      ⟨hafter.sound, hr₁.trans hafter.retains, fun hs => hafter.declared ⟨hs.banks, hs.centralBank⟩,
        hafter.banks⟩
  split
  · exact hrecorded hu ⟨rfl, rfl⟩
  · rename_i hne
    have hunused := hkey.resolve_left hne
    exact hrecorded (hu.tail (.indexed (s := s₁.setCycle p.cycleID listed) hunused hmem)) ⟨rfl, rfl⟩

/-- The bank and the ledger account of the debtor have been read, and what has been posted since
is between them: they stay what they are. -/
theorem legPosted_of_post {s₁ s₂ s₃ : Network Amount} {p : Payment Amount}
    {b c : Participant Amount} {a : Deposit.Account Amount} {gl : Ledger.AccountID}
    {book : Book Amount} {tx : Ledger.Transaction Amount} {now : Time}
    {req : Ledger.PostTransactionRequest Amount}
    (hparty : s₁.Party p.debtor b a) (hr₂ : s₁.Retains s₂)
    (hgl : ∀ b, s₂.participants.lookup p.debtor.participant = some b →
      b.glAccount p.debtor.account = .ok gl)
    (hr₃ : s₂.Retains s₃) (hpost : Book.postTransaction now req c.ledger = .ok tx book)
    (hentries : req.entries = Ledger.transfer gl b.suspenseAccount p.amount)
    (hc : s₃.participants.lookup p.debtor.participant = some (c.withLedger book))
    (hleg : p.debtorLegTx = some tx.id) : s₃.LegPosted p := by
  obtain ⟨b₂, a₂, hparty₂, hbank₂, -⟩ := hr₂.same_party hparty
  obtain ⟨b₃, a₃, hparty₃, hbank₃, hacct₃⟩ := hr₃.same_party hparty₂
  cases hc.symm.trans hparty₃.bank
  refine ⟨_, a₃, tx.id, tx, hparty₃, hleg, Book.postTransaction_stored hpost, ?_⟩
  have haccount : a₃.glAccount = gl := by
    rw [hacct₃]
    exact Except.ok.inj (hparty₂.glAccount.symm.trans (hgl b₂ hparty₂.bank))
  have hsuspense : (c.withLedger book).suspenseAccount = b.suspenseAccount := by
    rw [hbank₃.same, hbank₂.same]
  rw [haccount, hsuspense]
  exact Book.postTransaction_moves hpost hentries

theorem safe_initiatePayment (h : s.Sound) {M : Payment Amount → Network Amount → Prop}
    (hM : Files Network.payments M) (req : InitiatePaymentRequest Amount) :
    SafeIn held (initiatePayment req) s (Filed M) := by
  have htrans := @(interference Amount).rely_trans
  refine safe_network h hM.stable .write fun s₁ h₁ => ?_
  refine safe_read_bind h₁ fun _ s₂ h₂ _ => .read (.orThrow (fun _ => ⟨rfl, not_false⟩) ?_)
  refine fun scheme _ => .require (fun _ => ⟨rfl, not_false⟩) fun _ => .pure rfl ?_
  refine safe_checkParty_bind h₂ fun s₃ h₃ _ hdebtor => ?_
  refine safe_checkParty_bind h₃ fun s₄ h₄ hs₄ hcreditor => ?_
  refine safe_record_bind h₄ List.mem_cons_self fun now s₅ h₅ hs₅ => ?_
  refine .read (.require (fun _ => ⟨.refl h₅, not_false⟩) fun hunused => ?_)
  refine .orThrow (fun _ => ⟨.refl h₅, not_false⟩) fun cycleID hopen => ?_
  have hdrawn := (Network.Updates.refl s₅).tail .drawn
  refine Network.nextID_guarantees (.pure (.of_updates h₅ hdrawn ⟨rfl, rfl⟩) ?_)
  have hdebtor₅ := (hs₅ h₄).retains.party ((hs₄ h₃).retains.party hdebtor)
  have hcreditor₅ := (hs₅ h₄).retains.party hcreditor
  have hcycle₅ := h₅.refers.openCycle _ cycleID hopen
  have hfresh : s₅.payments.lookup ⟨ident "pay" (s₅.idCounter + 1)⟩ = none :=
    h₅.ids.payments.keys.fresh (fun _ _ => PaymentID.mk.inj) (Nat.lt_succ_self _)
  have h₆ := hdrawn.sound h₅
  have hr₆ := hdrawn.retains h₅
  obtain ⟨b₀, a₀, hparty⟩ := hdebtor₅
  have hi₆ := hr₆.participants.mem (Finmap.mem_of_lookup_eq_some hparty.bank)
  refine safe_validate_bind h₆ fun s₇ h₇ hs₇ => ?_
  have hi₇ := (hs₇ h₆).retains.participants.mem hi₆
  refine safe_participant_bind h₇ (fun hnot => absurd hi₇ hnot) fun s₈ b h₈ hs₈ hb => ?_
  have hi₈ := (hs₈ h₇).retains.participants.mem hi₇
  refine safe_glAccount_bind h₈ hi₈ fun s₉ gl h₉ hs₉ hgl => ?_
  have hi₉ := (hs₉ h₈).retains.participants.mem hi₈
  refine safe_onLedger_bind h₉ hi₉ (.postTransaction _) (fun _ => rfl)
    (Ledger.declared_transfer _ _ _) fun t₁ tx ht₁ hst₁ hreturned => ?_
  obtain ⟨_, b', book, hpost, hb'⟩ := hreturned
  refine safe_record ht₁ List.mem_cons_self hM.stable fun _ t ht hst => ?_
  -- the records are those from which the number was drawn
  have hkept := htrans hs₇ (htrans hs₈ (htrans hs₉ (htrans hst₁ hst))) h₆
  have hrecords := hkept.records ⟨.write, List.mem_cons_self⟩
  have hr := hr₆.trans hkept.retains
  refine .bind (Network.transition_guarantees (.refl ht) _ .accepted) ?_
  rintro p t - ⟨hterms, rfl⟩
  have hid : p.id = ⟨ident "pay" (s₅.idCounter + 1)⟩ := by rw [hterms]; rfl
  have hrefers : t.PaymentRefers p := by
    obtain ⟨b₈, a₈, hparty₈, -⟩ := (hr₆.trans (htrans hs₇ hs₈ h₆).retains).same_party hparty
    cases hb.symm.trans hparty₈.bank
    have hleg : t₁.LegPosted p := by
      rw [hterms]
      exact legPosted_of_post hparty₈ (hs₉ h₈).retains hgl (hst₁ h₉).retains hpost rfl hb' rfl
    refine ⟨?_, ?_, ?_, hleg.mono (hst ht₁).retains⟩ <;> rw [hterms]
    · exact hr.party ⟨b₀, a₀, hparty⟩
    · exact hr.party hcreditor₅
    · exact hr.cycles.mem hcycle₅
  refine .read (.orThrow (fun hnone => ?_) fun cycle hcycle => ?_)
  · exact absurd hrefers.cycle (Finmap.lookup_eq_none.mp hnone)
  have hfresh' : t.payments.lookup p.id = none := by
    rw [hrecords, hid]
    exact hfresh
  have hunused' : req.endToEndID = "" ∨ t.endToEndIndex.lookup req.endToEndID = none := by
    rw [hrecords]
    exact hunused
  have hafter := recorded_payment ht hid (by rw [hrecords]) hfresh' hrefers hcycle hunused'
  exact .of_ok rfl hafter (hM.filed hafter.sound (Finmap.lookup_insert _))

theorem safe_rejectPayment (h : s.Sound) {M : Payment Amount → Network Amount → Prop}
    (hM : Files Network.payments M) (id : PaymentID) (reason : String) :
    SafeIn held (rejectPayment id reason) s (Filed M) := by
  refine safe_network h hM.stable .write fun s₁ h₁ => ?_
  refine safe_read_bind h₁ fun _ s₂ h₂ _ => .read (.orThrow (fun _ => ⟨rfl, not_false⟩) ?_)
  refine fun p hp => .require (fun _ => ⟨rfl, not_false⟩) fun _ => .pure rfl ?_
  obtain ⟨d, da, hd⟩ := (h₂.refers.payments id p hp).debtor
  have hi := Finmap.mem_of_lookup_eq_some hd.bank
  have hreversed : SafeIn ((Lock.network, Mode.write) :: held) (reverseDebtorLeg p reason) s₂
      Any := by
    rw [reverseDebtorLeg]
    split
    · exact safe_pure _
    · exact safe_onLedger_bind h₂ hi (.reverseTransaction _ _) (fun _ => rfl) trivial
        fun _ _ _ _ _ => safe_pure _
  refine safe_bind h₂ hreversed fun _ s₃ h₃ hr₃ => ?_
  refine safe_record h₃ List.mem_cons_self hM.stable fun _ s₄ h₄ hs₄ => ?_
  have hu := Network.removeFromCycle_updates h₄ p
  have hbooks := s₄.books_removeFromCycle p
  refine .write (.bind (Network.transition_guarantees (.of_updates h₄ hu hbooks) p .rejected) ?_)
  rintro q t - ⟨rfl, rfl⟩
  have hr := (hr₃.trans (hs₄ h₃).retains).trans (hu.retains h₄)
  obtain ⟨p', hp', hterms⟩ := hr.payments id p hp
  have hsame : p.SameTerms { p with status := .rejected, rejectReason := reason } := rfl
  have hafter := Recorded.of_updates h₄ (hu.tail (.payment hp' _ (hterms.symm.trans hsame)))
    hbooks
  exact .of_ok rfl hafter (hM.filed hafter.sound (Finmap.lookup_insert _))

theorem safe_returnPayment (h : s.Sound) {M : Payment Amount → Network Amount → Prop}
    (hM : Files Network.payments M) (id : PaymentID) (reason : String) :
    SafeIn held (returnPayment id reason) s (Filed M) := by
  refine safe_network h hM.stable .write fun s₁ h₁ => ?_
  refine safe_read_bind h₁ fun _ s₂ h₂ _ => .read (.orThrow (fun _ => ⟨rfl, not_false⟩) ?_)
  refine fun p hp => .require (fun _ => ⟨rfl, not_false⟩) fun _ => ?_
  refine .require (fun _ => ⟨rfl, not_false⟩) fun _ => .pure rfl ?_
  obtain ⟨⟨d, da, hd⟩, ⟨c, ca, hc⟩, -⟩ := h₂.refers.payments id p hp
  -- both banks of the payment are there to stay
  have hid : ∀ {t : Network Amount}, s₂.Retains t → p.debtor.participant ∈ t.participants :=
    fun hr => hr.participants.mem (Finmap.mem_of_lookup_eq_some hd.bank)
  have hic : ∀ {t : Network Amount}, s₂.Retains t → p.creditor.participant ∈ t.participants :=
    fun hr => hr.participants.mem (Finmap.mem_of_lookup_eq_some hc.bank)
  have hr₂ := Network.Retains.refl s₂
  refine safe_participant_bind h₂ (fun hnot => absurd (hid hr₂) hnot) fun s₃ b h₃ hs₃ _ => ?_
  have hr₃ := hr₂.trans (hs₃ h₂).retains
  refine safe_participant_bind h₃ (fun hnot => absurd (hic hr₃) hnot) fun s₄ b' h₄ hs₄ _ => ?_
  have hr₄ := hr₃.trans (hs₄ h₃).retains
  refine safe_glAccount_bind h₄ (hid hr₄) fun s₅ gl h₅ hs₅ _ => ?_
  have hr₅ := hr₄.trans (hs₅ h₄).retains
  refine safe_glAccount_bind h₅ (hic hr₅) fun s₆ gl' h₆ hs₆ _ => ?_
  have hr₆ := hr₅.trans (hs₆ h₅).retains
  refine safe_onLedger_bind h₆ (hid hr₆) (.postTransaction _) (fun _ => rfl)
    (Ledger.declared_transfer _ _ _) fun s₇ _ h₇ hs₇ _ => ?_
  have hr₇ := hr₆.trans (hs₇ h₆).retains
  refine safe_onLedger_bind h₇ (hic hr₇) (.postTransaction _) (fun _ => rfl)
    (Ledger.declared_transfer _ _ _) fun s₈ _ h₈ hs₈ _ => ?_
  have hr₈ := hr₇.trans (hs₈ h₇).retains
  refine safe_onCentralBank_bind h₈ (.postTransaction _) (fun _ => rfl)
    (Ledger.declared_transfer _ _ _) fun s₉ _ h₉ hs₉ _ => ?_
  have hr₉ := hr₈.trans (hs₉ h₈).retains
  refine safe_record h₉ List.mem_cons_self hM.stable fun _ t ht hst => ?_
  refine .bind (Network.transition_guarantees (.refl ht) p .returned) ?_
  rintro q t - ⟨rfl, rfl⟩
  obtain ⟨p', hp', hterms⟩ := (hr₉.trans (hst h₉).retains).payments id p hp
  have hsame : p.SameTerms { p with status := .returned, rejectReason := reason } := rfl
  have hu := (Network.Updates.refl t).tail (.payment hp' _ (hterms.symm.trans hsame))
  have hafter := Recorded.of_updates ht hu ⟨rfl, rfl⟩
  exact .of_ok rfl hafter (hM.filed hafter.sound (Finmap.lookup_insert _))

/-! ## Ledgers in which all is declared -/

namespace Declared

variable {now : Time}

theorem within : (interference Amount).Within fun s s' =>
    s.Sound → s.Declared → s'.Sound ∧ s'.Declared where
  refl _ h hs := ⟨h, hs⟩
  trans h h' hs hdeclared := h' (h hs hdeclared).1 (h hs hdeclared).2
  rely h hs hdeclared := ⟨(h hs).sound, (h hs).declared hdeclared⟩
  guar h hs hdeclared := ⟨(h hs).sound, (h hs).declared hdeclared⟩

/-- What a program keeps that others may interrupt, it keeps when it runs alone. -/
theorem alone {E : Err → Prop} {P : α → Network Amount → Prop} {p : Program Amount α}
    {x : Call (Network Amount) Err α} (h : s.Sound) (hs : s.Declared)
    (hp : Prog.Safe (interference Amount) E [] p s P) (hx : p.alone now = x) :
    (x.final s).Declared := by
  subst hx
  exact (hp.final within now h hs).2

/-- Nothing is asked of what an operation returns. -/
theorem files {K V : Type} [DecidableEq K] (entities : Network Amount → GoMap K V) :
    Files entities Any where
  stored _ _ _ _ _ := trivial
  stays _ _ _ _ _ := trivial

theorem call (h : s.Sound) (hs : s.Declared) (op : Network.Op Amount) :
    ((Network.call now op).final s).Declared := by
  have hregister : ∀ i (op : Register.Op Amount),
      ((Network.onDeposit i (Register.call now op)).final s).Declared := fun i op =>
    alone h hs (atomic_onRegister h (.of_call op fun _ => (Call.discard_self _).symm))
      (alone_onRegister now i .write fun now => Register.call now op)
  cases op <;> simp only [Network.call, Call.final_discard]
  case registerScheme sc => exact ⟨hs.banks, hs.centralBank⟩
  case openCustomerAccount i name =>
    cases hb : s.participants.lookup i with
    | none =>
      rw [Call.final, Call.get_bind, hb]
      exact hs
    | some b =>
      rw [Call.final, Call.get_bind, hb, orThrow_some_bind]
      exact hregister i (.openAccount b.customerSubledger name 0)
  case register i op => exact hregister i op
  case revokeMandate id =>
    exact alone h hs (atomic_revokeMandate id) (alone_revokeMandate now id)
  case openCycle scheme =>
    exact alone h hs (atomic_openCycleFor scheme) (alone_openCycleFor now scheme)
  case closeCycle id => exact alone h hs (atomic_closeCycle id) (alone_closeCycle now id)
  case createMandate debtor creditor limit =>
    exact alone h hs (atomic_createMandate h debtor creditor limit)
      (alone_createMandate now debtor creditor limit)
  case deposit i account amount text =>
    exact alone h hs (safe_deposit h i account amount text)
      (alone_deposit now i account amount text)
  case addParticipant name =>
    exact alone h hs (safe_addParticipant h (files _) name) (alone_addParticipant now name)
  case settleCycle order₁ order₂ id =>
    exact alone h hs (safe_settleCycle h (files _) order₁ order₂ id)
      (alone_settleCycle now order₁ order₂ id)
  case initiatePayment req =>
    exact alone h hs (safe_initiatePayment h (files _) req) (alone_initiatePayment now req)
  case rejectPayment id reason =>
    exact alone h hs (safe_rejectPayment h (files _) id reason)
      (alone_rejectPayment now id reason)
  case returnPayment id reason =>
    exact alone h hs (safe_returnPayment h (files _) id reason)
      (alone_returnPayment now id reason)

theorem anyExec (h : s.Sound) (hs : s.Declared) {step : Time × Network.AnyOp Amount}
    (hstep : step.2.Declared) : (Network.anyExec step s).Declared := by
  obtain ⟨now, op⟩ := step
  cases op with
  | client op =>
    cases op with
    | network op => exact call h hs op
    | ledger i op =>
      show (Call.state (Network.clientCall now (.ledger i op) s)).Declared
      cases hb : s.participants.lookup i with
      | none =>
        rw [Network.clientCall, Call.get_bind, hb]
        exact hs
      | some b =>
        rw [Network.clientCall, Call.get_bind, hb, orThrow_some_bind]
        exact alone h hs (atomic_onLedger (.of_call op (fun _ => (Call.discard_self _).symm) hstep))
          (alone_onLedger now i .write fun now => Book.call now op)
  | centralBank op =>
    exact alone h hs
      (atomic_onCentralBank (.of_call op (fun _ => (Call.discard_self _).symm) hstep))
      (alone_onCentralBank now .write fun now => Book.call now op)

variable (Amount) in
theorem start (start : Time) : (Network.newNetwork Amount start).Declared where
  banks i b hb := ((Network.wf_newNetwork start).banks.bank i b hb).declared
  centralBank := (Network.wf_newNetwork start).banks.cbDeclared

/-- Calls with declared arguments keep the ledgers so. -/
theorem anyReached (start : Time) {steps : List (Time × Network.AnyOp Amount)}
    (hsteps : ∀ step ∈ steps, step.2.Declared) : (Network.anyReached start steps).Declared :=
  Along.invariant_of Network.anyExec_sound (fun _ _ h hs hstep => anyExec h hs hstep)
    (Network.sound_newNetwork start) (Declared.start Amount start) (Along.of_forall hsteps _)

end Declared

end CoreBanking.Concurrent
