import CoreBanking.Base.Commute
import CoreBanking.Base.Interference
import CoreBanking.Concurrent.Network
import CoreBanking.Payment.References

/-!
# What calls on a network do to each other

Whoever holds the lock of the network keeps the others from its records, and whoever holds the
lock of a register keeps them from the accounts and holds in it. The ledgers beneath may always
change.

- `Beneath`: the calls that others make on the ledger of a locked register;
- `Kept`: what stays true from one moment to a later one, for ledgers too in which all
  directions and account types are declared (`Network.Declared`);
- `interference`: what a thread relies on and what it guarantees, by its locks. Whatever
  anybody does, the network stays sound and has what it had (`Goes`);
- `SafeIn`: a program that keeps its guarantee and does not panic, with a rule for each kind of
  section that programs are made of.
-/

namespace CoreBanking.Concurrent

open Ledger (Book)
open Deposit (Register)
open Payment
open Prog (Safe)

variable {Amount α β γ : Type}

/-! ## The ledger beneath a register -/

section Beneath

variable [AddCommGroup Amount] [LinearOrder Amount] {r r' r'' : Register Amount}

/-- The registers differ by calls on the ledger. These name declared directions and types. -/
def Beneath (r r' : Register Amount) : Prop :=
  ∃ ops : List (Time × Book.Op Amount), (∀ step ∈ ops, step.2.Declared) ∧
    r' = r.withBook (run Book.exec r.book ops)

namespace Beneath

theorem refl (r : Register Amount) : Beneath r r :=
  ⟨[], fun _ h => absurd h List.not_mem_nil, rfl⟩

theorem trans (h : Beneath r r') (h' : Beneath r' r'') : Beneath r r'' := by
  obtain ⟨ops, hops, rfl⟩ := h
  obtain ⟨ops', hops', rfl⟩ := h'
  refine ⟨ops ++ ops', fun step hstep => ?_, ?_⟩
  · exact (List.mem_append.mp hstep).elim (hops step) (hops' step)
  · rw [run_append]
    rfl

theorem step (now : Time) {op : Book.Op Amount} (hop : op.Declared) (r : Register Amount) :
    Beneath r (r.withBook (Book.exec (now, op) r.book)) :=
  ⟨[(now, op)], fun _ h => List.mem_singleton.mp h ▸ hop, rfl⟩

/-- Such calls are steps of the register. -/
theorem run (h : Beneath r r') : ∃ steps, r' = run Register.exec r steps := by
  obtain ⟨ops, -, rfl⟩ := h
  refine ⟨ops.map fun step => (step.1, .ledger step.2), ?_⟩
  induction ops generalizing r with
  | nil => rfl
  | cons step ops ih => exact ih (r := r.withBook (Book.exec step r.book))

theorem declared (h : Beneath r r') (hwf : r.book.WF) (hr : r.book.Declared) :
    r'.book.Declared := by
  obtain ⟨ops, hops, rfl⟩ := h
  exact Book.declared_run hwf hr hops

end Beneath

/-- A bank stays sound when calls are made on its layers. -/
theorem Sound.run {b : Participant Amount} (h : b.Sound)
    (steps : List (Time × Register.Step Amount)) :
    (b.withDeposit (run Register.exec b.deposit steps)).Sound ∧
      b.deposit.Retains (run Register.exec b.deposit steps) := by
  induction steps generalizing b with
  | nil => exact ⟨h, .refl _⟩
  | cons step steps ih =>
    obtain ⟨hsound, hretains⟩ := ih (h.exec step)
    exact ⟨hsound, (h.retains_exec step).deposit.trans hretains⟩

theorem Sound.beneath {b : Participant Amount} (h : b.Sound) {r : Register Amount}
    (hr : Beneath b.deposit r) : (b.withDeposit r).Sound ∧ b.deposit.Retains r := by
  obtain ⟨steps, rfl⟩ := hr.run
  exact Sound.run h steps

end Beneath

/-! ## What is kept -/

/-- The networks differ in the layers of the banks and in the central bank at most. -/
def SameRecords (s s' : Network Amount) : Prop :=
  s' = { s with participants := s'.participants, centralBank := s'.centralBank }

theorem SameRecords.refl (s : Network Amount) : SameRecords s s := rfl

theorem SameRecords.trans {s s' s'' : Network Amount} (h : SameRecords s s')
    (h' : SameRecords s' s'') : SameRecords s s'' := by
  rw [SameRecords, h', h]

section Kept

variable [AddCommGroup Amount] [LinearOrder Amount]

/-- The calls on the layers of bank `i` have been calls on its ledger. -/
def BeneathBank (i : ParticipantID) (s s' : Network Amount) : Prop :=
  ∀ b, s.participants.lookup i = some b →
    ∃ r, Beneath b.deposit r ∧ s'.participants.lookup i = some (b.withDeposit r)

theorem BeneathBank.of_lookup {i : ParticipantID} {s s' : Network Amount}
    (h : ∀ b, s.participants.lookup i = some b → s'.participants.lookup i = some b) :
    BeneathBank i s s' :=
  fun b hb => ⟨b.deposit, .refl _, h b hb⟩

theorem BeneathBank.trans {i : ParticipantID} {s s' s'' : Network Amount}
    (h : BeneathBank i s s') (h' : BeneathBank i s' s'') : BeneathBank i s s'' := by
  intro b hb
  obtain ⟨r, hr, hb'⟩ := h b hb
  obtain ⟨r', hr', hb''⟩ := h' _ hb'
  exact ⟨r', hr.trans hr', hb''⟩

/-- The network is sound and has what it had, and all in its ledgers is declared if it was.
Where `records`, its records are the same, and the banks in `registers` have seen calls on
their ledgers only. -/
structure Kept (records : Prop) (registers : ParticipantID → Prop) (s s' : Network Amount) :
    Prop where
  sound : s'.Sound
  retains : s.Retains s'
  declared : s.Declared → s'.Declared
  records : records → SameRecords s s'
  registers : ∀ i, registers i → BeneathBank i s s'

namespace Kept

variable {records records' : Prop} {registers registers' : ParticipantID → Prop}
  {s s' s'' : Network Amount}

theorem refl (h : s.Sound) : Kept records registers s s where
  sound := h
  retains := .refl s
  declared hs := hs
  records _ := .refl s
  registers _ _ := .of_lookup fun _ hb => hb

theorem trans (h : Kept records registers s s') (h' : Kept records registers s' s'') :
    Kept records registers s s'' where
  sound := h'.sound
  retains := h.retains.trans h'.retains
  declared hs := h'.declared (h.declared hs)
  records hrecords := (h.records hrecords).trans (h'.records hrecords)
  registers i hi := (h.registers i hi).trans (h'.registers i hi)

theorem mono (h : Kept records registers s s') (hrecords : records' → records)
    (hregisters : ∀ i, registers' i → registers i) : Kept records' registers' s s' where
  sound := h.sound
  retains := h.retains
  declared := h.declared
  records hr := h.records (hrecords hr)
  registers i hi := h.registers i (hregisters i hi)

end Kept

/-- What a thread relies on: what its locks, in whatever mode, keep others from. -/
def Relies (held : List (Lock × Mode)) (s s' : Network Amount) : Prop :=
  s.Sound → Kept (∃ m, (Lock.network, m) ∈ held) (fun i => ∃ m, (Lock.register i, m) ∈ held) s s'

/-- What a thread guarantees: it writes to what it has locked in order to write. -/
def Grants (held : List (Lock × Mode)) (s s' : Network Amount) : Prop :=
  s.Sound → Kept ((Lock.network, Mode.write) ∉ held)
    (fun i => (Lock.register i, Mode.write) ∉ held) s s'

variable (Amount) in
/-- The interference of calls on a network. -/
def interference : Interference Lock (Network Amount) where
  Rely := Relies
  Guar := Grants
  rely_refl _ _ h := .refl h
  rely_trans h h' hs := (h hs).trans (h' (h hs).sound)
  rely_of_cons h hs := (h hs).mono (fun ⟨m, hm⟩ => ⟨m, List.mem_cons_of_mem _ hm⟩)
    fun _ ⟨m, hm⟩ => ⟨m, List.mem_cons_of_mem _ hm⟩
  guar_refl _ _ h := .refl h
  compatible {held held' _ _} hcompat h hs := by
    -- a lock that one holds the other does not hold to write
    have hexcluded : ∀ l m, (l, m) ∈ held' → (l, Mode.write) ∉ held := by
      intro l m hm hwrite
      cases (hcompat _ hwrite _ hm rfl).1
    exact (h hs).mono (fun ⟨m, hm⟩ => hexcluded _ m hm) fun _ ⟨m, hm⟩ => hexcluded _ m hm

/-- From a sound network another one has come, which has what it had. -/
def Goes (s s' : Network Amount) : Prop := s.Sound → s'.Sound ∧ s.Retains s'

theorem Goes.trans {s s' s'' : Network Amount} (h : Goes s s') (h' : Goes s' s'') :
    Goes s s'' := fun hs =>
  have hs' := h hs
  ⟨(h' hs'.1).1, hs'.2.trans (h' hs'.1).2⟩

theorem within_goes : (interference Amount).Within Goes where
  refl s h := ⟨h, .refl s⟩
  trans := Goes.trans
  rely h hs := ⟨(h hs).sound, (h hs).retains⟩
  guar h hs := ⟨(h hs).sound, (h hs).retains⟩

end Kept

/-! ## Single steps -/

section Steps

variable [AddCommGroup Amount] [LinearOrder Amount] {held : List (Lock × Mode)}
  {s s' : Network Amount} {i : ParticipantID} {b : Participant Amount} {now : Time}

/-- A bank has gone on by itself. -/
theorem kept_setParticipant (h : s.Sound) (hb : s.participants.lookup i = some b)
    {r : Register Amount} (hsound : (b.withDeposit r).Sound) (hretains : b.deposit.Retains r)
    (hdeclared : b.ledger.Declared → r.book.Declared) :
    Kept True (fun j => j ≠ i ∨ Beneath b.deposit r) s (s.setParticipant i (b.withDeposit r)) := by
  have hsame := Network.Retains.refl s
  have hbank : b.Retains (b.withDeposit r) := ⟨rfl, hretains⟩
  have hr : s.Retains (s.setParticipant i (b.withDeposit r)) :=
    { hsame with participants := .update Participant.Retains.refl hb hbank }
  have hold := h.refers.mono hr
  refine ⟨?_, hr, fun hs => ⟨?_, hs.centralBank⟩, fun _ => rfl, ?_⟩
  · exact
      { ids :=
          { h.ids with participants := h.ids.participants.update hb rfl }
        banks := Finmap.forall_lookup_insert h.banks hsound
        centralBank := h.centralBank
        refers := { hold with
          settlementAccount := Finmap.forall_lookup_insert hold.settlementAccount
            (hold.settlementAccount i b hb) } }
  · exact Finmap.forall_lookup_insert hs.banks (hdeclared (hs.banks i b hb))
  · intro j hj c hc
    by_cases hne : j = i
    · subst hne
      cases hb.symm.trans hc
      exact ⟨r, hj.resolve_left (· rfl), Finmap.lookup_insert _⟩
    · exact ⟨c.deposit, .refl _, (Finmap.lookup_insert_of_ne _ hne).trans hc⟩

/-- What everybody may do at any time. -/
abbrev Harmless (s s' : Network Amount) : Prop := Kept True (fun _ => True) s s'

theorem Harmless.grants (h : Harmless s s') : Grants held s s' :=
  fun _ => h.mono (fun _ => trivial) fun _ _ => trivial

theorem Harmless.relies (h : Harmless s s') : Relies held s s' :=
  fun _ => h.mono (fun _ => trivial) fun _ _ => trivial

theorem beneath_harmless (h : s.Sound) (hb : s.participants.lookup i = some b)
    {r : Register Amount} (hr : Beneath b.deposit r) :
    Harmless s (s.setParticipant i (b.withDeposit r)) := by
  have hbank := h.banks i b hb
  obtain ⟨hsound, hretains⟩ := Sound.beneath hbank hr
  have hdeclared := hr.declared hbank.chart.ledger
  exact (kept_setParticipant h hb hsound hretains hdeclared).mono (fun _ => trivial)
    fun _ _ => .inr hr

/-- A call on a ledger is harmless. -/
theorem onLedger_harmless (h : s.Sound) (hi : i ∈ s.participants)
    {x : Call (Book Amount) Ledger.Err α} (op : Book.Op Amount)
    (hx : Book.call now op = x.discard) (hop : op.Declared) :
    Call.Guarantees (Harmless s) (fun e => ¬e.Panics) (Network.onLedger i x) s
      fun a s' => Harmless s s' ∧ ∃ (b : Participant Amount) (book : Book Amount),
        x b.ledger = .ok a book ∧ s'.participants.lookup i = some (b.withLedger book) := by
  refine .read (.orThrow (fun hnone => ?_) fun b hb => ?_)
  · exact absurd hi (Finmap.lookup_eq_none.mp hnone)
  have hzoom : Call.Guarantees (Harmless s) (fun e => ¬Err.Panics e)
      (Call.zoom (fun _ => b.ledger)
        (fun book s => s.setParticipant i (b.withLedger book)) .ledger x) s
      fun a s' => ∃ book, book = Book.exec (now, op) b.ledger ∧ x b.ledger = .ok a book ∧
        s' = s.setParticipant i (b.withLedger book) := by
    refine .zoom (Book.call_guarantees op hx b.ledger) ?_ fun e he => he
    rintro book rfl
    exact beneath_harmless h hb (.step now hop b.deposit)
  refine hzoom.mono (fun _ hk => hk) ?_
  rintro a s' hk ⟨book, -, ha, rfl⟩
  exact ⟨hk, b, book, ha, Finmap.lookup_insert _⟩

theorem centralBank_harmless {step : Time × Book.Op Amount} (hstep : step.2.Declared)
    (h : s.Sound) : Harmless s (s.setCentralBank (Book.exec step s.centralBank)) := by
  have hupdate := Network.Update.centralBank (s := s) step
  refine ⟨hupdate.sound h, hupdate.retains h, fun hs => ⟨hs.banks, ?_⟩, fun _ => rfl,
    fun _ _ => .of_lookup fun _ hb => hb⟩
  exact (Book.exec_change step.1 step.2 s.centralBank).declared h.centralBank_wf hs.centralBank
    hstep

@[inherit_doc onLedger_harmless]
theorem onCentralBank_harmless (h : s.Sound) {x : Call (Book Amount) Ledger.Err α}
    (op : Book.Op Amount) (hx : Book.call now op = x.discard) (hop : op.Declared) :
    Call.Guarantees (Harmless s) (fun e => ¬e.Panics) (Network.onCentralBank x) s
      fun a s' => Harmless s s' ∧ x s.centralBank = .ok a s'.centralBank := by
  have hzoom : Call.Guarantees (Harmless s) (fun e => ¬Err.Panics e)
      (Network.onCentralBank x) s fun a s' => ∃ book,
        book = Book.exec (now, op) s.centralBank ∧ x s.centralBank = .ok a book ∧
          s' = s.setCentralBank book := by
    refine .zoom (Book.call_guarantees op hx s.centralBank) ?_ fun e he => he
    rintro book rfl
    exact centralBank_harmless hop h
  refine hzoom.mono (fun _ hk => hk) ?_
  rintro a s' hk ⟨book, -, hok, rfl⟩
  exact ⟨hk, hok⟩

/-- The records may change under the lock of the network. -/
theorem grants_recorded (hheld : (Lock.network, Mode.write) ∈ held)
    (hs : s.Sound → s'.Sound ∧ s.Retains s')
    (hdeclared : s.Declared → s'.Declared)
    (hbanks : ∀ i b, s.participants.lookup i = some b → s'.participants.lookup i = some b) :
    Grants held s s' := by
  intro h
  obtain ⟨hsound, hretains⟩ := hs h
  exact ⟨hsound, hretains, hdeclared, fun hnot => absurd hheld hnot,
    fun i _ => .of_lookup (hbanks i)⟩

end Steps

/-! ## Programs -/

section Programs

variable [AddCommGroup Amount] [LinearOrder Amount] {held : List (Lock × Mode)}
  {s : Network Amount} {i : ParticipantID} {f : α → Program Amount β}
  {Q : β → Network Amount → Prop}

/-- From `s`, holding `held`, the program keeps its guarantee, and does not panic. -/
abbrev SafeIn (held : List (Lock × Mode)) (p : Program Amount α) (s : Network Amount)
    (P : α → Network Amount → Prop) : Prop :=
  Prog.Safe (interference Amount) (fun e => ¬e.Panics) held p s P

/-- Nothing is said about the result. -/
def Any {α σ : Type} : α → σ → Prop := fun _ _ => True

theorem stable_any (held : List (Lock × Mode)) :
    Prog.Stable (interference Amount) held (Any : α → Network Amount → Prop) :=
  Prog.stable_true _ held

theorem safe_pure (a : α) : SafeIn held (pure a : Program Amount α) s Any :=
  .pure trivial (stable_any held)

/-- A program leaves a sound network, which has what the earlier one had. -/
theorem SafeIn.since {p : Program Amount α} {P : α → Network Amount → Prop} (h : s.Sound)
    (hp : SafeIn held p s P) :
    SafeIn held p s fun a s' => P a s' ∧ s'.Sound ∧ s.Retains s' :=
  (Prog.SafeFrom.since within_goes hp).mono (fun _ _ ha => ⟨ha.1, ha.2 h⟩) fun _ he => he

theorem safe_bind {p : Program Amount α} (h : s.Sound) (hp : SafeIn held p s Any)
    (hf : ∀ a s', s'.Sound → s.Retains s' → SafeIn held (f a) s' Q) :
    SafeIn held (p >>= f) s Q :=
  .bind ((hp.since h).mono (fun a s' ha => hf a s' ha.2.1 ha.2.2) fun _ he => he)

theorem safe_forM {κ : Type} {f : κ → Program Amount PUnit} {ks : List κ} (h : s.Sound)
    (hf : ∀ k ∈ ks, ∀ s', s'.Sound → s.Retains s' → SafeIn held (f k) s' Any) :
    SafeIn held (ks.forM f) s Any := by
  refine Prog.SafeFrom.mono (.forM (I := fun s' => s'.Sound ∧ s.Retains s') ?_ ⟨h, .refl s⟩
    fun k hk s' hI => ?_) (fun _ _ _ => trivial) fun _ he => he
  · exact fun _ t t' ht hs => ⟨(hs ht.1).sound, ht.2.trans (hs ht.1).retains⟩
  · exact ((hf k hk s' hI.1 hI.2).since hI.1).mono (fun _ t ht => ⟨ht.2.1, hI.2.trans ht.2.2⟩)
      fun _ he => he

/-- A step that only reads, and what comes after it. -/
theorem safe_read_bind {E : Err → Prop} {x : Time → Call (Network Amount) Err α} (h : s.Sound)
    (hx : ∀ now s', s'.Sound → Relies held s s' →
      Call.Guarantees (· = s') E (x now) s'
        fun a _ => Prog.Safe (interference Amount) E held (f a) s' Q) :
    Prog.Safe (interference Amount) E held (.critical x >>= f) s Q := by
  refine .critical_bind fun now s' hs => (hx now s' (hs h).sound hs).mono ?_ ?_
  · rintro _ rfl
    exact (interference Amount).guar_refl held _
  · rintro a _ rfl hf
    exact hf

theorem safe_reading_bind {g : Network Amount → Except Err α} (h : s.Sound)
    (herror : ∀ s' e, s'.Sound → Relies held s s' → g s' = .error e → ¬e.Panics)
    (hok : ∀ s' a, s'.Sound → Relies held s s' → g s' = .ok a → SafeIn held (f a) s' Q) :
    SafeIn held (reading g >>= f) s Q :=
  safe_read_bind h fun _ s' h' hs =>
    .reading rfl (fun e he => herror s' e h' hs he) fun a ha => hok s' a h' hs ha

theorem safe_participant_bind {missing : Err} {f : Participant Amount → Program Amount β}
    (h : s.Sound) (hmissing : i ∉ s.participants → ¬missing.Panics)
    (hf : ∀ s' b, s'.Sound → Relies held s s' → s'.participants.lookup i = some b →
      SafeIn held (f b) s' Q) : SafeIn held (participant i missing >>= f) s Q := by
  refine safe_read_bind h fun _ s' h' hs => .read (.lookup rfl (fun hnone => ?_) fun b hb => ?_)
  · exact hmissing fun hi => absurd ((hs h).retains.participants.mem hi)
      (Finmap.lookup_eq_none.mp hnone)
  · exact hf s' b h' hs hb

/-- A look at the register of a bank. -/
theorem safe_lookAt_bind {g : Network Amount → Except Err α} (h : s.Sound)
    (herror : ∀ s' e, s'.Sound → Relies held s s' → g s' = .error e → ¬e.Panics)
    (hok : ∀ s' a, s'.Sound → Relies held s s' → g s' = .ok a → SafeIn held (f a) s' Q) :
    SafeIn held (lookAt i g >>= f) s Q := by
  refine .locked_bind fun _ s' hs => ?_
  have h' := (hs h).sound
  exact .reading ((interference Amount).guar_refl _ s') (fun e he => herror s' e h' hs he)
    fun a ha => hok s' a h' hs ha

/-- The party is there when the check has passed. -/
theorem safe_checkParty_bind {ref : PartyRef} {f : Unit → Program Amount β} (h : s.Sound)
    (hf : ∀ s', s'.Sound → Relies held s s' → (∃ b a, s'.Party ref b a) →
      SafeIn held (f ()) s' Q) : SafeIn held (checkParty ref >>= f) s Q := by
  rw [checkParty, bind_assoc]
  refine safe_participant_bind h (fun _ => not_false) fun s₁ _ h₁ hs₁ _ => ?_
  refine safe_lookAt_bind h₁ (fun _ _ _ _ he => Network.checkParty_not_panics he) ?_
  rintro s₂ ⟨⟩ h₂ hs₂ hparty
  exact hf s₂ h₂ ((interference Amount).rely_trans hs₁ hs₂) (Network.checkParty_ok hparty)

/-- The ledger account behind a customer's account. -/
theorem safe_glAccount_bind {id : Deposit.AccountID} {f : Ledger.AccountID → Program Amount β}
    (h : s.Sound) (hi : i ∈ s.participants)
    (hf : ∀ s' gl, s'.Sound → Relies held s s' →
      (∀ b, s'.participants.lookup i = some b → b.glAccount id = .ok gl) →
        SafeIn held (f gl) s' Q) :
    SafeIn held (glAccount i id >>= f) s Q := by
  refine safe_lookAt_bind h (fun s' e h' hs he => ?_) fun s' gl h' hs hgl => ?_
  · obtain ⟨b, hb⟩ := Finmap.mem_iff.mp ((hs h).retains.participants.mem hi)
    rw [customerGL_of_lookup hb] at he
    exact Participant.glAccount_not_panics he
  · refine hf s' gl h' hs fun b hb => ?_
    rwa [customerGL_of_lookup hb] at hgl

/-- A call on the ledger of a bank that is there, which has returned its result. -/
theorem safe_onLedger_bind {m : Mode} {x : Time → Call (Book Amount) Ledger.Err α}
    (h : s.Sound) (hi : i ∈ s.participants) (op : Book.Op Amount)
    (hx : ∀ now, Book.call now op = (x now).discard) (hop : op.Declared)
    (hf : ∀ s' a, s'.Sound → Relies held s s' →
      (∃ (now : Time) (b : Participant Amount) (book : Book Amount),
        x now b.ledger = .ok a book ∧ s'.participants.lookup i = some (b.withLedger book)) →
          SafeIn held (f a) s' Q) :
    SafeIn held (onLedger i m x >>= f) s Q := by
  refine .locked_bind fun now s' hs => ?_
  have hi' := (hs h).retains.participants.mem hi
  refine (onLedger_harmless (hs h).sound hi' op (hx now) hop).mono (fun _ hk => hk.grants) ?_
  rintro a s'' - ⟨hk, hreturned⟩
  exact hf s'' a hk.sound ((interference Amount).rely_trans hs hk.relies) ⟨now, hreturned⟩

/-- A call on the central-bank ledger, which has returned its result. -/
theorem safe_onCentralBank_bind {m : Mode} {x : Time → Call (Book Amount) Ledger.Err α}
    (h : s.Sound) (op : Book.Op Amount) (hx : ∀ now, Book.call now op = (x now).discard)
    (hop : op.Declared) (hf : ∀ s' a, s'.Sound → Relies held s s' →
      (∃ now book, x now book = .ok a s'.centralBank) → SafeIn held (f a) s' Q) :
    SafeIn held (onCentralBank m x >>= f) s Q := by
  refine .locked_bind fun now s' hs => ?_
  refine (onCentralBank_harmless (hs h).sound op (hx now) hop).mono (fun _ hk => hk.grants) ?_
  rintro a s'' - ⟨hk, hok⟩
  exact hf s'' a hk.sound ((interference Amount).rely_trans hs hk.relies) ⟨now, _, hok⟩

end Programs

end CoreBanking.Concurrent
