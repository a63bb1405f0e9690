import CoreBanking.Concurrent.Atomic

/-!
# Registers under interference

Between the sections of a call on a register, clients post on the ledger beneath. The register
itself is locked, so the call takes effect in one step, at its access to the ledger: there it
finds what its checks have found before, and what it does afterwards does not depend on the
ledger any more.

- `Sections.Lawful`: what this needs of the sections;
- `Sections.atomic_program`: then the call ends as the operation of the register would have
  ended alone at that moment, and what it leaves stays;
- the operations that access the ledger are lawful (`lawful_*`).
-/

namespace CoreBanking.Concurrent

open Ledger (Book)
open Deposit (Register)
open Payment

variable {Amount α β γ : Type} [AddCommGroup Amount] [LinearOrder Amount]
  {held : List (Lock × Mode)} {s s' : Network Amount} {i : ParticipantID}

/-- What a bank may become by a call on its register. A reader changes nothing. -/
structure Reaches (m : Mode) (b : Participant Amount) (r : Register Amount) : Prop where
  sound : (b.withDeposit r).Sound
  retains : b.deposit.Retains r
  declared : b.ledger.Declared → r.book.Declared
  reader : m = .read → r = b.deposit

/-- The operation `x` of a register keeps the bank sound, and does not panic. -/
def Keeps (m : Mode) (x : Time → Call (Register Amount) Deposit.Err α) : Prop :=
  ∀ now (b : Participant Amount), b.Sound →
    Call.Guarantees (Reaches m b) (fun e => ¬e.Panics) (x now) b.deposit Any

theorem Keeps.of_call {x : Time → Call (Register Amount) Deposit.Err α} (op : Register.Op Amount)
    (hx : ∀ now, Register.call now op = (x now).discard) : Keeps .write x := by
  intro now b hb
  refine (hb.linked.call_guarantees op (hx now)).mono ?_ fun _ _ _ _ => trivial
  rintro r rfl
  have hstep := hb.exec (now, .register op)
  refine ⟨hstep, (hb.retains_exec (now, .register op)).deposit, fun hdeclared => ?_,
    fun hm => by cases hm⟩
  rcases Register.exec_register now op b.deposit with heq | ht
  · rw [heq]
    exact hdeclared
  · exact ht.change.declared hb.chart.deposit hdeclared

theorem Keeps.of_reading {f : Time → Register Amount → Except Deposit.Err α}
    (hf : ∀ now r e, Register.Linked r → f now r = .error e → ¬e.Panics) (m : Mode) :
    Keeps m fun now => .reading (f now) :=
  fun now _ hb => .reading ⟨hb, .refl _, fun h => h, fun _ => rfl⟩
    (fun e he => hf now _ e hb.linked he) fun _ _ => trivial

/-- A call on the register of a bank does not panic. -/
theorem Keeps.not_panics {m : Mode} {x : Time → Call (Register Amount) Deposit.Err α}
    (hx : Keeps m x) (h : s.Sound) {now : Time} {e : Err}
    (he : Network.onDeposit i (x now) s = .error e s') : ¬e.Panics := by
  cases hb : s.participants.lookup i with
  | none =>
    rw [onDeposit_missing hb] at he
    cases he
    exact not_false
  | some b =>
    cases hr : x now b.deposit with
    | ok a r =>
      rw [Network.onDeposit_of_ok hb hr] at he
      cases he
    | error e' r =>
      rw [onDeposit_error hb hr] at he
      cases he
      exact ((hx now b (h.banks i b hb)).error hr).2

/-! ## Calls that leave the ledger alone -/

/-- The bank of a call on a register has gone on. -/
theorem Reaches.grants {m : Mode} {b : Participant Amount} {r : Register Amount}
    (h : Reaches m b r) (hb : s.participants.lookup i = some b)
    (hheld : (Lock.register i, m) ∈ held) :
    Grants held s (s.setParticipant i (b.withDeposit r)) := by
  intro hs
  refine (kept_setParticipant hs hb h.sound h.retains h.declared).mono (fun _ => trivial)
    fun j hj => ?_
  by_cases hne : j = i
  · subst hne
    cases m with
    | write => exact absurd hheld hj
    | read =>
      rw [h.reader rfl]
      exact .inr (.refl _)
  · exact .inl hne

/-- The bank is what the operation makes of it, and the others have made of its ledger. -/
theorem Reaches.beneath {m : Mode} {b : Participant Amount} {r t : Register Amount}
    (h : Reaches m b t) (haccess : Beneath b.deposit r) {book : Book Amount}
    (hlast : Beneath t (t.withBook book)) :
    Reaches m (b.withDeposit (r.withBook book)) (t.withBook book) where
  sound := (Sound.beneath h.sound hlast).1
  retains := by
    obtain ⟨ops, -, rfl⟩ := haccess
    exact { h.retains with book := .refl book }
  declared hbook := hbook
  reader hm := by
    obtain ⟨ops, -, rfl⟩ := haccess
    rw [h.reader hm]
    rfl

/-- A call on the register of a bank, in the network. -/
theorem onDeposit_guarantees {m : Mode} {x : Call (Register Amount) Deposit.Err α}
    {b : Participant Amount} {E : Deposit.Err → Prop} {P : α → Register Amount → Prop}
    {E' : Err → Prop} {P' : α → Network Amount → Prop}
    (hb : s.participants.lookup i = some b) (hheld : (Lock.register i, m) ∈ held)
    (hx : Call.Guarantees (Reaches m b) E x b.deposit P) (hE : ∀ e, E e → E' (.deposit e))
    (hP : ∀ a r, Grants held s (s.setParticipant i (b.withDeposit r)) → P a r →
      P' a (s.setParticipant i (b.withDeposit r))) :
    Call.Guarantees (Grants held s) E' (Network.onDeposit i x) s P' := by
  cases hr : x b.deposit with
  | ok a r =>
    obtain ⟨hreach, ha⟩ := hx.ok hr
    have hgrants : Grants held s _ := hreach.grants hb hheld
    exact .of_ok (Network.onDeposit_of_ok hb hr) hgrants (hP a r hgrants ha)
  | error e r =>
    obtain ⟨hreach, he⟩ := hx.error hr
    exact .of_error (onDeposit_error hb hr) (hreach.grants hb hheld) (hE e he)

theorem atomic_onRegister (h : s.Sound) {m : Mode}
    {x : Time → Call (Register Amount) Deposit.Err α} (hx : Keeps m x) :
    AtomicIn held (onRegister i m x) (fun now => Network.onDeposit i (x now)) s := by
  refine .locked within_goes fun now s' hs => ?_
  cases hb : s'.participants.lookup i with
  | none =>
    rw [Call.final_of_error (onDeposit_missing hb _)]
    exact (interference Amount).guar_refl _ s'
  | some b =>
    have hbank := (hs h).sound.banks i b hb
    have hguar : Call.Guarantees (Grants ((.register i, m) :: held) s') (fun _ => True)
        (Network.onDeposit i (x now)) s' Any :=
      onDeposit_guarantees hb List.mem_cons_self (hx now b hbank) (fun _ _ => trivial)
        fun _ _ _ _ => trivial
    exact hguar.final

/-! ## Calls in sections -/

omit [AddCommGroup Amount] [LinearOrder Amount] in
/-- A bank has gone on, in a network that has gone on. -/
theorem retains_setParticipant {p p' : Participant Amount} (hs : s.Retains s')
    (hp : p.Retains p') : (s.setParticipant i p).Retains (s'.setParticipant i p') := by
  refine { hs with participants := fun j b hb => ?_ }
  rcases Finmap.lookup_insert_eq_some.mp hb with ⟨rfl, rfl⟩ | ⟨hne, hold⟩
  · exact ⟨p', Finmap.lookup_insert _, hp⟩
  · obtain ⟨b', hb', hkept⟩ := hs.participants j b hold
    exact ⟨b', (Finmap.lookup_insert_of_ne _ hne).trans hb', hkept⟩

namespace Sections

/-- The checks do not see the ledger and change nothing, the access writes to the ledger at
most, and what comes after it does not see the ledger. -/
structure Lawful (x : Sections Amount γ β α) : Prop where
  reads : x.check.ReadsOnly
  check : ∀ b, Call.Commutes (fun r => r.withBook b) x.check
  access : ∀ now c r, Beneath r ((x.access now c).final r)
  finish : ∀ now c d b, Call.Commutes (fun r => r.withBook b) (x.finish now c d)

variable {x : Sections Amount γ β α} {now : Time} {r r' : Register Amount} {c : γ} {d : β}
  {m m' : Mode} {b b' : Participant Amount}

/-- What comes after the access does not depend on what has happened to the ledger since. -/
theorem Lawful.finish_beneath (hx : x.Lawful) (now : Time) (c : γ) (d : β)
    (hbeneath : Beneath r r') : ∃ book, r' = r.withBook book ∧
      x.finish now c d r' = Call.mapState (fun t => t.withBook book) (x.finish now c d r) ∧
      Beneath ((x.finish now c d).final r) (((x.finish now c d).final r).withBook book) := by
  obtain ⟨ops, hops, rfl⟩ := hbeneath
  refine ⟨_, rfl, hx.finish now c d _ r, ops, hops, ?_⟩
  -- the ledger is still the one that the access has left
  have hsame : ((x.finish now c d).final r).book = r.book := by
    have hfinal : (x.finish now c d).final r = ((x.finish now c d).final r).withBook r.book :=
      (hx.finish now c d r.book).final r
    rw [hfinal]
    rfl
  rw [hsame]

/-- The last section, at some moment after the access, ends as the operation has. -/
theorem Lawful.finish_reaches (hx : x.Lawful) (hb : b.Sound) (hkeeps : Keeps m x.run)
    (hrun : x.run now b.deposit = x.finish now c d r) (haccess : Beneath b.deposit r)
    (hbeneath : Beneath r r') :
    Call.Guarantees (Reaches m (b.withDeposit r'))
      (fun e => ∃ t, x.run now b.deposit = .error e t) (x.finish now c d) r'
      fun a t' => ∃ t, x.run now b.deposit = .ok a t ∧ Reaches m b t ∧ Beneath t t' := by
  obtain ⟨book, rfl, hfinish, hlast⟩ := hx.finish_beneath now c d hbeneath
  have hrun' := hkeeps now b hb
  cases hf : x.finish now c d r with
  | ok a t =>
    rw [hf] at hrun hfinish
    rw [Call.final_of_ok hf] at hlast
    have hreach := (hrun'.ok hrun).1
    exact .of_ok hfinish (hreach.beneath haccess hlast) ⟨t, hrun, hreach, hlast⟩
  | error e t =>
    rw [hf] at hrun hfinish
    rw [Call.final_of_error hf] at hlast
    exact .of_error hfinish ((hrun'.error hrun).1.beneath haccess hlast) ⟨t, hrun⟩

/-- The call of the operation, in the network. -/
abbrev inNetwork (x : Sections Amount γ β α) (i : ParticipantID) :
    Time → Call (Network Amount) Err α :=
  fun now => Network.onDeposit i (x.run now)

/-- The last section, of a call whose moment was in `s`. -/
theorem atomic_finish (hx : x.Lawful) (h : s.Sound) (hb : s.participants.lookup i = some b)
    (hkeeps : Keeps m x.run) (hrun : x.run now b.deposit = x.finish now c d r)
    (haccess : Beneath b.deposit r) {s₀ : Network Amount} (hs : Goes s₀ s) :
    AtomicSince s₀ ((Lock.register i, m) :: held)
      (.critical fun _ => Network.onDeposit i (x.finish now c d)) (x.inNetwork i)
      (s.setParticipant i (b.withDeposit r)) := by
  have haccessed := beneath_harmless h hb haccess
  refine .critical (Prog.stable_took within_goes _ _) fun _ s' hs' => ?_
  have hkept := hs' haccessed.sound
  obtain ⟨r', hbeneath, hb'⟩ := hkept.registers i ⟨m, List.mem_cons_self⟩ _
    (Finmap.lookup_insert _)
  have hb' : s'.participants.lookup i = some (b.withDeposit r') := hb'
  have hfinish := hx.finish_reaches (h.banks i b hb) hkeeps hrun haccess hbeneath
  refine onDeposit_guarantees hb' List.mem_cons_self hfinish ?_ ?_
  · rintro e ⟨t, herror⟩
    exact ⟨now, s, _, hs, onDeposit_error hb herror⟩
  · rintro a t' hgrants ⟨t, hok, hreach, hlast⟩
    have hmoved := kept_setParticipant h hb hreach.sound hreach.retains hreach.declared
    refine ⟨now, s, _, hs, Network.onDeposit_of_ok hb hok, fun _ => ⟨hmoved.sound, hmoved.retains⟩,
      fun _ => ⟨(hgrants hkept.sound).sound, ?_⟩⟩
    have hretains := haccessed.retains.trans hkept.retains
    exact retains_setParticipant hretains ⟨rfl, (Sound.beneath hreach.sound hlast).2⟩

/-- The access, which finds what has been checked. -/
theorem atomic_access (hx : x.Lawful) (hkeeps : Keeps m x.run) (h : s.Sound)
    (hb : s.participants.lookup i = some b) (hc : x.check b.deposit = .ok c b.deposit)
    {s₀ : Network Amount} (hs : Goes s₀ s) :
    AtomicSince s₀ ((Lock.register i, m) :: held)
      (.withLock (.book i) m' (.critical fun _ => Network.onDeposit i (x.access now c)) >>=
        fun d => .critical fun _ => Network.onDeposit i (x.finish now c d)) (x.inNetwork i) s := by
  refine .locked_bind fun _ s' hs' => ?_
  have h' := (hs' h).sound
  have hgoes := hs.trans (within_goes.rely hs')
  obtain ⟨r, hbeneath, hb'⟩ := (hs' h).registers i ⟨m, List.mem_cons_self⟩ _ hb
  have hc' : x.check r = .ok c r := by
    obtain ⟨ops, -, rfl⟩ := hbeneath
    rw [hx.check _ b.deposit, hc]
    rfl
  have hrun : x.run now r = (x.access now c >>= x.finish now c) r := Call.bind_of_ok hc' _
  have haccess := hx.access now c r
  have hharmless := beneath_harmless h' hb' haccess
  cases hd : x.access now c r with
  | ok d t =>
    rw [Call.final_of_ok hd] at haccess hharmless
    rw [Call.bind_of_ok hd] at hrun
    refine .of_ok (Network.onDeposit_of_ok hb' hd) hharmless.grants ?_
    exact atomic_finish hx h' hb' hkeeps hrun haccess hgoes
  | error e t =>
    rw [Call.final_of_error hd] at hharmless
    rw [Call.bind_of_error hd] at hrun
    exact .of_error (onDeposit_error hb' hd) hharmless.grants
      ⟨now, s', _, hgoes, onDeposit_error hb' hrun⟩

/-- **A call on a register takes effect at one moment**, that of its access to the ledger. -/
theorem atomic_program (h : s.Sound) (hx : x.Lawful) (hkeeps : Keeps m x.run) :
    AtomicIn held (x.program i m m') (x.inNetwork i) s := by
  refine .withLock within_goes fun s₀ hs₀ => .clock_bind fun now => ?_
  refine safe_read_bind (hs₀ h).sound fun _ s' h' hs' => ?_
  have hgoes : Goes s₀ s' := within_goes.rely hs'
  cases hb : s'.participants.lookup i with
  | none =>
    exact .of_error (onDeposit_missing hb _) rfl ⟨now, s', s', hgoes, onDeposit_missing hb _⟩
  | some b =>
    have hself : s'.setParticipant i (b.withDeposit b.deposit) = s' :=
      Network.setParticipant_self hb
    cases hc : x.check b.deposit with
    | ok c r =>
      obtain rfl := hx.reads.ok hc
      exact .of_ok (Network.onDeposit_of_ok hb hc) hself
        (atomic_access hx hkeeps h' hb hc hgoes)
    | error e r =>
      obtain rfl := hx.reads.error hc
      have hrun : x.run now b.deposit = .error e b.deposit := Call.bind_of_error hc _
      exact .of_error (onDeposit_error hb hc) hself
        ⟨now, s', _, hgoes, onDeposit_error hb hrun⟩

/-- The same for the operation that the sections are in sequence. -/
theorem atomic_operation (h : s.Sound) (hx : x.Lawful)
    {operation : Time → Call (Register Amount) Deposit.Err α}
    (hrun : ∀ now, x.run now = operation now) (hkeeps : Keeps m operation) :
    AtomicIn held (x.program i m m') (fun now => Network.onDeposit i (operation now)) s := by
  obtain rfl : x.run = operation := funext hrun
  exact atomic_program h hx hkeeps

end Sections

/-! ## The operations -/

omit [AddCommGroup Amount] [LinearOrder Amount] in
theorem getAccount_not_panics {r : Register Amount} {id : Deposit.AccountID} {e : Deposit.Err}
    (he : r.getAccount id = .error e) : ¬e.Panics := by
  rw [Register.getAccount] at he
  split at he <;> cases he
  exact not_false

omit [AddCommGroup Amount] [LinearOrder Amount] in
theorem getSnapshot_not_panics {r : Register Amount} {id : Deposit.AccountID} {date : Time}
    {e : Deposit.Err} (he : r.getSnapshot id date = .error e) : ¬e.Panics := by
  rw [Register.getSnapshot] at he
  split at he
  · cases he
    exact not_false
  · split at he <;> cases he
    exact not_false

section Lawful

theorem beneath_reading {f : Register Amount → Except Deposit.Err α}
    (r : Register Amount) : Beneath r ((Call.reading f).final r) := by
  rw [Call.ReadsOnly.reading f r]
  exact .refl r

theorem beneath_onBook {now : Time} {y : Call (Book Amount) Ledger.Err α} (op : Book.Op Amount)
    (hy : Book.call now op = y.discard) (hop : op.Declared) (r : Register Amount) :
    Beneath r ((Register.onBook y).final r) := by
  have hbook : Book.exec (now, op) r.book = y.final r.book := by
    show (Book.call now op).final r.book = _
    rw [hy, Call.final_discard]
  have hfinal : (Register.onBook y).final r = r.withBook (y.final r.book) :=
    Call.final_zoom ..
  rw [hfinal, ← hbook]
  exact .step now hop r

theorem lawful_openAccount (subledger : Ledger.SubledgerID) (name : String) (limit : Amount) :
    (openAccountSections subledger name limit).Lawful where
  reads := .pure ()
  check _ := .pure ()
  access _ _ r := beneath_onBook (.createAccount subledger name .liability) rfl trivial r
  finish _ _ _ _ _ := rfl

theorem lawful_getBalance (id : Deposit.AccountID) :
    (getBalanceSections id : Sections Amount _ _ _).Lawful where
  reads := .reading _
  check _ := .reading fun _ => rfl
  access _ _ r := beneath_reading r
  finish _ _ _ _ := .reading fun _ => rfl

theorem lawful_snapshot (id : Deposit.AccountID) (date : Time) :
    (snapshotSections id date : Sections Amount _ _ _).Lawful where
  reads := .read fun _ => .orThrow _ _
  check _ := .read (fun _ => rfl) fun _ => .orThrow _ _
  access _ _ r := beneath_reading r
  finish _ _ _ _ := .read (fun _ => rfl) fun _ => .bind (.ofExcept _) fun _ _ => rfl

theorem lawful_close (id : Deposit.AccountID) :
    (closeSections id : Sections Amount _ _ _).Lawful where
  reads := .read fun _ => .bind (.orThrow _ _) fun _ => .bind (.require _ _) fun _ => .pure _
  check _ := .read (fun _ => rfl) fun _ => .bind (.orThrow _ _) fun _ =>
    .bind (.require _ _) fun _ => .pure _
  access _ _ r := beneath_reading r
  finish _ _ _ _ := .bind (.require _ _) fun _ _ => rfl

theorem lawful_createHold (req : Deposit.CreateHoldRequest Amount) :
    (createHoldSections req).Lawful where
  reads := .read fun _ => .bind (.orThrow _ _) fun _ => .bind (.ofExcept _) fun _ =>
    .bind (.require _ _) fun _ => .pure _
  check _ := .read (fun _ => rfl) fun _ => .bind (.orThrow _ _) fun _ =>
    .bind (.ofExcept _) fun _ => .bind (.require _ _) fun _ => .pure _
  access _ _ r := beneath_reading r
  finish _ _ _ _ := .read (fun _ => rfl) fun _ => .bind (.ofExcept _) fun _ =>
    .bind (.require _ _) fun _ _ => rfl

theorem lawful_captureHold (id : Deposit.HoldID) (counterparty : Ledger.AccountID)
    (amount : Amount) (description : String) :
    (captureHoldSections id counterparty amount description).Lawful where
  reads := .read fun _ => .bind (.orThrow _ _) fun _ => .bind (.require _ _) fun _ =>
    .bind (.orThrow _ _) fun _ => .pure _
  check _ := .read (fun _ => rfl) fun _ => .bind (.orThrow _ _) fun _ =>
    .bind (.require _ _) fun _ => .bind (.orThrow _ _) fun _ => .pure _
  access _ _ r := by
    refine beneath_onBook (.postTransaction _) rfl ?_ r
    exact Ledger.declared_transfer _ _ _
  finish _ _ _ _ _ := rfl

end Lawful

theorem atomic_getBalance (h : s.Sound) (i : ParticipantID) (id : Deposit.AccountID) :
    AtomicIn held (getBalance i id)
      (fun now => Network.onDeposit i (.reading fun r => r.getBalance now id)) s :=
  Sections.atomic_operation h (lawful_getBalance id) (fun now => run_getBalance now id)
    (.of_reading (fun _ _ _ hr he => hr.getBalance_not_panics he) _)

end CoreBanking.Concurrent
