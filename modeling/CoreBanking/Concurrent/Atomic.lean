import CoreBanking.Concurrent.Interference

/-!
# Calls that take effect at one moment

While other threads do what they like, a call that is one section ends as it would have ended
alone, at the moment of that section. What it has left there stays.

- `AtomicIn`: such programs;
- `Calling`: what the calls of clients do to a ledger;
- `atomic_query`, `atomic_onLedger`, `atomic_onCentralBank`: sections that look at the network,
  or call on a ledger.
-/

namespace CoreBanking.Concurrent

open Ledger (Book)
open Deposit (Register)
open Payment

variable {Amount ε α β : Type} [AddCommGroup Amount] [LinearOrder Amount]
  {held : List (Lock × Mode)} {s s' : Network Amount} {i : ParticipantID}

/-- From `s`, the program ends as the call does at one moment since `s₀`. -/
abbrev AtomicSince (s₀ : Network Amount) (held : List (Lock × Mode))
    (p : Prog Lock Time (Network Amount) ε α) (x : Time → Call (Network Amount) ε α)
    (s : Network Amount) : Prop :=
  Prog.Safe (interference Amount) (Prog.Refused Goes x s₀) held p s (Prog.Took Goes x s₀)

/-- From `s`, the program ends as the call does at one moment while it runs. -/
abbrev AtomicIn (held : List (Lock × Mode)) (p : Prog Lock Time (Network Amount) ε α)
    (x : Time → Call (Network Amount) ε α) (s : Network Amount) : Prop :=
  Prog.Atomic Goes (interference Amount) held p x s

theorem AtomicIn.safe {p : Program Amount α} {x : Time → Call (Network Amount) Err α}
    (hp : AtomicIn held p x s) (h : s.Sound)
    (hx : ∀ now t e t', t.Sound → s.Retains t → x now t = .error e t' → ¬e.Panics) :
    SafeIn held p s (Prog.Took Goes x s) := by
  refine hp.mono (fun _ _ ha => ha) ?_
  rintro e ⟨now, t, t', ht, he⟩
  exact hx now t e t' (ht h).1 (ht h).2 he

/-- What the call leaves is still there. -/
theorem took_elim {x : Time → Call (Network Amount) ε α} {a : α} (h : s.Sound)
    (ha : Prog.Took Goes x s a s') : ∃ now t t', t.Sound ∧ s.Retains t ∧ x now t = .ok a t' ∧
      t'.Sound ∧ t'.Retains s' ∧ s'.Sound := by
  obtain ⟨now, t, t', ht, hx, hsame, hlater⟩ := ha
  have hmoment := ht h
  have hleft := hsame hmoment.1
  have hnow := hlater hleft.1
  exact ⟨now, t, t', hmoment.1, hmoment.2, hx, hleft.1, hnow.2, hnow.1⟩

/-! ## Sections -/

theorem atomic_query (f : Network Amount → Except Err α) :
    AtomicIn held (query f) (fun _ => .reading f) s := by
  refine .locked within_goes fun _ s' _ => ?_
  rw [Call.ReadsOnly.reading f s']
  exact (interference Amount).guar_refl _ s'

/-- What the call does to a ledger, one call of a client could do, if it does anything. It
names declared directions and types. -/
def Calling (x : Time → Call (Book Amount) Ledger.Err α) : Prop :=
  ∀ now b, (x now).final b = b ∨
    ∃ step, step.2.Declared ∧ (x now).final b = Book.exec step b

theorem Calling.of_call {x : Time → Call (Book Amount) Ledger.Err α} (op : Book.Op Amount)
    (hx : ∀ now, Book.call now op = (x now).discard) (hop : op.Declared) : Calling x := by
  refine fun now b => .inr ⟨(now, op), hop, ?_⟩
  show _ = (Book.call now op).final b
  rw [hx, Call.final_discard]

theorem Calling.of_reading (f : Book Amount → Except Ledger.Err α) :
    Calling fun _ => .reading f :=
  fun _ b => .inl (Call.ReadsOnly.reading f b)

omit [AddCommGroup Amount] [LinearOrder Amount] in
theorem final_onLedger {b : Participant Amount} (hb : s.participants.lookup i = some b)
    (y : Call (Book Amount) Ledger.Err α) :
    (Network.onLedger i y).final s = s.setParticipant i (b.withLedger (y.final b.ledger)) := by
  have hzoom : Network.onLedger i y s = Call.zoom (fun _ => b.ledger)
      (fun book s => s.setParticipant i (b.withLedger book)) .ledger y s := by
    rw [Network.onLedger, Call.get_bind, hb, orThrow_some_bind]
  rw [Call.final, hzoom]
  exact Call.final_zoom ..

omit [AddCommGroup Amount] [LinearOrder Amount] in
theorem onLedger_missing (hi : s.participants.lookup i = none)
    (y : Call (Book Amount) Ledger.Err α) :
    Network.onLedger i y s = .error .nilDereference s := by
  rw [Network.onLedger, Call.get_bind, hi]
  rfl

theorem atomic_onLedger {m : Mode} {x : Time → Call (Book Amount) Ledger.Err α}
    (hx : Calling x) :
    AtomicIn held (onLedger i m x) (fun now => Network.onLedger i (x now)) s := by
  refine .locked within_goes fun now s' _ => ?_
  cases hb : s'.participants.lookup i with
  | none =>
    rw [Call.final_of_error (onLedger_missing hb _)]
    exact (interference Amount).guar_refl _ s'
  | some b =>
    rw [final_onLedger hb]
    rcases hx now b.ledger with hsame | ⟨step, hdeclared, hstep⟩
    · rw [hsame, show b.withLedger b.ledger = b from rfl, Network.setParticipant_self hb]
      exact (interference Amount).guar_refl _ s'
    · rw [hstep]
      exact fun h => (beneath_harmless h hb (.step step.1 hdeclared b.deposit)).grants h

theorem atomic_onCentralBank {m : Mode} {x : Time → Call (Book Amount) Ledger.Err α}
    (hx : Calling x) :
    AtomicIn held (onCentralBank m x) (fun now => Network.onCentralBank (x now)) s := by
  refine .locked within_goes fun now s' _ => ?_
  have hfinal : (Network.onCentralBank (x now)).final s'
      = s'.setCentralBank ((x now).final s'.centralBank) := Call.final_zoom ..
  rw [hfinal]
  rcases hx now s'.centralBank with hsame | ⟨step, hdeclared, hstep⟩
  · rw [hsame]
    exact (interference Amount).guar_refl _ s'
  · rw [hstep]
    exact fun h => (centralBank_harmless hdeclared h).grants h

/-! ## Looks at what stays -/

/-- A bank that has been found stays. -/
theorem safe_participant {E : Err → Prop} {missing : Err} (h : s.Sound)
    (hmissing : ∀ t, Goes s t → t.participants.lookup i = none → E missing) :
    Prog.Safe (interference Amount) E held (participant i missing) s fun b s' =>
      s'.Sound ∧ s.Retains s' ∧ ∃ b', s'.participants.lookup i = some b' ∧ b.Retains b' := by
  refine .critical ?_ fun _ s' hs => ?_
  · rintro b t t' ⟨ht, hr, b', hb', hbank⟩ ht'
    have hkept := ht' ht
    obtain ⟨b'', hb'', hbank'⟩ := hkept.retains.participants i b' hb'
    exact ⟨hkept.sound, hr.trans hkept.retains, b'', hb'', hbank.trans hbank'⟩
  · have hgrants := (interference Amount).guar_refl held s'
    refine .read (.lookup hgrants (hmissing s' (within_goes.rely hs)) fun b hb => ?_)
    exact ⟨(hs h).sound, (hs h).retains, b, hb, .refl b⟩

/-- A bank is found, of which what follows uses what stays. -/
theorem atomic_participant_bind {missing : Err} {f : Participant Amount → Program Amount α}
    {z : Participant Amount → Time → Call (Network Amount) Err α} (h : s.Sound)
    (hz : ∀ b b', b.Retains b' → z b' = z b)
    (hf : ∀ b s', s'.Sound → s.Retains s' → AtomicIn held (f b) (z b) s') :
    AtomicIn held (participant i missing >>= f)
      (fun now => (get >>= fun s => orThrow (s.participants.lookup i) missing) >>= fun b =>
        z b now) s := by
  refine Prog.Atomic.after within_goes ((safe_participant h fun t ht hnone => ?_).mono
    (fun b s' hb => ⟨fun _ => ⟨hb.1, hb.2.1⟩, fun now t ht => ?_, hf b s' hb.1 hb.2.1⟩)
    fun _ he => he)
  · refine ⟨Time.zero, t, t, ht, ?_⟩
    show orThrow (t.participants.lookup i) missing t = _
    rw [hnone]
    rfl
  · obtain ⟨h', -, b', hb', hbank⟩ := hb
    obtain ⟨b'', hb'', hbank'⟩ := (ht h').2.participants i b' hb'
    refine ⟨b'', ?_, congrFun (congrFun (hz b b'' (hbank.trans hbank')) now) t⟩
    show orThrow (t.participants.lookup i) missing t = _
    rw [hb'']
    rfl

omit [AddCommGroup Amount] [LinearOrder Amount] in
theorem checkParty_of_retains {ref : PartyRef} (hr : s.Retains s')
    (h : ∃ b a, s.Party ref b a) : s'.checkParty ref = .ok () := by
  obtain ⟨b, a, hparty⟩ := hr.party h
  exact hparty.checkParty

/-- A party that has been checked stays. -/
theorem safe_checkParty {E : Err → Prop} {ref : PartyRef} (h : s.Sound)
    (herror : ∀ t e, Goes s t → t.checkParty ref = .error e → E e) :
    Prog.Safe (interference Amount) E held (checkParty ref) s fun _ s' =>
      s'.Sound ∧ s.Retains s' ∧ ∃ b a, s'.Party ref b a := by
  have hstable : Prog.Stable (interference Amount) held fun (_ : Unit) s' =>
      s'.Sound ∧ s.Retains s' ∧ ∃ b a, s'.Party ref b a := by
    rintro - t t' ⟨ht, hr, hparty⟩ ht'
    have hkept := ht' ht
    exact ⟨hkept.sound, hr.trans hkept.retains, hkept.retains.party hparty⟩
  refine .bind ((safe_participant h fun t ht hnone => herror t _ ht ?_).mono ?_ fun _ he => he)
  · rw [Network.checkParty, hnone]
  · rintro b s₁ ⟨h₁, hr₁, -⟩
    refine .locked hstable fun _ s₂ hs₂ => ?_
    have hkept := hs₂ h₁
    have hr₂ := hr₁.trans hkept.retains
    refine .reading ((interference Amount).guar_refl _ s₂) (fun e he => ?_) fun u hu => ?_
    · exact herror s₂ e (fun _ => ⟨hkept.sound, hr₂⟩) he
    · exact ⟨hkept.sound, hr₂, Network.checkParty_ok hu⟩

theorem atomic_checkParty_bind {ref : PartyRef} {f : Unit → Program Amount α}
    {z : Time → Call (Network Amount) Err α} (h : s.Sound)
    (hf : ∀ s', s'.Sound → s.Retains s' → (∃ b a, s'.Party ref b a) →
      AtomicIn held (f ()) z s') :
    AtomicIn held (checkParty ref >>= f)
      (fun now => .reading (fun t => t.checkParty ref) >>= fun _ => z now) s := by
  refine Prog.Atomic.after (z := fun _ => z) within_goes
    ((safe_checkParty h fun t e ht he => ?_).mono (fun _ s' hb => ?_) fun _ he => he)
  · refine ⟨Time.zero, t, t, ht, ?_⟩
    show Call.ofExcept (t.checkParty ref) t = _
    rw [he]
    rfl
  · obtain ⟨h', hr, hparty⟩ := hb
    refine ⟨fun _ => ⟨h', hr⟩, fun now t ht => ⟨(), ?_, rfl⟩, hf s' h' hr hparty⟩
    show Call.ofExcept (t.checkParty ref) t = _
    rw [checkParty_of_retains (ht h').2 hparty]
    rfl

end CoreBanking.Concurrent
