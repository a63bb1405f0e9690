import CoreBanking.Payment.Lifecycle

/-!
# What later states keep

- keys stay in use (`Change.keysKept`);
- banks and their accounts stay (`Change.grows`);
- a closed cycle stays as it is until it is settled (`Change.cycle_kept`);
- a settled payment stays as it is until it is returned (`Change.payment_kept`).
-/

namespace CoreBanking.Payment

open Ledger (Book PostTransactionRequest Transaction)
open Deposit (Register)

namespace Network

variable {Amount : Type}

/-! ## Keys -/

/-- The keys in use stay in use. -/
structure KeysKept (s s' : Network Amount) : Prop where
  bank : ∀ i key, s.keyed i key ≠ none → s'.keyed i key ≠ none
  centralBank : ∀ key, s.cbKeyed key ≠ none → s'.cbKeyed key ≠ none

namespace KeysKept

variable {s s' s'' : Network Amount}

theorem refl (s : Network Amount) : s.KeysKept s := ⟨fun _ _ h => h, fun _ h => h⟩

theorem trans (h : s.KeysKept s') (h' : s'.KeysKept s'') : s.KeysKept s'' where
  bank i key hused := h'.bank i key (h.bank i key hused)
  centralBank key hused := h'.centralBank key (h.centralBank key hused)

/-- Keys are in the books only. -/
theorem congr (h : s.KeysKept s') (hbanks : s''.participants = s'.participants)
    (hcb : s''.centralBank = s'.centralBank) : s.KeysKept s'' where
  bank i key hused := by
    rw [keyed, hbanks]
    exact h.bank i key hused
  centralBank key hused := by
    rw [cbKeyed, hcb]
    exact h.centralBank key hused

variable [AddCommGroup Amount] [LinearOrder Amount] {now : Time} {i : ParticipantID}
  {b : Participant Amount} {req : PostTransactionRequest Amount}

theorem posted (h : s.Banks) (hb : s.participants.lookup i = some b)
    (hacc : b.ledger.Accepts req) : s.KeysKept (s.posted now i b req) where
  bank j key hused := by
    rw [keyed_posted h hb hacc]
    split
    · exact Option.some_ne_none _
    · exact hused
  centralBank _ hused := hused

theorem cbPosted (h : s.Banks) (hacc : s.centralBank.Accepts req) :
    s.KeysKept (s.cbPosted now req) where
  bank _ _ hused := hused
  centralBank key hused := by
    rw [cbKeyed_cbPosted h hacc]
    split
    · exact Option.some_ne_none _
    · exact hused

theorem reversed (h : s.Banks) (hb : s.participants.lookup i = some b)
    {original : Transaction Amount} {key : String}
    (horig : s.keyed i key = some original) (hstatus : original.status ≠ .reversed)
    (description : String) :
    s.KeysKept (s.reversed now i b original.id original description) where
  bank j key hused := by
    rw [keyed_reversed h hb horig hstatus]
    split
    · exact Option.some_ne_none _
    · exact hused
  centralBank _ hused := hused

theorem mirrors (h : s.Banks) {c : ClearingCycle Amount}
    {l : List (ParticipantID × Amount)}
    (hmirrors : Along (withMirror now c) (MirrorAccepted c) s l) :
    s.KeysKept (run (withMirror now c) s l) := by
  let Inv (t : Network Amount) : Prop := t.Banks ∧ s.KeysKept t
  have hstep : ∀ d t, Inv t → MirrorAccepted c t d → Inv (withMirror now c d t) := by
    rintro d t ⟨hbanks, hkept⟩ hmirror
    rcases withMirror_cases now hmirror with ⟨-, heq⟩ | ⟨b, -, hb, hacc, heq⟩
    · rw [heq]
      exact ⟨hbanks, hkept⟩
    · rw [heq]
      exact ⟨hbanks.posted hb hacc (mirrorRequest_declared _ _ _ _),
        hkept.trans (.posted hbanks hb hacc)⟩
  exact (hmirrors.invariant hstep ⟨h, .refl s⟩).2

theorem creditors {ids : List PaymentID}
    (hlegs : Along (withCreditorLeg now) CreditorPaid s ids) :
    s.KeysKept (run (withCreditorLeg now) s ids) := by
  have hstep : ∀ pid t, s.KeysKept t → CreditorPaid t pid →
      s.KeysKept (withCreditorLeg now pid t) := by
    rintro pid t hkept ⟨hcore, p, creditor, acct, hc⟩
    rw [withCreditorLeg_eq hc.stored hc.creditor_exists]
    have hposted : t.KeysKept (t.posted now p.creditor.participant creditor
        (creditRequest p creditor acct.glAccount)) :=
      .posted hcore.banks hc.creditor_exists.bank hc.accepts
    exact (hkept.trans hposted).congr rfl rfl
  exact hlegs.invariant hstep (.refl s)

end KeysKept

variable [AddCommGroup Amount] [LinearOrder Amount] {s s' : Network Amount} {now : Time}

theorem PositionsSettled.keysKept {order₁ order₂ : MapOrder ParticipantID Amount}
    {c : ClearingCycle Amount} {tx : Option Ledger.TransactionID} {t : Network Amount}
    (hp : PositionsSettled now order₁ order₂ c s (.ok tx t)) (h : s.Banks) :
    s.KeysKept t := by
  cases hp with
  | nothing => exact .refl s
  | settled req hreq hacc hmirrors =>
    have hcb : s.KeysKept (s.cbPosted now req) := .cbPosted h hacc
    exact hcb.trans (.mirrors (h.cbSettled hreq hacc) hmirrors)

theorem SettleOutcome.keysKept {order₁ order₂ : MapOrder ParticipantID Amount}
    {id : CycleID} {r : EStateM.Result Err (Network Amount) (Settlement Amount)}
    (ho : SettleOutcome now order₁ order₂ id s r) (h : s.Banks) :
    s.KeysKept (Call.state r) := by
  cases ho with
  | notClosed => exact .refl s
  | refused => exact .refl s
  | stuck c hc hclosed req hreq hacc pre post d hlist hmirrors =>
    have hcb : s.KeysKept (s.cbPosted now req) := .cbPosted h hacc
    -- the settlement at the central bank stands, and the mirrors made so far
    exact hcb.trans (.mirrors (h.cbSettled hreq hacc) hmirrors)
  | settled c hc hclosed tx t u hpositions ht hlegs hu =>
    subst hu
    exact ((hpositions.keysKept h).trans (.creditors hlegs)).congr rfl rfl

/-- A call keeps the keys in use. -/
theorem Change.keysKept {op : Op Amount} {failure : Option Err}
    (hc : Change now s op failure s') (h : s.WF) : s.KeysKept s' := by
  cases hc with
  | refused => exact .refl s
  | scheme => exact (KeysKept.refl s).congr rfl rfl
  | bank name acct p hnew =>
    have hfresh := h.banks.fresh_bank hnew
    refine ⟨fun i key hused => ?_, fun _ hused => hused⟩
    -- a key in use is a key of a bank that exists
    have hne : i ≠ p.id := by
      rintro rfl
      rw [keyed, hfresh] at hused
      exact hused rfl
    rw [show (s.withBank now acct p).keyed i key = _ from
      keyed_setParticipant _ p.id i p key, if_neg hne]
    exact hused
  | register i b rop r hop hb hc =>
    refine ⟨fun j key hused => ?_, fun _ hused => hused⟩
    rw [keyed_setParticipant]
    split
    · next heq =>
      rw [heq, keyed_of_bank hb] at hused
      exact (hc.keyed_eq (h.banks.bank i b hb).deposit key).trans_ne hused
    · exact hused
  | deposit i account amount description b a hpos hb ha hacc hcb =>
    have hposted : s.KeysKept (s.posted now i b _) := .posted h.banks hb hacc
    exact hposted.trans (.cbPosted (h.banks.posted hb hacc (Ledger.declared_transfer _ _ _)) hcb)
  | mandated => exact (KeysKept.refl s).congr rfl rfl
  | revoked => exact (KeysKept.refl s).congr rfl rfl
  | opened => exact (KeysKept.refl s).congr rfl rfl
  | closed => exact (KeysKept.refl s).congr rfl rfl
  | settle order₁ order₂ id r ho => exact ho.keysKept h.banks
  | idDrawn => exact (KeysKept.refl s).congr rfl rfl
  | initiated req scheme cycleID cycle debtor acct hi =>
    have hposted : s.KeysKept (s.posted now req.debtor.participant debtor _) :=
      .posted h.banks hi.debtor_exists.bank hi.accepts
    exact hposted.congr rfl rfl
  | rejected id reason p debtor txID original hp hst hleg hb hstored hposted =>
    obtain ⟨c, hcyc, -⟩ := h.open_of_accepted hp hst
    -- the reversed transaction is the debtor leg; a reversal has no key of its own
    obtain ⟨hid, horiginal⟩ := h.legs.debtor_original h.banks hp hleg hb hstored
    subst hid
    have hreversed : s.KeysKept (s.reversed now p.debtor.participant debtor original.id
        original ("Reject payment " ++ p.id.val ++ ": " ++ reason)) :=
      .reversed h.banks hb horiginal.posted hposted _
    rw [withRejected_eq hcyc]
    exact hreversed.congr rfl rfl
  | refunded id reason p debtor da hf =>
    exact .posted h.banks hf.debtor_exists.bank hf.accepts
  | returned id reason p debtor creditor da ca hf hparty hacc hcb =>
    let s₁ := s.withRefund now p reason debtor da.glAccount
    let s₂ := s₁.posted now p.creditor.participant creditor
      (returnCreditRequest p reason creditor ca.glAccount)
    have hbanks₁ : s₁.Banks := h.banks.posted hf.debtor_exists.bank hf.accepts
      (Ledger.declared_transfer _ _ _)
    have hbanks₂ : s₂.Banks := hbanks₁.posted hparty.bank hacc (Ledger.declared_transfer _ _ _)
    have hrefund : s.KeysKept s₁ := .posted h.banks hf.debtor_exists.bank hf.accepts
    have hclaw : s₁.KeysKept s₂ := .posted hbanks₁ hparty.bank hacc
    have hsettle : s₂.KeysKept (s₂.cbPosted now (returnSettleRequest p debtor creditor)) :=
      .cbPosted hbanks₂ hcb
    -- the three postings of a return one after the other
    exact ((hrefund.trans hclaw).trans hsettle).congr rfl rfl

/-! ## Banks -/

section Banks

omit [AddCommGroup Amount] [LinearOrder Amount] in
/-- A creditor leg lets the bank of the creditor grow. -/
theorem grows_withCreditorLeg (now : Time) (pid : PaymentID) (s : Network Amount) :
    s.Grows (s.withCreditorLeg now pid) := by
  unfold withCreditorLeg
  split
  · exact .of_eq rfl
  · split
    · exact .of_eq rfl
    · next hbank =>
      split
      · exact .of_eq rfl
      · exact .posted hbank now _

/-- So does a mirror. -/
theorem grows_withMirror (now : Time) (c : ClearingCycle Amount) (d : ParticipantID × Amount)
    (s : Network Amount) : s.Grows (s.withMirror now c d) := by
  unfold withMirror
  split
  · exact .of_eq rfl
  · split
    · exact .of_eq rfl
    · next hbank => exact .posted hbank now _

theorem grows_mirrors (now : Time) (c : ClearingCycle Amount)
    (l : List (ParticipantID × Amount)) (s : Network Amount) :
    s.Grows (run (withMirror now c) s l) := by
  have hstep : ∀ d t, s.Grows t → s.Grows (withMirror now c d t) :=
    fun d t ht => ht.trans (grows_withMirror now c d t)
  exact run_invariant hstep (.of_eq rfl) l

/-- However a settlement ends, the banks have grown. -/
theorem SettleOutcome.grows {order₁ order₂ : MapOrder ParticipantID Amount} {id : CycleID}
    {r : EStateM.Result Err (Network Amount) (Settlement Amount)}
    (ho : SettleOutcome now order₁ order₂ id s r) : s.Grows (Call.state r) := by
  cases ho with
  | notClosed => exact .of_eq rfl
  | refused => exact .of_eq rfl
  | stuck c hc hclosed req hreq hacc pre => exact grows_mirrors now c pre (s.cbPosted now req)
  | settled c hc hclosed tx t u hpositions ht hlegs hu =>
    have hmirrors : s.Grows t := by
      cases hpositions with
      | nothing => exact .of_eq rfl
      | settled req => exact grows_mirrors now c _ (s.cbPosted now req)
    have hstep : ∀ pid v, s.Grows v → s.Grows (withCreditorLeg now pid v) :=
      fun pid v hv => hv.trans (grows_withCreditorLeg now pid v)
    subst hu
    exact run_invariant hstep hmirrors c.paymentIDs

/-- No call closes a bank or one of its accounts. -/
theorem Change.grows {op : Op Amount} {failure : Option Err}
    (hc : Change now s op failure s') (h : s.WF) : s.Grows s' := by
  cases hc with
  | bank name acct p hnew =>
    intro i b hb
    exact ⟨b, (Finmap.lookup_insert_fresh (h.banks.fresh_bank hnew)).mpr (.inr hb), .refl b⟩
  | register i b rop r hop hb hc =>
    exact .setParticipant hb (.withDeposit (hc.grows (h.banks.bank i b hb).deposit))
  | deposit i account amount description b a hpos hb => exact .posted hb now _
  | settle order₁ order₂ id r ho => exact ho.grows
  | initiated req scheme cycleID cycle debtor acct hi =>
    exact .posted hi.debtor_exists.bank now _
  | rejected id reason p debtor txID original hp hst hleg hb =>
    obtain ⟨c, hcyc, -⟩ := h.open_of_accepted hp hst
    rw [withRejected_eq hcyc]
    exact .setParticipant hb (.withLedger debtor _)
  | refunded id reason p debtor da hf => exact .posted hf.debtor_exists.bank now _
  | returned id reason p debtor creditor da ca hf hparty =>
    have hrefund : s.Grows (s.withRefund now p reason debtor da.glAccount) :=
      .posted hf.debtor_exists.bank now _
    exact hrefund.trans (.posted hparty.bank now _)
  | _ => exact .of_eq rfl

end Banks

/-! ## Closed cycles -/

/-- A closed cycle changes only by being settled. -/
theorem Change.cycle_kept {op : Op Amount} {failure : Option Err}
    (hc : Change now s op failure s') (h : s.WF) {id : CycleID}
    {c : ClearingCycle Amount} (hcyc : s.cycles.lookup id = some c)
    (hclosed : c.status = .closed) : s'.cycles.lookup id = some c ∨
      failure = none ∧ ∃ order₁ order₂, op = .settleCycle order₁ order₂ id := by
  -- writing another cycle, or an open one
  have hwrite : ∀ {cid : CycleID} {d : ClearingCycle Amount} (d' : ClearingCycle Amount),
      s.cycles.lookup cid = some d → d.status = .open →
        (s.cycles.insert cid d').lookup id = some c := by
    intro cid d d' hd hopen
    refine (Finmap.lookup_insert_of_ne _ ?_).trans hcyc
    rintro rfl
    cases hcyc.symm.trans hd
    cases hclosed.symm.trans hopen
  cases hc with
  | refused => exact .inl hcyc
  | scheme => exact .inl hcyc
  | bank => exact .inl hcyc
  | register => exact .inl hcyc
  | deposit => exact .inl hcyc
  | mandated => exact .inl hcyc
  | revoked => exact .inl hcyc
  | opened scheme =>
    exact .inl ((Finmap.lookup_insert_fresh h.records.fresh_cycle).mpr (.inr hcyc))
  | closed cid d hd hopen => exact .inl (hwrite _ hd hopen)
  | settle order₁ order₂ cid r ho =>
    cases ho with
    | notClosed => exact .inl hcyc
    | refused => exact .inl hcyc
    | stuck d hd hdclosed req hreq hacc pre =>
      obtain ⟨banks, hbanks⟩ := run_withMirror_frame now d pre (s.cbPosted now req)
      rw [Call.state_error, hbanks]
      exact .inl hcyc
    | settled d hd hdclosed tx t u hpositions ht hlegs hu =>
      by_cases hid : id = cid
      · subst hid
        exact .inr ⟨rfl, order₁, order₂, rfl⟩
      · have hcycles : u.cycles = s.cycles := by
          obtain ⟨banks, payments, hrun⟩ := run_withCreditorLeg_frame now d.paymentIDs t
          obtain ⟨banks', cb, rfl⟩ := hpositions.frame
          rw [hu, hrun]
        refine .inl ((Finmap.lookup_insert_of_ne _ hid).trans ?_)
        rw [hcycles]
        exact hcyc
  | idDrawn => exact .inl hcyc
  | initiated req scheme cycleID cycle debtor acct hi =>
    -- a payment joins an open cycle
    obtain ⟨d, hd, -, hopen⟩ := (h.cycles.open_iff _ _).mp hi.cycle_open
    exact .inl (hwrite _ hd hopen)
  | rejected pid reason p debtor txID original hp hst =>
    -- a payment that can be rejected is still in its open cycle
    obtain ⟨d, hd, hopen⟩ := h.open_of_accepted hp hst
    rw [withRejected_eq hd]
    exact .inl (hwrite _ hd hopen)
  | refunded => exact .inl hcyc
  | returned => exact .inl hcyc

/-! ## Settled payments -/

/-- A settled payment changes only by being returned, which takes a refund that
the debtor's bank accepts. -/
theorem Change.payment_kept {op : Op Amount} {failure : Option Err}
    (hc : Change now s op failure s') (h : s.WF) {pid : PaymentID}
    {p : Payment Amount} (hp : s.payments.lookup pid = some p)
    (hst : p.status = .settled) : s'.payments.lookup pid = some p ∨
      ∃ reason debtor da, s.Refundable pid p reason debtor da := by
  -- writing a payment in another status
  have hwrite : ∀ {k : PaymentID} {q : Payment Amount} (q' : Payment Amount),
      s.payments.lookup k = some q → q.status ≠ .settled →
        (s.payments.insert k q').lookup pid = some p := by
    intro k q q' hq hne
    refine (Finmap.lookup_insert_of_ne _ ?_).trans hp
    rintro rfl
    cases hp.symm.trans hq
    exact hne hst
  cases hc with
  | refused => exact .inl hp
  | scheme => exact .inl hp
  | bank => exact .inl hp
  | register => exact .inl hp
  | deposit => exact .inl hp
  | mandated => exact .inl hp
  | revoked => exact .inl hp
  | opened => exact .inl hp
  | closed id c hcyc hopen =>
    left
    show (run markCleared s.payments c.paymentIDs).lookup pid = some p
    -- the payments of an open cycle are accepted, so this is none of them
    rw [lookup_markCleared, hp, Option.map_some, if_neg]
    intro hmem
    obtain ⟨q, hq, hst'⟩ := (h.open_accepted id c hcyc hopen).2 pid hmem
    cases hp.symm.trans hq
    cases hst.symm.trans hst'
  | settle order₁ order₂ id r ho =>
    left
    cases ho with
    | notClosed => exact hp
    | refused => exact hp
    | stuck c hcyc hclosed req hreq hacc pre =>
      obtain ⟨banks, hbanks⟩ := run_withMirror_frame now c pre (s.cbPosted now req)
      rw [Call.state_error, hbanks]
      exact hp
    | settled c hcyc hclosed tx t u hpositions ht hlegs hu =>
      obtain ⟨banks, cb, rfl⟩ := hpositions.frame
      subst hu
      -- the payments of a closed cycle are cleared, so this is none of them
      refine ((lookup_run_withCreditorLeg (h.cycles.nodup id c hcyc) hlegs pid).1 ?_).trans hp
      intro hmem
      obtain ⟨q, hq, hfits⟩ := h.members_fit hcyc hmem
      cases hp.symm.trans hq
      rw [hclosed] at hfits
      cases hst.symm.trans hfits
  | idDrawn => exact .inl hp
  | initiated req scheme cycleID cycle debtor acct hi =>
    have hfresh := h.records.fresh_payment
    exact .inl ((Finmap.lookup_insert_fresh hfresh).mpr (.inr hp))
  | rejected id reason q debtor txID original hq hst' =>
    obtain ⟨c, hcyc, -⟩ := h.open_of_accepted hq hst'
    rw [withRejected_eq hcyc]
    exact .inl (hwrite _ hq (by simp [hst']))
  | refunded => exact .inl hp
  | returned id reason q debtor creditor da ca hf =>
    by_cases hid : pid = id
    · subst hid
      cases hp.symm.trans hf.stored
      exact .inr ⟨reason, debtor, da, hf⟩
    · exact .inl ((Finmap.lookup_insert_of_ne _ hid).trans hp)

/-! ## What a settlement does not touch -/

/-- A settlement leaves schemes, mandates and the indexes alone. -/
theorem SettleOutcome.frame {order₁ order₂ : MapOrder ParticipantID Amount} {id : CycleID}
    {r : EStateM.Result Err (Network Amount) (Settlement Amount)}
    (ho : SettleOutcome now order₁ order₂ id s r) :
    ∃ banks cb payments cycles settlements n, s.idCounter ≤ n ∧ Call.state r = { s with
      participants := banks
      centralBank := cb
      payments := payments
      cycles := cycles
      settlements := settlements
      idCounter := n } := by
  cases ho with
  | notClosed => exact ⟨_, _, _, _, _, _, le_rfl, rfl⟩
  | refused => exact ⟨_, _, _, _, _, _, le_rfl, rfl⟩
  | stuck c hcyc hclosed req hreq hacc pre =>
    obtain ⟨banks, hbanks⟩ := run_withMirror_frame now c pre (s.cbPosted now req)
    rw [Call.state_error, hbanks]
    exact ⟨_, _, _, _, _, _, le_rfl, rfl⟩
  | settled c hcyc hclosed tx t u hpositions ht hlegs hu =>
    obtain ⟨banks, payments, hrun⟩ := run_withCreditorLeg_frame now c.paymentIDs t
    obtain ⟨banks', cb, rfl⟩ := hpositions.frame
    rw [hu, hrun]
    exact ⟨_, _, _, _, _, _, Nat.le_succ _, rfl⟩

/-- No call takes back an id. -/
theorem Change.idCounter_le {op : Op Amount} {failure : Option Err}
    (hc : Change now s op failure s') (h : s.WF) : s.idCounter ≤ s'.idCounter := by
  cases hc with
  | bank => exact Nat.le_succ _
  | mandated => exact Nat.le_succ _
  | opened => exact Nat.le_succ _
  | idDrawn => exact Nat.le_succ _
  | initiated => exact Nat.le_succ _
  | settle order₁ order₂ cid r ho =>
    obtain ⟨banks, cb, payments, cycles, settlements, n, hle, hr⟩ := ho.frame
    rw [hr]
    exact hle
  | rejected pid reason p debtor txID original hp hst =>
    obtain ⟨c, hcyc, -⟩ := h.open_of_accepted hp hst
    rw [withRejected_eq hcyc]
    exact le_rfl
  | _ => exact le_rfl

/-- Schemes stay registered. -/
theorem Change.scheme_kept {op : Op Amount} {failure : Option Err}
    (hc : Change now s op failure s') (h : s.WF) {id : SchemeID}
    (hid : id ∈ s.schemes) : id ∈ s'.schemes := by
  cases hc with
  | scheme sc => exact Finmap.mem_insert.mpr (.inr hid)
  | settle order₁ order₂ cid r ho =>
    obtain ⟨banks, cb, payments, cycles, settlements, n, -, hr⟩ := ho.frame
    rw [hr]
    exact hid
  | rejected pid reason p debtor txID original hp hst =>
    obtain ⟨c, hcyc, -⟩ := h.open_of_accepted hp hst
    rw [withRejected_eq hcyc]
    exact hid
  | _ => exact hid

end Network

end CoreBanking.Payment
