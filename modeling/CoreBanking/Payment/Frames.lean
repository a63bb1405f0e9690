import CoreBanking.Payment.References

/-!
# Whose books a call writes

Each bank keeps its own ledger, and most calls write in one of them at most.

- `Op.writes`: the banks in whose books a call may write. It leaves every other bank as it
  was, however it ends (`Frame`), wherever it starts (`frame_call`);
- `Op.movesReserves`: the calls that may post at the central bank, which are the only ones
  that move reserves (`SameReserves`);
- `books_kept`: both, in every state that any calls lead to.
-/

namespace CoreBanking.Payment

open Ledger (Book PostTransactionRequest transfer)
open Deposit (Register)

namespace Network

variable {Amount : Type}

/-- The banks in whose books a call may write. -/
def Op.writes [Zero Amount] (s : Network Amount) : Op Amount → Set ParticipantID
  | .deposit i _ _ _ => {i}
  | .register i _ => {i}
  | .openCustomerAccount i _ => {i}
  | .initiatePayment req => {req.debtor.participant}
  | .rejectPayment id _ => {i | ∃ p, s.payments.lookup id = some p ∧ i = p.debtor.participant}
  | .returnPayment id _ => {i | ∃ p, s.payments.lookup id = some p ∧
      (i = p.debtor.participant ∨ i = p.creditor.participant)}
  | .settleCycle _ _ id => {i | ∃ c, s.cycles.lookup id = some c ∧
      ((∃ net, c.netPositions.lookup i = some net ∧ net ≠ 0) ∨
        ∃ pid ∈ c.paymentIDs, ∃ p, s.payments.lookup pid = some p ∧
          i = p.creditor.participant)}
  | .registerScheme _ | .addParticipant _ | .createMandate .. | .revokeMandate _
  | .openCycle _ | .closeCycle _ => ∅

/-- The calls that may post at the central bank. -/
def Op.movesReserves : Op Amount → Prop
  | .deposit .. | .settleCycle .. | .returnPayment .. => True
  | _ => False

/-! ## Frames -/

section Frames

variable [AddCommGroup Amount] [LinearOrder Amount] {W : Set ParticipantID} {C : Prop}
  {s₀ s s' : Network Amount} {now : Time} {α : Type}

/-- The banks outside `W` are as they were, and so is the central bank, unless `C`. -/
structure Frame (W : Set ParticipantID) (C : Prop) (s s' : Network Amount) : Prop where
  banks : ∀ i b, s.participants.lookup i = some b → i ∉ W → s'.participants.lookup i = some b
  centralBank : ¬C → s'.centralBank = s.centralBank

namespace Frame

omit [AddCommGroup Amount] [LinearOrder Amount]

theorem refl (s : Network Amount) : Frame W C s s := ⟨fun _ _ hb _ => hb, fun _ => rfl⟩

theorem of_records (h : Frame W C s₀ s) (hbanks : s'.participants = s.participants)
    (hcb : s'.centralBank = s.centralBank) : Frame W C s₀ s' where
  banks := hbanks ▸ h.banks
  centralBank := hcb ▸ h.centralBank

theorem setParticipant (h : Frame W C s₀ s) {i : ParticipantID} (hi : i ∈ W)
    (b : Participant Amount) : Frame W C s₀ (s.setParticipant i b) where
  banks j c hc hj := by
    have hne : j ≠ i := fun heq => hj (heq ▸ hi)
    exact (Finmap.lookup_insert_of_ne _ hne).trans (h.banks j c hc hj)
  centralBank := h.centralBank

theorem setCentralBank (h : Frame W C s₀ s) (hC : C) (cb : Book Amount) :
    Frame W C s₀ (s.setCentralBank cb) where
  banks := h.banks
  centralBank hno := absurd hC hno

end Frame

/-! ### Calls on ledgers -/

omit [AddCommGroup Amount] [LinearOrder Amount] in
/-- What a call on the ledger of a bank leaves. -/
theorem onLedger_frame {I : Network Amount → Prop} (hI : I s) {i : ParticipantID}
    {x : Call (Book Amount) Ledger.Err α}
    (hput : ∀ b, s.participants.lookup i = some b →
      I (s.setParticipant i (b.withLedger (x.final b.ledger)))) :
    Call.Guarantees I (fun _ => True) (onLedger i x) s fun _ s' =>
      ∃ b, s' = s.setParticipant i b := by
  refine .read (.orThrow (fun _ => ⟨hI, trivial⟩) fun b hb => ?_)
  refine (Call.Guarantees.of_final ?_).mono (fun _ hI => hI) ?_
  · rw [Call.final_zoom]
    exact hput b hb
  · rintro a s' - rfl
    exact ⟨_, Call.final_zoom ..⟩

omit [AddCommGroup Amount] [LinearOrder Amount] in
theorem onDeposit_frame {I : Network Amount → Prop} (hI : I s) {i : ParticipantID}
    {x : Call (Register Amount) Deposit.Err α}
    (hput : ∀ b, s.participants.lookup i = some b →
      I (s.setParticipant i (b.withDeposit (x.final b.deposit)))) :
    Call.Guarantees I (fun _ => True) (onDeposit i x) s fun _ _ => True := by
  refine .read (.orThrow (fun _ => ⟨hI, trivial⟩) fun b hb => ?_)
  refine (Call.Guarantees.of_final ?_).mono (fun _ hI => hI) fun _ _ _ _ => trivial
  rw [Call.final_zoom]
  exact hput b hb

omit [AddCommGroup Amount] [LinearOrder Amount] in
theorem onCentralBank_frame {I : Network Amount → Prop} {x : Call (Book Amount) Ledger.Err α}
    (hput : I (s.setCentralBank (x.final s.centralBank))) :
    Call.Guarantees I (fun _ => True) (onCentralBank x) s fun _ s' =>
      ∃ cb, s' = s.setCentralBank cb := by
  refine (Call.Guarantees.of_final ?_).mono (fun _ hI => hI) ?_
  · rw [onCentralBank, Call.final_zoom]
    exact hput
  · rintro a s' - rfl
    exact ⟨_, Call.final_zoom ..⟩

omit [AddCommGroup Amount] [LinearOrder Amount] in
theorem transition_frame {I : Network Amount → Prop} (hI : I s) (p : Payment Amount)
    (target : PaymentStatus) :
    Call.Guarantees I (fun _ => True) (transition p target) s
      fun p' s' => p' = { p with status := target } ∧ s' = s :=
  .require (fun _ => ⟨hI, trivial⟩) fun _ => .pure hI ⟨rfl, rfl⟩

/-! ### Operations -/

/-- The property is one of the books of the banks and the central bank. -/
def OnBooks (I : Network Amount → Prop) : Prop :=
  ∀ {s s'}, I s → s'.participants = s.participants → s'.centralBank = s.centralBank → I s'

/-- From `s` the call leaves alone what `Frame` says, however it ends. -/
abbrev Framed (W : Set ParticipantID) (C : Prop) (x : Call (Network Amount) Err α)
    (s : Network Amount) : Prop :=
  Call.Guarantees (Frame W C s) (fun _ => True) x s fun _ _ => True

theorem frame_deposit (s : Network Amount) (now : Time) (i : ParticipantID)
    (account : Deposit.AccountID) (amount : Amount) (description : String) :
    Framed {i} True (deposit now i account amount description) s := by
  have h : Frame {i} True s s := .refl s
  refine .require (fun _ => ⟨h, trivial⟩) fun _ => .read (.orThrow (fun _ => ⟨h, trivial⟩) ?_)
  refine fun b _ => .ofExcept (fun _ _ => ⟨h, trivial⟩) fun gl _ => ?_
  refine .bind (onLedger_frame h fun c _ => h.setParticipant rfl _) fun _ s' h' _ => ?_
  exact .bind (onCentralBank_frame (h'.setCentralBank trivial _)) fun _ _ h'' _ =>
    .pure h'' trivial

omit [AddCommGroup Amount] [LinearOrder Amount] in
theorem frame_createMandate (s : Network Amount) (now : Time) (debtor creditor : PartyRef)
    (maxAmount : Amount) : Framed W C (createMandate now debtor creditor maxAmount) s := by
  have h : Frame W C s s := .refl s
  refine .read (.ofExcept (fun _ _ => ⟨h, trivial⟩) fun _ _ => ?_)
  exact .ofExcept (fun _ _ => ⟨h, trivial⟩) fun _ _ => .of_ok rfl (h.of_records rfl rfl) trivial

omit [AddCommGroup Amount] [LinearOrder Amount] in
theorem frame_revokeMandate (s : Network Amount) (id : MandateID) :
    Framed W C (revokeMandate id) s := by
  have h : Frame W C s s := .refl s
  refine .read (.orThrow (fun _ => ⟨h, trivial⟩) fun m _ => ?_)
  exact .of_ok rfl (h.of_records rfl rfl) trivial

omit [AddCommGroup Amount] [LinearOrder Amount] in
theorem frame_openCycle (s : Network Amount) (now : Time) (scheme : SchemeID) :
    Framed W C (openCycleFor now scheme) s := by
  have h : Frame W C s s := .refl s
  refine .read (.orThrow (fun _ => ⟨h, trivial⟩) fun _ _ => ?_)
  exact .require (fun _ => ⟨h, trivial⟩) fun _ => .of_ok rfl (h.of_records rfl rfl) trivial

omit [LinearOrder Amount] in
/-- The loop of `CloseCycle` writes to the payments only. -/
theorem frame_closeCycle (s : Network Amount) (now : Time) (id : CycleID) :
    Framed W C (closeCycle now id) s := by
  have h : Frame W C s s := .refl s
  refine .read (.orThrow (fun _ => ⟨h, trivial⟩) fun c _ => ?_)
  refine .require (fun _ => ⟨h, trivial⟩) fun _ => ?_
  have hloop : Call.Guarantees (Frame W C s) (fun _ => True)
      (c.paymentIDs.foldlM clearPayment ∅) s fun _ _ => True := by
    refine .foldlM h trivial fun net pid s' _ h' _ => ?_
    refine .read (.orThrow (fun _ => ⟨h', trivial⟩) fun p _ => ?_)
    refine .bind (transition_frame h' p .cleared) ?_
    rintro q t - ⟨-, rfl⟩
    exact .of_ok rfl (h'.of_records rfl rfl) trivial
  exact .bind hloop fun net s' h' _ => .of_ok rfl (h'.of_records rfl rfl) trivial

/-- The payments keep the creditors that they have in `s`. -/
def SameCreditors (s s' : Network Amount) : Prop :=
  ∀ pid p', s'.payments.lookup pid = some p' →
    ∃ p, s.payments.lookup pid = some p ∧ p'.creditor = p.creditor

/-- A creditor leg is posted at the bank of the creditor. -/
theorem frame_postCreditorLeg {t : Network Amount} (h : Frame W C s t) (hsame : SameCreditors s t)
    {pid : PaymentID} (hpid : ∀ p, s.payments.lookup pid = some p → p.creditor.participant ∈ W) :
    Call.Guarantees (fun t' => Frame W C s t' ∧ SameCreditors s t') (fun _ => True)
      (postCreditorLeg now pid) t fun _ _ => True := by
  have hI : Frame W C s t ∧ SameCreditors s t := ⟨h, hsame⟩
  refine .read (.orThrow (fun _ => ⟨hI, trivial⟩) fun p hp => ?_)
  refine .orThrow (fun _ => ⟨hI, trivial⟩) fun creditor _ => ?_
  refine .ofExcept (fun _ _ => ⟨hI, trivial⟩) fun gl _ => ?_
  obtain ⟨p₀, hp₀, hcreditor⟩ := hsame pid p hp
  have hW : p.creditor.participant ∈ W := hcreditor ▸ hpid p₀ hp₀
  refine .bind (onLedger_frame hI fun b _ => ⟨h.setParticipant hW _, hsame⟩) ?_
  rintro tx t' ⟨h', hsame'⟩ -
  have hstored : ∀ t', SameCreditors s t' → ∀ q : Payment Amount, q.creditor = p.creditor →
      SameCreditors s (t'.setPayment pid q) := fun t' ht' q hq =>
    Finmap.forall_lookup_insert ht' ⟨p₀, hp₀, hq.trans hcreditor⟩
  have hleg := hstored t' hsame' { p with creditorLegTx := some tx.id } rfl
  refine .write (.bind (transition_frame ⟨h'.of_records rfl rfl, hleg⟩ _ _) ?_)
  rintro q t'' - ⟨rfl, rfl⟩
  exact .of_ok rfl ⟨h'.of_records rfl rfl, hstored _ hleg _ rfl⟩ trivial

/-- Settling the positions writes in the books of the banks that have one. -/
theorem frame_settlePositions (s : Network Amount) (now : Time)
    (order₁ order₂ : MapOrder ParticipantID Amount) {c : ClearingCycle Amount}
    (hW : ∀ i net, c.netPositions.lookup i = some net → net ≠ 0 → i ∈ W) :
    Call.Guarantees (fun t => Frame W True s t ∧ t.payments = s.payments) (fun _ => True)
      (settlePositions now order₁ order₂ c) s fun _ _ => True := by
  have hI : Frame W True s s ∧ s.payments = s.payments := ⟨.refl s, rfl⟩
  refine .read (.ofExcept (fun _ _ => ⟨hI, trivial⟩) fun entries _ => ?_)
  split
  · exact .pure hI trivial
  refine .bind (onCentralBank_frame ⟨hI.1.setCentralBank trivial _, rfl⟩) fun tx t ht _ => ?_
  refine .bind (P := fun _ _ => True) (.forM ht fun d t hd ht => ?_) fun _ _ ht _ =>
    .pure ht trivial
  rw [mirrorPosition]
  split
  · exact .pure ht trivial
  · rename_i hnet
    refine .read (.orThrow (fun _ => ⟨ht, trivial⟩) fun p _ => ?_)
    have hd' := hW d.1 d.2 (order₂.mem_toList.mp hd) hnet
    exact .bind (onLedger_frame ht fun b _ => ⟨ht.1.setParticipant hd' _, ht.2⟩)
      fun _ _ ht _ => .pure ht trivial

theorem frame_settleCycle (s : Network Amount) (now : Time)
    (order₁ order₂ : MapOrder ParticipantID Amount) (id : CycleID) :
    Framed (Op.writes s (.settleCycle order₁ order₂ id)) True
      (settleCycle now order₁ order₂ id) s := by
  have h : Frame (Op.writes s (.settleCycle order₁ order₂ id)) True s s := .refl s
  refine .read (.orThrow (fun _ => ⟨h, trivial⟩) fun c hc => ?_)
  refine .require (fun _ => ⟨h, trivial⟩) fun _ => ?_
  have hpositions := frame_settlePositions (W := Op.writes s (.settleCycle order₁ order₂ id)) s
    now order₁ order₂ fun i net hi hnet => ⟨c, hc, .inl ⟨net, hi, hnet⟩⟩
  refine .bind (hpositions.mono (fun _ ht => ht.1) fun _ _ ht _ => ht.2) fun tx t h' hpayments => ?_
  have hsame : SameCreditors s t := fun pid p hp => ⟨p, hpayments ▸ hp, rfl⟩
  have hpaid : Call.Guarantees
      (fun t' => Frame (Op.writes s (.settleCycle order₁ order₂ id)) True s t' ∧
        SameCreditors s t') (fun _ => True)
      (c.paymentIDs.forM (postCreditorLeg now)) t fun _ _ => True :=
    .forM ⟨h', hsame⟩ fun pid t' hpid ht' => frame_postCreditorLeg ht'.1 ht'.2
      fun p hp => ⟨c, hc, .inr ⟨pid, hpid, p, hp, rfl⟩⟩
  refine .bind (hpaid.mono (fun _ ht => ht.1) fun _ _ _ _ => trivial) fun _ t' h'' _ => ?_
  exact .of_ok rfl (h''.of_records rfl rfl) trivial

/-- What `InitiatePayment` leaves of a property of the books, once the debtor leg does. -/
theorem initiatePayment_books {I : Network Amount → Prop} (hI : OnBooks I) (h : I s)
    (now : Time) (req : InitiatePaymentRequest Amount)
    (hleg : ∀ b gl leg, s.participants.lookup req.debtor.participant = some b →
      b.glAccount req.debtor.account = .ok gl →
      leg.entries = transfer gl b.suspenseAccount req.amount →
      I (s.setParticipant req.debtor.participant
        (b.withLedger (Book.exec (now, .postTransaction leg) b.ledger)))) :
    Call.Guarantees I (fun _ => True) (initiatePayment now req) s fun _ _ => True := by
  refine .read (.orThrow (fun _ => ⟨h, trivial⟩) fun scheme _ => ?_)
  refine .require (fun _ => ⟨h, trivial⟩) fun _ => ?_
  refine .ofExcept (fun _ _ => ⟨h, trivial⟩) fun _ _ => ?_
  refine .ofExcept (fun _ _ => ⟨h, trivial⟩) fun _ _ => ?_
  refine .require (fun _ => ⟨h, trivial⟩) fun _ => ?_
  refine .orThrow (fun _ => ⟨h, trivial⟩) fun cycleID _ => ?_
  have hd : I { s with idCounter := s.idCounter + 1 } := hI h rfl rfl
  refine nextID_guarantees (.read (.ofExcept (fun _ _ => ⟨hd, trivial⟩) fun _ _ => ?_))
  refine .orThrow (fun _ => ⟨hd, trivial⟩) fun debtor hdebtor => ?_
  refine .ofExcept (fun _ _ => ⟨hd, trivial⟩) fun gl hgl => ?_
  refine .bind (onLedger_frame hd fun b hb => ?_) fun tx t ht _ => ?_
  · cases hdebtor.symm.trans hb
    rw [← Call.final_discard]
    let leg := debitRequest now (s.initialPayment now req scheme cycleID) debtor gl
    exact hI (hleg debtor gl leg hb hgl rfl) rfl rfl
  refine .bind (transition_frame ht _ .accepted) ?_
  rintro p t - ⟨-, rfl⟩
  refine .read (.orThrow (fun _ => ⟨ht, trivial⟩) fun cycle _ => ?_)
  exact .of_ok rfl (hI ht rfl rfl) trivial

theorem frame_initiatePayment (s : Network Amount) (now : Time)
    (req : InitiatePaymentRequest Amount) :
    Framed {req.debtor.participant} C (initiatePayment now req) s :=
  initiatePayment_books Frame.of_records (.refl s) now req fun _ _ _ _ _ _ =>
    (Frame.refl s).setParticipant (Set.mem_singleton _) _

/-- What `RejectPayment` leaves of one, once the reversal of the debtor leg does. -/
theorem rejectPayment_books {I : Network Amount → Prop} (hI : OnBooks I) (h : I s)
    (now : Time) (id : PaymentID) (reason : String)
    (hleg : ∀ p b txID reversal, s.payments.lookup id = some p →
      s.participants.lookup p.debtor.participant = some b → p.debtorLegTx = some txID →
      I (s.setParticipant p.debtor.participant
        (b.withLedger (Book.exec (now, .reverseTransaction txID reversal) b.ledger)))) :
    Call.Guarantees I (fun _ => True) (rejectPayment now id reason) s fun _ _ => True := by
  refine .read (.orThrow (fun _ => ⟨h, trivial⟩) fun p hp => ?_)
  refine .require (fun _ => ⟨h, trivial⟩) fun _ => ?_
  have hreversed : Call.Guarantees I (fun _ => True) (reverseDebtorLeg now p reason) s
      fun _ _ => True := by
    rw [reverseDebtorLeg]
    split
    · exact .pure h trivial
    · rename_i txID htxID
      refine .bind (onLedger_frame h fun b hb => ?_) fun _ _ ht _ => .pure ht trivial
      rw [← Call.final_discard]
      exact hleg p b txID _ hp hb htxID
  refine .bind hreversed fun _ t ht _ => ?_
  obtain ⟨hbanks, hcb⟩ := t.books_removeFromCycle p
  have hremoved := hI ht hbanks hcb
  refine .write (.bind (transition_frame hremoved p .rejected) ?_)
  rintro q t' - ⟨-, rfl⟩
  exact .of_ok rfl (hI hremoved rfl rfl) trivial

theorem frame_rejectPayment (s : Network Amount) (now : Time) (id : PaymentID)
    (reason : String) :
    Framed (Op.writes s (.rejectPayment id reason)) C (rejectPayment now id reason) s := by
  refine rejectPayment_books Frame.of_records (.refl s) now id reason ?_
  intro p b txID reversal hp hb htxID
  have hwrites : p.debtor.participant ∈ Op.writes s (.rejectPayment id reason) := ⟨p, hp, rfl⟩
  exact (Frame.refl s).setParticipant hwrites _

theorem frame_returnPayment (s : Network Amount) (now : Time) (id : PaymentID)
    (reason : String) :
    Framed (Op.writes s (.returnPayment id reason)) True (returnPayment now id reason) s := by
  have h : Frame (Op.writes s (.returnPayment id reason)) True s s := .refl s
  refine .read (.orThrow (fun _ => ⟨h, trivial⟩) fun p hp => ?_)
  refine .require (fun _ => ⟨h, trivial⟩) fun _ => ?_
  refine .require (fun _ => ⟨h, trivial⟩) fun _ => ?_
  refine .orThrow (fun _ => ⟨h, trivial⟩) fun debtor _ => ?_
  refine .orThrow (fun _ => ⟨h, trivial⟩) fun creditor _ => ?_
  refine .ofExcept (fun _ _ => ⟨h, trivial⟩) fun debtorGL _ => ?_
  refine .ofExcept (fun _ _ => ⟨h, trivial⟩) fun creditorGL _ => ?_
  refine .bind (onLedger_frame h fun b _ => h.setParticipant ⟨p, hp, .inl rfl⟩ _)
    fun _ t₁ h₁ _ => ?_
  refine .bind (onLedger_frame h₁ fun b _ => h₁.setParticipant ⟨p, hp, .inr rfl⟩ _)
    fun _ t₂ h₂ _ => ?_
  refine .bind (onCentralBank_frame (h₂.setCentralBank trivial _)) fun _ t₃ h₃ _ => ?_
  refine .bind (transition_frame h₃ p .returned) ?_
  rintro q t₄ - ⟨-, rfl⟩
  exact .of_ok rfl (h₃.of_records rfl rfl) trivial

/-- A new bank has an id of its own. -/
theorem frame_addParticipant (h : s.Sound) (now : Time) (name : String) :
    Framed W True (addParticipant now name) s := by
  have hI : Frame W True s s := .refl s
  obtain ⟨customers, suspense, reserve, bank, hchart, -⟩ := bankChart_eq Amount now name
  rw [addParticipant, hchart]
  refine .read (.bind (onCentralBank_frame (hI.setCentralBank trivial _)) ?_)
  rintro acct t ht ⟨cb, rfl⟩
  have hfresh : s.participants.lookup ⟨ident "bank" (s.idCounter + 1)⟩ = none :=
    h.ids.participants.keys.fresh (fun _ _ => ParticipantID.mk.inj) (Nat.lt_succ_self _)
  refine nextID_guarantees (.of_ok rfl ⟨fun i b hb _ => ?_, fun hno => absurd trivial hno⟩ trivial)
  exact (Finmap.lookup_insert_fresh hfresh).mpr (.inr hb)

/-- Whatever its arguments and however it ends, a call writes only in the books that it may
write in. -/
theorem frame_call (h : s.Sound) (now : Time) (op : Op Amount) :
    Frame (op.writes s) (op.movesReserves ∨ ∃ name, op = .addParticipant name) s
      ((call now op).final s) := by
  have hI : ∀ {W C}, Frame W C s s := .refl s
  have hmono : ∀ {W : Set ParticipantID} {C : Prop} {t : Network Amount}, C →
      Frame W True s t → Frame W C s t := fun hC ht => ⟨ht.banks, fun hno => absurd hC hno⟩
  cases op with
  | registerScheme sc => exact hI.of_records rfl rfl
  | addParticipant name =>
    exact hmono (.inr ⟨name, rfl⟩) (frame_addParticipant h now name).discard.final
  | openCustomerAccount i name =>
    refine Call.Guarantees.final (E := fun _ => True) (P := fun _ _ => True)
      (.read (.orThrow (fun _ => ⟨hI, trivial⟩) fun b _ => ?_))
    exact onDeposit_frame hI fun c _ => hI.setParticipant (Set.mem_singleton i) _
  | register i op =>
    exact (onDeposit_frame hI fun c _ => hI.setParticipant (Set.mem_singleton i) _).final
  | deposit i account amount description =>
    exact hmono (.inl trivial) (frame_deposit s now i account amount description).final
  | createMandate debtor creditor maxAmount =>
    exact (frame_createMandate s now debtor creditor maxAmount).discard.final
  | revokeMandate id => exact (frame_revokeMandate s id).final
  | openCycle scheme => exact (frame_openCycle s now scheme).discard.final
  | closeCycle id => exact (frame_closeCycle s now id).discard.final
  | settleCycle order₁ order₂ id =>
    exact hmono (.inl trivial) (frame_settleCycle s now order₁ order₂ id).discard.final
  | initiatePayment req => exact (frame_initiatePayment s now req).discard.final
  | rejectPayment id reason => exact (frame_rejectPayment s now id reason).discard.final
  | returnPayment id reason =>
    exact hmono (.inl trivial) (frame_returnPayment s now id reason).discard.final

end Frames

/-! ## The central bank and the reserves -/

section Reserves

variable [AddCommGroup Amount] [LinearOrder Amount] {s s' : Network Amount}

/-- Opening the account of a new bank changes no balance at the central bank. -/
theorem cbBalance_addParticipant (h : s.Sound) (now : Time) (name : String)
    (a : Ledger.AccountID) :
    ((addParticipant now name).final s).centralBank.balance a = s.centralBank.balance a := by
  let opened : Book.Op Amount :=
    .createAccount s.cbReserveSubledger ("Reserve: " ++ name) .liability
  obtain ⟨customers, suspense, reserve, bank, hchart, -⟩ := bankChart_eq Amount now name
  have hopened : Call.Guarantees
      (fun t : Network Amount => t.centralBank = Book.exec (now, opened) s.centralBank)
      (fun _ => True) (addParticipant now name) s fun _ _ => True := by
    rw [addParticipant, hchart]
    refine .read (.bind (onCentralBank_frame (Call.final_discard _ _).symm) ?_)
    rintro acct t ht -
    exact nextID_guarantees (.of_ok rfl ht trivial)
  rw [hopened.final]
  exact h.centralBank_wf.balance_createAccount now _ _ _ a

/-- The reserve of the bank is the same, in the same account. -/
def SameReserve (b b' : Participant Amount) : Prop :=
  b'.reserveAccount = b.reserveAccount ∧
    b'.ledger.bookBalance b'.reserveAccount = b.ledger.bookBalance b.reserveAccount

/-- So is that of every bank. -/
def SameReserves (s s' : Network Amount) : Prop :=
  Finmap.Retains SameReserve s.participants s'.participants

omit [LinearOrder Amount] in
theorem SameReserves.refl (s : Network Amount) : SameReserves s s :=
  fun _ b hb => ⟨b, hb, rfl, rfl⟩

/-- A posting on other accounts of the bank. -/
theorem SameReserves.post (h : s.Sound) {i : ParticipantID} {b : Participant Amount}
    (hb : s.participants.lookup i = some b) (now : Time) (op : Book.Op Amount)
    (hposted : ∀ normal, Ledger.effect normal b.reserveAccount (op.posted b.ledger) = 0) :
    SameReserves s (s.setParticipant i (b.withLedger (Book.exec (now, op) b.ledger))) := by
  have hchart := (h.banks i b hb).chart
  obtain ⟨acct, hacct, -⟩ := hchart.reserve
  have hkept := (Book.exec_change now op b.ledger).bookBalance_kept hchart.ledger hacct hposted
  exact .update (fun _ => ⟨rfl, rfl⟩) hb ⟨rfl, hkept⟩

/-- A new account of a customer. -/
theorem SameReserves.openAccount (h : s.Sound) {i : ParticipantID} {b : Participant Amount}
    (hb : s.participants.lookup i = some b) (now : Time) (subledger : Ledger.SubledgerID)
    (name : String) (limit : Amount) :
    SameReserves s (s.setParticipant i (b.withDeposit
      (Register.exec (now, .register (.openAccount subledger name limit)) b.deposit))) := by
  let step : Time × Register.Step Amount := (now, .register (.openAccount subledger name limit))
  have hsound := h.banks i b hb
  obtain ⟨acct, hacct, -⟩ := hsound.chart.reserve
  have hacct' : (Register.exec step b.deposit).book.accounts.lookup b.reserveAccount
      = some acct := by
    obtain ⟨_, hkept, rfl⟩ := (hsound.retains_exec step).deposit.book.accounts _ acct hacct
    exact hkept
  have htransactions : (Register.exec step b.deposit).book.transactions
      = b.deposit.book.transactions := by
    rcases Register.exec_register now (.openAccount subledger name limit) b.deposit with
      heq | ht
    · exact congrArg (fun r => r.book.transactions) heq
    · exact ht.change.transactions_eq (by simp)
  refine .update (fun _ => ⟨rfl, rfl⟩) hb ⟨rfl, ?_⟩
  show (Register.exec step b.deposit).book.bookBalance b.reserveAccount
    = b.ledger.bookBalance b.reserveAccount
  rw [Book.bookBalance_of_lookup hacct', Book.bookBalance_of_lookup hacct,
    Book.balance_congr hacct hacct' htransactions]

omit [LinearOrder Amount] in
theorem SameReserves.onBooks (s : Network Amount) : OnBooks (SameReserves s) :=
  fun h hbanks _ => by rwa [SameReserves, hbanks]

/-- The debtor leg is between the account of the debtor and the suspense. -/
theorem sameReserves_initiatePayment (h : s.Sound) (now : Time)
    (req : InitiatePaymentRequest Amount) :
    Call.Guarantees (SameReserves s) (fun _ => True) (initiatePayment now req) s
      fun _ _ => True := by
  refine initiatePayment_books (.onBooks s) (.refl s) now req fun b gl leg hb hgl hentries => ?_
  have hchart := (h.banks _ b hb).chart
  rw [glAccount_eq] at hgl
  split at hgl
  · cases hgl
  · rename_i a ha
    cases hgl
    refine SameReserves.post h hb now (.postTransaction leg) fun normal => ?_
    rw [Book.Op.posted, hentries]
    refine Ledger.effect_eq_zero fun e he => ?_
    rcases List.mem_pair.mp he with rfl | rfl
    · exact hchart.gl_ne_reserve ha
    · exact hchart.suspense_ne_reserve

/-- So is its reversal. -/
theorem sameReserves_rejectPayment (h : s.Sound) (now : Time) (id : PaymentID)
    (reason : String) :
    Call.Guarantees (SameReserves s) (fun _ => True) (rejectPayment now id reason) s
      fun _ _ => True := by
  refine rejectPayment_books (.onBooks s) (.refl s) now id reason ?_
  intro p b txID reversal hp hb htxID
  obtain ⟨b', a, txID', tx, hparty, hleg, htx, hmoves⟩ := (h.refers.payments id p hp).leg
  cases hparty.bank.symm.trans hb
  cases hleg.symm.trans htxID
  have hchart := (h.banks _ b hb).chart
  refine SameReserves.post h hb now (.reverseTransaction txID reversal) fun normal => ?_
  rw [Book.Op.posted, htx, Option.map_some, Option.getD_some, hmoves.effect_reversed]
  refine Ledger.effect_eq_zero fun e he => ?_
  rcases List.mem_pair.mp he with rfl | rfl
  · exact hchart.suspense_ne_reserve
  · exact hchart.gl_ne_reserve hparty.account

/-- Only a deposit, a settlement, a return, or a call on a register moves reserves. -/
theorem sameReserves_call (h : s.Sound) (now : Time) {op : Op Amount} (hop : ¬op.movesReserves)
    (hregister : ∀ i rop, op ≠ .register i rop) : SameReserves s ((call now op).final s) := by
  have hframe := frame_call h now op
  -- a call that writes in no books leaves all banks as they are
  have hnone : op.writes s = ∅ → SameReserves s ((call now op).final s) := fun hwrites i b hb =>
    ⟨b, hframe.banks i b hb (hwrites ▸ Set.notMem_empty i), rfl, rfl⟩
  cases op with
  | openCustomerAccount i name =>
    refine Call.Guarantees.final (E := fun _ => True) (P := fun _ _ => True)
      (.read (.orThrow (fun _ => ⟨.refl s, trivial⟩) fun b hb => ?_))
    refine onDeposit_frame (.refl s) fun c hc => ?_
    cases hb.symm.trans hc
    exact SameReserves.openAccount h hb now b.customerSubledger name 0
  | initiatePayment req => exact (sameReserves_initiatePayment h now req).discard.final
  | rejectPayment id reason => exact (sameReserves_rejectPayment h now id reason).discard.final
  | register i op => exact absurd rfl (hregister i op)
  | deposit | settleCycle | returnPayment => exact absurd trivial hop
  | _ => exact hnone rfl

end Reserves

/-- **Banks do not write in each other's books.** Whatever calls have been made on the network,
the deposit layers and the ledgers, and whatever the arguments of a call and however it ends,
it leaves every bank as it was in whose books it does not write. Only a deposit, a settlement or
a return changes a balance at the central bank or the reserve of a bank, and apart from a new
account nothing else is written at the central bank. -/
theorem books_kept [AddCommGroup Amount] [LinearOrder Amount] (start : Time)
    (steps : List (Time × AnyOp Amount)) (now : Time) (op : Op Amount) :
    let s := anyReached start steps
    let s' := (call now op).final s
    (∀ i b, s.participants.lookup i = some b → i ∉ op.writes s →
      s'.participants.lookup i = some b) ∧
    (¬op.movesReserves → (∀ name, op ≠ .addParticipant name) →
      s'.centralBank = s.centralBank) ∧
    (¬op.movesReserves → ∀ a, s'.centralBank.balance a = s.centralBank.balance a) ∧
    (¬op.movesReserves → (∀ i rop, op ≠ .register i rop) →
      ∀ i b, s.participants.lookup i = some b → ∃ b', s'.participants.lookup i = some b' ∧
        b'.reserveAccount = b.reserveAccount ∧
        b'.ledger.bookBalance b'.reserveAccount = b.ledger.bookBalance b.reserveAccount) := by
  intro s s'
  have h : s.Sound := sound_anyReached start steps
  have hframe := frame_call h now op
  have hcentralBank : ¬op.movesReserves → (∀ name, op ≠ .addParticipant name) →
      s'.centralBank = s.centralBank := fun hop hadd =>
    hframe.centralBank fun hwrites => hwrites.elim hop fun ⟨name, hname⟩ => hadd name hname
  refine ⟨hframe.banks, hcentralBank, fun hop a => ?_, sameReserves_call h now⟩
  by_cases hadd : ∃ name, op = .addParticipant name
  · obtain ⟨name, rfl⟩ := hadd
    show (((addParticipant now name).discard).final s).centralBank.balance a = _
    rw [Call.final_discard]
    exact cbBalance_addParticipant h now name a
  · rw [hcentralBank hop fun name hname => hadd ⟨name, hname⟩]

end Network

end CoreBanking.Payment
