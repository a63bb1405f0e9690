import CoreBanking.Base.Pool
import CoreBanking.Concurrent.Network

/-!
# The order of locks

Every call takes the lock of the network first, then that of a register, then that of a
ledger, and never one that it holds already (`Lock.rank`).
-/

namespace CoreBanking.Concurrent

open Ledger (Book newBook)
open Deposit (Register)
open Payment
open Prog (Ascends)

variable {Amount α β γ : Type} {n : ℕ}

/-! ## Locks -/

/-- What is taken under a lock is above it. -/
theorem ascends_network {m : Mode} {p : Program Amount α} (hp : p.Ascends Lock.rank 1) :
    Ascends Lock.rank 0 (.withLock .network m p : Program Amount α) := by
  have hrank : 0 ≤ Lock.rank .network := Nat.le_refl 0
  exact .withLock hrank m hp

@[inherit_doc ascends_network]
theorem ascends_register (hn : n ≤ 1) {i : ParticipantID} {m : Mode} {p : Program Amount α}
    (hp : p.Ascends Lock.rank 2) :
    Ascends Lock.rank n (.withLock (.register i) m p : Program Amount α) := by
  have hrank : n ≤ Lock.rank (.register i) := hn
  exact .withLock hrank m hp

theorem ascends_book (hn : n ≤ 2) (i : ParticipantID) (m : Mode)
    (x : Time → Call (Network Amount) Err α) :
    Ascends Lock.rank n (.withLock (.book i) m (.critical x) : Program Amount α) := by
  have hrank : n ≤ Lock.rank (.book i) := hn
  exact .withLock hrank m (.critical x)

theorem ascends_onLedger (hn : n ≤ 2) (i : ParticipantID) (m : Mode)
    (x : Time → Call (Book Amount) Ledger.Err α) : (onLedger i m x).Ascends Lock.rank n :=
  ascends_book hn i m _

theorem ascends_onCentralBank (hn : n ≤ 2) (m : Mode)
    (x : Time → Call (Book Amount) Ledger.Err α) :
    (onCentralBank m x).Ascends Lock.rank n := by
  have hrank : n ≤ Lock.rank .centralBank := hn
  exact .withLock hrank m (.critical _)

theorem ascends_onRegister (hn : n ≤ 1) (i : ParticipantID) (m : Mode)
    (x : Time → Call (Register Amount) Deposit.Err α) :
    (onRegister i m x).Ascends Lock.rank n :=
  ascends_register hn (.critical _)

/-- The ledger is accessed under the lock of the register. -/
theorem ascends_program (hn : n ≤ 1) (x : Sections Amount γ β α) (i : ParticipantID)
    (m m' : Mode) : (x.program i m m').Ascends Lock.rank n := by
  refine ascends_register hn (.bind .clock fun _ => .bind (.critical _) fun _ => ?_)
  exact .bind (ascends_book le_rfl i m' _) fun _ => .critical _

/-! ## Reading -/

theorem ascends_participant (i : ParticipantID) (missing : Err) :
    (participant i missing : Program Amount _).Ascends Lock.rank n :=
  .critical _

theorem ascends_lookAt (hn : n ≤ 1) (i : ParticipantID) (f : Network Amount → Except Err α) :
    (lookAt i f).Ascends Lock.rank n :=
  ascends_register hn (.critical _)

theorem ascends_checkParty (hn : n ≤ 1) (ref : PartyRef) :
    (checkParty ref : Program Amount Unit).Ascends Lock.rank n :=
  .bind (ascends_participant _ _) fun _ => ascends_lookAt hn _ _

/-! ## Operations of the network -/

theorem ascends_query (f : Network Amount → Except Err α) : (query f).Ascends Lock.rank 0 :=
  ascends_network (.critical _)

theorem ascends_addParticipant (name : String) :
    (addParticipant name : Program Amount _).Ascends Lock.rank 0 := by
  refine ascends_network (.bind .clock fun now => ?_)
  cases bankChart now name (newBook Amount) with
  | error e b => exact .fail _
  | ok ids b =>
    refine .bind (.critical _) fun _ => ?_
    exact .bind (ascends_onCentralBank (by decide) _ _) fun _ => .critical _

theorem ascends_createMandate (debtor creditor : PartyRef) (maxAmount : Amount) :
    (createMandate debtor creditor maxAmount).Ascends Lock.rank 0 :=
  ascends_network (.bind (ascends_checkParty le_rfl _) fun _ =>
    .bind (ascends_checkParty le_rfl _) fun _ => .critical _)

theorem ascends_revokeMandate (id : MandateID) :
    (revokeMandate id : Program Amount Unit).Ascends Lock.rank 0 :=
  ascends_network (.critical _)

theorem ascends_openCycleFor (scheme : SchemeID) :
    (openCycleFor scheme : Program Amount _).Ascends Lock.rank 0 :=
  ascends_network (.critical _)

section

variable [AddCommGroup Amount]

theorem ascends_closeCycle (id : CycleID) :
    (closeCycle id : Program Amount _).Ascends Lock.rank 0 :=
  ascends_network (.critical _)

theorem ascends_reserveBalance (i : ParticipantID) :
    (reserveBalance i : Program Amount Amount).Ascends Lock.rank 0 :=
  ascends_network (.bind (.critical _) fun _ => ascends_onCentralBank (by decide) _ _)

variable [LinearOrder Amount]

theorem ascends_deposit (i : ParticipantID) (account : Deposit.AccountID) (amount : Amount)
    (description : String) : (deposit i account amount description).Ascends Lock.rank 0 := by
  refine ascends_network (.bind (.critical _) fun _ => ?_)
  refine .bind (ascends_lookAt le_rfl _ _) fun _ => ?_
  refine .bind (ascends_onLedger (by decide) _ _ _) fun _ => ?_
  exact .bind (ascends_onCentralBank (by decide) _ _) fun _ => .pure _

theorem ascends_mirrorPosition (c : ClearingCycle Amount) (d : ParticipantID × Amount) :
    (mirrorPosition c d).Ascends Lock.rank 1 := by
  rw [mirrorPosition]
  split
  · exact .pure _
  · refine .bind (ascends_participant _ _) fun _ => ?_
    exact .bind (ascends_onLedger (by decide) _ _ _) fun _ => .pure _

theorem ascends_postCreditorLeg (pid : PaymentID) :
    (postCreditorLeg pid : Program Amount Unit).Ascends Lock.rank 1 := by
  refine .bind (.critical _) fun _ => .bind (ascends_participant _ _) fun _ => ?_
  refine .bind (ascends_lookAt le_rfl _ _) fun _ => ?_
  exact .bind (ascends_onLedger (by decide) _ _ _) fun _ => .critical _

theorem ascends_settleCycle (order₁ order₂ : MapOrder ParticipantID Amount) (id : CycleID) :
    (settleCycle order₁ order₂ id).Ascends Lock.rank 0 := by
  refine ascends_network (.bind (.critical _) fun c => ?_)
  refine .bind ?_ fun _ => .bind (.forM ascends_postCreditorLeg _) fun _ => .critical _
  refine .bind (.critical _) fun _ => ?_
  split
  · exact .pure _
  · refine .bind (ascends_onCentralBank (by decide) _ _) fun _ => ?_
    exact .bind (.forM (ascends_mirrorPosition c) _) fun _ => .pure _

theorem ascends_validate (sc : Scheme) (p : Payment Amount) :
    (validate sc p).Ascends Lock.rank 1 := by
  have hfunds : (validateFunds p).Ascends Lock.rank 1 :=
    .bind (ascends_checkParty le_rfl _) fun _ => ascends_program le_rfl _ _ _ _
  cases sc with
  | sct => exact hfunds
  | sdd => exact .bind (.critical _) fun _ => hfunds

theorem ascends_initiatePayment (req : InitiatePaymentRequest Amount) :
    (initiatePayment req).Ascends Lock.rank 0 := by
  refine ascends_network (.bind (.critical _) fun _ => ?_)
  refine .bind (ascends_checkParty le_rfl _) fun _ => ?_
  refine .bind (ascends_checkParty le_rfl _) fun _ => .bind (.critical _) fun _ => ?_
  refine .bind (ascends_validate _ _) fun _ => .bind (ascends_participant _ _) fun _ => ?_
  refine .bind (ascends_lookAt le_rfl _ _) fun _ => ?_
  exact .bind (ascends_onLedger (by decide) _ _ _) fun _ => .critical _

omit [AddCommGroup Amount] [LinearOrder Amount] in
theorem ascends_rejectPayment (id : PaymentID) (reason : String) :
    (rejectPayment id reason : Program Amount _).Ascends Lock.rank 0 := by
  refine ascends_network (.bind (.critical _) fun p => .bind ?_ fun _ => .critical _)
  rw [reverseDebtorLeg]
  split
  · exact .pure _
  · exact .bind (ascends_onLedger (by decide) _ _ _) fun _ => .pure _

theorem ascends_returnPayment (id : PaymentID) (reason : String) :
    (returnPayment id reason : Program Amount _).Ascends Lock.rank 0 := by
  refine ascends_network (.bind (.critical _) fun _ => ?_)
  refine .bind (ascends_participant _ _) fun _ => .bind (ascends_participant _ _) fun _ => ?_
  refine .bind (ascends_lookAt le_rfl _ _) fun _ => ?_
  refine .bind (ascends_lookAt le_rfl _ _) fun _ => ?_
  refine .bind (ascends_onLedger (by decide) _ _ _) fun _ => ?_
  refine .bind (ascends_onLedger (by decide) _ _ _) fun _ => ?_
  exact .bind (ascends_onCentralBank (by decide) _ _) fun _ => .critical _

end

end CoreBanking.Concurrent
