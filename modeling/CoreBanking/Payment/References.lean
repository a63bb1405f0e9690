import CoreBanking.Payment.ClientKeys
import CoreBanking.Payment.Updates

/-!
# References within a network

An operation of the network reads through the records that it has found: the parties of a
payment, the payments of a cycle, the banks of its net positions. All of them are there
(`Network.Sound`), at every moment of every operation, as all that happens are updates.

- `Network.Safe`: a call makes updates only, and does not read through a missing entry;
  there is a lemma for each operation;
- `anyReached`: the network after any calls, those of clients on the ledgers of banks and
  those on the ledger of the central bank among them;
- `no_lookup_misses`: what follows for books, registers and networks.
-/

namespace CoreBanking.Payment

open Ledger (Book newBook)
open Deposit (Register)

/-- The run-time panic of reading through a missing map entry, in any layer. -/
def Err.Panics : Err → Prop
  | .nilDereference => True
  | .ledger e => e.Panics
  | .deposit e => e.Panics
  | _ => False

variable {Amount : Type}

theorem Participant.glAccount_not_panics {b : Participant Amount} {id : Deposit.AccountID}
    {e : Err} (he : b.glAccount id = .error e) : ¬e.Panics := by
  rw [Network.glAccount_eq] at he
  split at he <;> cases he
  exact not_false

namespace Network

theorem checkParty_not_panics {s : Network Amount} {ref : PartyRef} {e : Err}
    (he : s.checkParty ref = .error e) : ¬e.Panics := by
  rw [checkParty] at he
  split at he
  · cases he
    exact not_false
  · split at he <;> cases he
    exact not_false

variable [AddCommGroup Amount] [LinearOrder Amount] {s₀ s : Network Amount} {now : Time}
  {α : Type}

/-- `validateFunds` reads the balance of an account whose bank is sound. -/
theorem Sound.validateFunds_not_panics (h : s.Sound) {p : Payment Amount} {e : Err}
    (he : validateFunds s now p = .error e) : ¬e.Panics := by
  rw [validateFunds] at he
  split at he
  · cases he
    exact not_false
  · rename_i b hb
    split at he
    · cases he
      exact not_false
    · cases hcheck : b.deposit.checkWithdrawal now p.debtor.account p.amount with
      | ok u =>
        rw [hcheck] at he
        cases he
      | error e' =>
        rw [hcheck] at he
        cases he
        exact (h.banks _ b hb).linked.checkWithdrawal_not_panics hcheck

theorem validateMandate_not_panics {p : Payment Amount} {e : Err}
    (he : validateMandate s p = .error e) : ¬e.Panics := by
  rw [validateMandate] at he
  split at he
  · cases he
    exact not_false
  split at he
  · cases he
    exact not_false
  repeat' split at he
  all_goals cases he
  all_goals exact not_false

theorem Sound.validate_not_panics (h : s.Sound) {scheme : Scheme} {p : Payment Amount} {e : Err}
    (he : scheme.validate s now p = .error e) : ¬e.Panics := by
  cases scheme with
  | sct => exact h.validateFunds_not_panics he
  | sdd =>
    rcases Call.except_bind_eq_error.mp he with he | ⟨-, -, he⟩
    · exact validateMandate_not_panics he
    · exact h.validateFunds_not_panics he

/-! ## Calls on ledgers -/

/-- From `s` the call makes updates, which follow those since `s₀`, and does not panic. -/
abbrev Safe (s₀ : Network Amount) (x : Call (Network Amount) Err α) (s : Network Amount)
    (Q : α → Network Amount → Prop) : Prop :=
  Call.Guarantees (Updates s₀) (fun e => ¬e.Panics) x s Q

/-- A call on the ledger of a bank. When it returns, the ledger has made its step. -/
theorem onLedger_safe (hu : Updates s₀ s) {i : ParticipantID} (hi : i ∈ s.participants)
    {x : Call (Book Amount) Ledger.Err α} (op : Book.Op Amount)
    (hx : Book.call now op = x.discard) : Safe s₀ (onLedger i x) s fun a s' =>
      ∃ b, s.participants.lookup i = some b ∧ s' = s.setParticipant i (b.exec (now, .ledger op)) ∧
        x b.ledger = .ok a (b.exec (now, .ledger op)).ledger := by
  refine .read (.orThrow (fun hnone => ?_) fun b hb => ?_)
  · exact absurd hi (Finmap.lookup_eq_none.mp hnone)
  have hstep := hu.tail (.bank hb (now, .ledger op))
  have hzoom : Safe s₀ (Call.zoom (fun _ => b.ledger)
      (fun book s => s.setParticipant i (b.withLedger book)) .ledger x) s
      fun a s' => ∃ book, book = Book.exec (now, op) b.ledger ∧ x b.ledger = .ok a book ∧
        s' = s.setParticipant i (b.withLedger book) := by
    refine .zoom (Book.call_guarantees op hx b.ledger) ?_ fun e he => he
    rintro book rfl
    exact hstep
  refine hzoom.mono (fun _ hu' => hu') ?_
  rintro a s' - ⟨book, rfl, ha, rfl⟩
  exact ⟨b, hb, rfl, ha⟩

theorem onCentralBank_safe (hu : Updates s₀ s) {x : Call (Book Amount) Ledger.Err α}
    (op : Book.Op Amount) (hx : Book.call now op = x.discard) :
    Safe s₀ (onCentralBank x) s fun a s' => ∃ book, book = Book.exec (now, op) s.centralBank ∧
      x s.centralBank = .ok a book ∧ s' = s.setCentralBank book := by
  refine .zoom (Book.call_guarantees op hx s.centralBank) ?_ fun e he => he
  rintro book rfl
  exact hu.tail (.centralBank (now, op))

theorem onDeposit_safe (hs₀ : s₀.Sound) (hu : Updates s₀ s) (i : ParticipantID)
    {x : Call (Register Amount) Deposit.Err α} (op : Register.Op Amount)
    (hx : Register.call now op = x.discard) :
    Safe s₀ (onDeposit i x) s fun _ _ => True := by
  refine .read (.orThrow (fun _ => ⟨hu, not_false⟩) fun b hb => ?_)
  have hzoom : Safe s₀ (Call.zoom (fun _ => b.deposit)
      (fun r s => s.setParticipant i { b with deposit := r }) .deposit x) s
      fun a s' => ∃ r, r = Register.exec (now, .register op) b.deposit ∧
        x b.deposit = .ok a r ∧ s' = s.setParticipant i { b with deposit := r } := by
    have hlinked := ((hu.sound hs₀).banks i b hb).linked
    refine .zoom (hlinked.call_guarantees op hx) ?_ fun e he => he
    rintro r rfl
    exact hu.tail (.bank hb (now, .register op))
  exact hzoom.mono (fun _ hu' => hu') fun _ _ _ _ => trivial

omit [AddCommGroup Amount] [LinearOrder Amount] in
theorem transition_guarantees {I : Network Amount → Prop} (hI : I s) (p : Payment Amount)
    (target : PaymentStatus) : Call.Guarantees I (fun e => ¬Err.Panics e) (transition p target)
      s fun p' s' => p' = { p with status := target } ∧ s' = s :=
  .require (fun _ => ⟨hI, not_false⟩) fun _ => .pure hI ⟨rfl, rfl⟩

omit [AddCommGroup Amount] [LinearOrder Amount] in
theorem nextID_guarantees {I : Network Amount → Prop} {E : Err → Prop} {pfx : String}
    {f : String → Call (Network Amount) Err α} {Q : α → Network Amount → Prop}
    (hf : Call.Guarantees I E (f (ident pfx (s.idCounter + 1)))
      { s with idCounter := s.idCounter + 1 } Q) :
    Call.Guarantees I E (nextID pfx >>= f) s Q := hf

/-! ## Operations -/

/-- A posting in the ledger of a bank, and one at the central bank. -/
theorem deposit_safe (s : Network Amount) (now : Time) (i : ParticipantID)
    (account : Deposit.AccountID) (amount : Amount) (description : String) :
    Safe s (deposit now i account amount description) s fun _ _ => True := by
  have hu := Updates.refl s
  refine .require (fun _ => ⟨hu, not_false⟩) fun _ => ?_
  refine .read (.orThrow (fun _ => ⟨hu, not_false⟩) fun b hb => ?_)
  refine .ofExcept (fun e he => ⟨hu, Participant.glAccount_not_panics he⟩) fun gl _ => ?_
  have hi := Finmap.mem_of_lookup_eq_some hb
  refine .bind (onLedger_safe hu hi (.postTransaction _) rfl) fun _ s' hu' _ => ?_
  exact .bind (onCentralBank_safe hu' (.postTransaction _) rfl) fun _ _ hu'' _ =>
    .pure hu'' trivial

/-- The parties of a mandate have been checked. -/
theorem createMandate_safe (s : Network Amount) (now : Time) (debtor creditor : PartyRef)
    (maxAmount : Amount) :
    Safe s (createMandate now debtor creditor maxAmount) s fun _ _ => True := by
  have hu := Updates.refl s
  refine .read (.ofExcept (fun e he => ⟨hu, checkParty_not_panics he⟩) fun _ hdebtor => ?_)
  refine .ofExcept (fun e he => ⟨hu, checkParty_not_panics he⟩) fun _ hcreditor => ?_
  have hm : s.MandateRefers (s.newMandate now debtor creditor maxAmount) :=
    ⟨checkParty_ok hdebtor, checkParty_ok hcreditor⟩
  exact .of_ok rfl (hu.tail (.mandated _ rfl hm)) trivial

theorem revokeMandate_safe (s : Network Amount) (id : MandateID) :
    Safe s (revokeMandate id) s fun _ _ => True := by
  have hu := Updates.refl s
  refine .read (.orThrow (fun _ => ⟨hu, not_false⟩) fun m hm => ?_)
  exact .of_ok rfl (hu.tail (.revoked hm)) trivial

/-- A new cycle is empty. -/
theorem openCycleFor_outcome (s : Network Amount) (now : Time) (scheme : SchemeID) :
    Call.Guarantees (Outcome s) (fun e => ¬e.Panics) (openCycleFor now scheme) s
      fun _ _ => True := by
  have ho : Outcome s s := .updates (.refl s)
  refine .read (.orThrow (fun _ => ⟨ho, not_false⟩) fun _ _ => ?_)
  refine .require (fun _ => ⟨ho, not_false⟩) fun hnone => ?_
  have hc : s.CycleRefers (s.newCycle now scheme) :=
    ⟨fun _ hpid => absurd hpid List.not_mem_nil, fun _ hi => absurd hi Finmap.notMem_empty⟩
  have hopened := (Updates.refl s).tail (.opened (s.newCycle now scheme) rfl hc)
  exact .of_ok rfl (.opened hopened hnone (Finmap.mem_insert.mpr (.inl rfl))) trivial

/-! ### Closing a cycle -/

/-- The banks that have a net position are there. -/
def Positioned (net : GoMap ParticipantID Amount) (s : Network Amount) : Prop :=
  ∀ i ∈ net, i ∈ s.participants

omit [LinearOrder Amount] in
theorem Positioned.addPosition {net : GoMap ParticipantID Amount} (h : Positioned net s)
    {i : ParticipantID} (hi : i ∈ s.participants) (delta : Amount) :
    Positioned (addPosition net i delta) s := by
  intro j hj
  rcases Finmap.mem_insert.mp hj with rfl | hold
  · exact hi
  · exact h j hold

/-- A payment of the cycle is there, and so are its banks. -/
theorem clearPayment_safe (hs₀ : s₀.Sound) (hu : Updates s₀ s) {pid : PaymentID}
    (hpid : pid ∈ s.payments) {net : GoMap ParticipantID Amount} (hnet : Positioned net s) :
    Safe s₀ (clearPayment net pid) s Positioned := by
  refine .read (.orThrow (fun hnone => ?_) fun p hp => ?_)
  · exact absurd hpid (Finmap.lookup_eq_none.mp hnone)
  obtain ⟨⟨d, da, hd⟩, ⟨c, ca, hc⟩, -⟩ := (hu.sound hs₀).refers.payments pid p hp
  have hd' := Finmap.mem_of_lookup_eq_some hd.bank
  have hc' := Finmap.mem_of_lookup_eq_some hc.bank
  refine .bind (transition_guarantees hu p .cleared) ?_
  rintro p' s' - ⟨rfl, rfl⟩
  exact .of_ok rfl (hu.tail (.payment hp _ rfl))
    ((hnet.addPosition hd' _).addPosition hc' _)

theorem closeCycle_safe (h : s.Sound) (now : Time) (id : CycleID) :
    Safe s (closeCycle now id) s fun _ _ => True := by
  have hu := Updates.refl s
  refine .read (.orThrow (fun _ => ⟨hu, not_false⟩) fun c hc => ?_)
  refine .require (fun _ => ⟨hu, not_false⟩) fun _ => ?_
  have hrefers := h.refers.cycles id c hc
  have hloop : Safe s (c.paymentIDs.foldlM clearPayment ∅) s Positioned := by
    refine .foldlM hu (fun i hi => absurd hi Finmap.notMem_empty)
      fun net pid s' hpid hu' hnet => ?_
    have hpid' := (hu'.retains h).payments.mem (hrefers.payments pid hpid)
    exact clearPayment_safe h hu' hpid' hnet
  refine .bind hloop fun net s' hu' hnet => ?_
  obtain ⟨c', hc', hremains⟩ := (hu'.retains h).cycles id c hc
  let closed : ClearingCycle Amount :=
    { c with netPositions := net, status := .closed, closedAt := now }
  have hsame : c.Remains closed := rfl
  have hclosed : s'.CycleRefers closed :=
    ⟨fun pid hpid => (hu'.retains h).payments.mem (hrefers.payments pid hpid), hnet⟩
  have hcycle := hu'.tail (.cycle hc' closed (hremains.symm.trans hsame) hclosed)
  exact .of_ok rfl (hcycle.tail (.closed c.scheme)) trivial

/-! ### Settling a cycle -/

/-- The bank of a net position is there. -/
theorem mirrorPosition_safe (hu : Updates s₀ s) (now : Time) (c : ClearingCycle Amount)
    {d : ParticipantID × Amount} (hd : d.1 ∈ s.participants) :
    Safe s₀ (mirrorPosition now c d) s fun _ _ => True := by
  rw [mirrorPosition]
  split
  · exact .pure hu trivial
  · refine .read (.orThrow (fun hnone => ?_) fun b hb => ?_)
    · exact absurd hd (Finmap.lookup_eq_none.mp hnone)
    exact .bind (onLedger_safe hu hd (.postTransaction _) rfl) fun _ _ hu' _ =>
      .pure hu' trivial

theorem settlePositions_safe (h : s.Sound) (now : Time)
    (order₁ order₂ : MapOrder ParticipantID Amount) {c : ClearingCycle Amount}
    (hnet : Positioned c.netPositions s) :
    Safe s (settlePositions now order₁ order₂ c) s fun _ _ => True := by
  have hu := Updates.refl s
  have hkeys : ∀ (order : MapOrder ParticipantID Amount), ∀ d ∈ order.toList c.netPositions,
      d.1 ∈ s.participants := by
    rintro order ⟨i, net⟩ hd
    exact hnet i (Finmap.mem_of_lookup_eq_some (order.mem_toList.mp hd))
  rw [settlePositions]
  refine .read (.ofExcept (fun e he => ?_) fun entries _ => ?_)
  · rw [foldlM_addSettlementEntry (hkeys order₁)] at he
    cases he
  split
  · exact .pure hu trivial
  refine .bind (onCentralBank_safe hu (.postTransaction _) rfl) fun tx s' hu' _ => ?_
  refine .bind (P := fun _ _ => True) (.forM hu' fun d s'' hd hu'' => ?_) fun _ _ hu'' _ =>
    .pure hu'' trivial
  exact mirrorPosition_safe hu'' now c
    ((hu''.retains h).participants.mem (hkeys order₂ d hd))

/-- A payment of the cycle is there, and so is the creditor's bank. -/
theorem postCreditorLeg_safe (hs₀ : s₀.Sound) (hu : Updates s₀ s) (now : Time)
    {pid : PaymentID} (hpid : pid ∈ s.payments) :
    Safe s₀ (postCreditorLeg now pid) s fun _ _ => True := by
  refine .read (.orThrow (fun hnone => ?_) fun p hp => ?_)
  · exact absurd hpid (Finmap.lookup_eq_none.mp hnone)
  obtain ⟨c, ca, hc⟩ := ((hu.sound hs₀).refers.payments pid p hp).creditor
  have hi := Finmap.mem_of_lookup_eq_some hc.bank
  refine .orThrow (fun hnone => absurd hi (Finmap.lookup_eq_none.mp hnone)) fun b _ => ?_
  refine .ofExcept (fun e he => ⟨hu, Participant.glAccount_not_panics he⟩) fun gl _ => ?_
  refine .bind (onLedger_safe hu hi (.postTransaction _) rfl) ?_
  rintro tx s' hu' ⟨b', -, hs', -⟩
  have hp' : s'.payments.lookup pid = some p := by
    rw [hs']
    exact hp
  let credited : Payment Amount := { p with creditorLegTx := some tx.id }
  let settled : Payment Amount := { credited with status := .settled }
  have hleg := Update.payment hp' credited rfl
  refine .write (.bind (transition_guarantees (hu'.tail hleg) credited .settled) ?_)
  rintro p' s'' - ⟨rfl, rfl⟩
  have hstored : (s'.setPayment pid credited).payments.lookup pid = some credited :=
    Finmap.lookup_insert _
  have hsame : credited.SameTerms settled := rfl
  exact .of_ok rfl ((hu'.tail hleg).tail (.payment hstored settled hsame)) trivial

/-- The creditors are paid, and the cycle gets its settlement. -/
theorem settleCycle_safe (h : s.Sound) (now : Time)
    (order₁ order₂ : MapOrder ParticipantID Amount) (id : CycleID) :
    Safe s (settleCycle now order₁ order₂ id) s fun _ _ => True := by
  have hu := Updates.refl s
  refine .read (.orThrow (fun _ => ⟨hu, not_false⟩) fun c hc => ?_)
  refine .require (fun _ => ⟨hu, not_false⟩) fun _ => ?_
  obtain ⟨hpayments, hpositions⟩ := h.refers.cycles id c hc
  refine .bind (settlePositions_safe h now order₁ order₂ hpositions) fun tx s₁ hu₁ _ => ?_
  have hpaid : Safe s (c.paymentIDs.forM (postCreditorLeg now)) s₁ fun _ _ => True :=
    .forM hu₁ fun pid s₂ hpid hu₂ => postCreditorLeg_safe h hu₂ now
      ((hu₂.retains h).payments.mem (hpayments pid hpid))
  refine .bind hpaid fun _ s₂ hu₂ _ => ?_
  have hr := hu₂.retains h
  obtain ⟨c', hc', hremains⟩ := hr.cycles id c hc
  let st := s₂.newSettlement now c tx
  let settled : ClearingCycle Amount :=
    { c with status := .settled, settlementID := some st.id }
  have hsame : c.Remains settled := rfl
  have hst : s₂.SettlementRefers st := by
    refine ⟨?_, fun i hi => hr.participants.mem (hpositions i hi)⟩
    have hid : c.id = id := h.ids.cycles.own id c hc
    show c.id ∈ s₂.cycles
    rw [hid]
    exact Finmap.mem_of_lookup_eq_some hc'
  have hrecorded := hu₂.tail (.settled st rfl hst)
  have hstored : ({ s₂ with
      settlements := s₂.settlements.insert st.id st
      idCounter := s₂.idCounter + 1 } : Network Amount).cycles.lookup id = some c' := hc'
  have hsettled := Update.cycle hstored settled (hremains.symm.trans hsame)
    ⟨fun pid hpid => hr.payments.mem (hpayments pid hpid),
      fun i hi => hr.participants.mem (hpositions i hi)⟩
  exact .of_ok rfl (hrecorded.tail hsettled) trivial

/-! ### Payments -/

/-- A payment is recorded, in its cycle and in the index. -/
theorem recorded_updates (h : s.Sound) {p : Payment Amount}
    (hid : p.id = ⟨ident "pay" (s.idCounter + 1)⟩) (hp : s.PaymentRefers p)
    {cycle : ClearingCycle Amount} (hcycle : s.cycles.lookup p.cycleID = some cycle)
    {key : String} (hkey : key = "" ∨ s.endToEndIndex.lookup key = none) :
    Updates s { (({ s with idCounter := s.idCounter + 1 } : Network Amount).setCycle p.cycleID
        { cycle with paymentIDs := cycle.paymentIDs ++ [p.id] }).setPayment p.id p with
      endToEndIndex := if key = "" then s.endToEndIndex
        else s.endToEndIndex.insert key p.id } := by
  let s₁ : Network Amount :=
    { s with payments := s.payments.insert p.id p, idCounter := s.idCounter + 1 }
  let listed : ClearingCycle Amount := { cycle with paymentIDs := cycle.paymentIDs ++ [p.id] }
  obtain ⟨hpayments, hpositions⟩ := h.refers.cycles _ cycle hcycle
  have hmem : p.id ∈ s₁.payments := Finmap.mem_insert.mpr (.inl rfl)
  have hpaid : Update s s₁ := .paid p hid hp
  have hlisted : Update s₁ (s₁.setCycle p.cycleID listed) := by
    refine Update.cycle (s := s₁) hcycle listed rfl ⟨fun pid hpid => ?_, hpositions⟩
    rcases List.mem_append.mp hpid with hold | hnew
    · exact (hpaid.retains h).payments.mem (hpayments pid hold)
    · rw [List.mem_singleton.mp hnew]
      exact hmem
  have hu := ((Updates.refl s).tail hpaid).tail hlisted
  split
  · exact hu
  · rename_i hne
    have hunused := hkey.resolve_left hne
    exact hu.tail (Update.indexed (s := s₁.setCycle p.cycleID listed) hunused hmem)

/-- The number of a payment is drawn before it is validated. Once its debtor leg is posted, it
is recorded. -/
theorem initiatePayment_safe (h : s.Sound) (now : Time) (req : InitiatePaymentRequest Amount) :
    Safe s (initiatePayment now req) s fun _ _ => True := by
  have hu := Updates.refl s
  refine .read (.orThrow (fun _ => ⟨hu, not_false⟩) fun scheme _ => ?_)
  refine .require (fun _ => ⟨hu, not_false⟩) fun _ => ?_
  refine .ofExcept (fun e he => ⟨hu, checkParty_not_panics he⟩) fun _ hdebtor => ?_
  refine .ofExcept (fun e he => ⟨hu, checkParty_not_panics he⟩) fun _ hcreditor => ?_
  refine .require (fun _ => ⟨hu, not_false⟩) fun hunused => ?_
  refine .orThrow (fun _ => ⟨hu, not_false⟩) fun cycleID hopen => ?_
  have hd := hu.tail .drawn
  obtain ⟨b, a, hparty⟩ := checkParty_ok hdebtor
  have hi := Finmap.mem_of_lookup_eq_some hparty.bank
  have hcycle := h.refers.openCycle _ cycleID hopen
  refine nextID_guarantees (.read (.ofExcept (fun e he => ?_) fun _ _ => ?_))
  · exact ⟨hd, (hd.sound h).validate_not_panics he⟩
  refine .orThrow (fun hnone => absurd hi (Finmap.lookup_eq_none.mp hnone)) fun debtor hb => ?_
  refine .ofExcept (fun e he => ⟨hd, Participant.glAccount_not_panics he⟩) fun debtorGL hgl => ?_
  refine .bind (onLedger_safe hd hi (.postTransaction _) rfl) ?_
  rintro tx s' hu' ⟨debtor', hdebtor', rfl, hpost⟩
  refine .bind (transition_guarantees hu' _ .accepted) ?_
  rintro p s' - ⟨rfl, rfl⟩
  refine .read (.orThrow (fun hnone => ?_) fun cycle hstored => ?_)
  · exact absurd hcycle (Finmap.lookup_eq_none.mp hnone)
  -- the posting, as if it had been made before the number was drawn
  let leg := debitRequest now (s.initialPayment now req scheme cycleID) debtor debtorGL
  have hposted := hu.tail (Update.bank (s := s) hdebtor' (now, .ledger (.postTransaction leg)))
  have hr := hposted.retains h
  refine .of_ok rfl (hposted.trans (recorded_updates (hposted.sound h) rfl ?_ hstored hunused))
    trivial
  refine ⟨hr.party (checkParty_ok hdebtor), hr.party (checkParty_ok hcreditor), hcycle, ?_⟩
  cases hb.symm.trans hdebtor'
  cases hb.symm.trans hparty.bank
  cases hgl.symm.trans hparty.glAccount
  exact ⟨_, a, tx.id, tx, ⟨Finmap.lookup_insert _, hparty.account⟩, rfl,
    Book.postTransaction_stored hpost, Book.postTransaction_moves hpost rfl⟩

/-- The debtor's bank of a payment is there. -/
theorem reverseDebtorLeg_safe (hu : Updates s₀ s) (now : Time) {p : Payment Amount}
    (hi : p.debtor.participant ∈ s.participants) (reason : String) :
    Safe s₀ (reverseDebtorLeg now p reason) s fun _ _ => True := by
  rw [reverseDebtorLeg]
  split
  · exact .pure hu trivial
  · exact .bind (onLedger_safe hu hi (.reverseTransaction _ _) rfl) fun _ _ hu' _ =>
      .pure hu' trivial

/-- A cycle loses a payment. -/
theorem removeFromCycle_updates (h : s.Sound) (p : Payment Amount) :
    Updates s (s.removeFromCycle p) := by
  rw [removeFromCycle]
  cases hc : s.cycles.lookup p.cycleID with
  | none => exact .refl s
  | some c =>
    obtain ⟨hpayments, hpositions⟩ := h.refers.cycles _ c hc
    exact (Updates.refl s).tail (.cycle hc _ rfl
      ⟨fun pid hpid => hpayments pid (List.mem_of_mem_filter hpid), hpositions⟩)

theorem rejectPayment_safe (h : s.Sound) (now : Time) (id : PaymentID) (reason : String) :
    Safe s (rejectPayment now id reason) s fun _ _ => True := by
  have hu := Updates.refl s
  refine .read (.orThrow (fun _ => ⟨hu, not_false⟩) fun p hp => ?_)
  refine .require (fun _ => ⟨hu, not_false⟩) fun _ => ?_
  obtain ⟨d, da, hd⟩ := (h.refers.payments id p hp).debtor
  have hi := Finmap.mem_of_lookup_eq_some hd.bank
  refine .bind (reverseDebtorLeg_safe hu now hi reason) fun _ s₁ hu₁ _ => ?_
  have hu₂ := hu₁.trans (removeFromCycle_updates (hu₁.sound h) p)
  refine .write (.bind (transition_guarantees hu₂ p .rejected) ?_)
  rintro p' s₂ - ⟨rfl, rfl⟩
  obtain ⟨p', hp', hterms⟩ := (hu₂.retains h).payments id p hp
  have hsame : p.SameTerms { p with status := .rejected, rejectReason := reason } := rfl
  exact .of_ok rfl (hu₂.tail (.payment hp' _ (hterms.symm.trans hsame))) trivial

/-- Both banks of a payment are there, before each of the postings of its return. -/
theorem returnPayment_safe (h : s.Sound) (now : Time) (id : PaymentID) (reason : String) :
    Safe s (returnPayment now id reason) s fun _ _ => True := by
  have hu := Updates.refl s
  refine .read (.orThrow (fun _ => ⟨hu, not_false⟩) fun p hp => ?_)
  refine .require (fun _ => ⟨hu, not_false⟩) fun _ => ?_
  refine .require (fun _ => ⟨hu, not_false⟩) fun _ => ?_
  obtain ⟨⟨d, da, hd⟩, ⟨c, ca, hc⟩, -⟩ := h.refers.payments id p hp
  have hid := Finmap.mem_of_lookup_eq_some hd.bank
  have hic := Finmap.mem_of_lookup_eq_some hc.bank
  refine .orThrow (fun hnone => absurd hid (Finmap.lookup_eq_none.mp hnone)) fun debtor _ => ?_
  refine .orThrow (fun hnone => absurd hic (Finmap.lookup_eq_none.mp hnone)) fun creditor _ => ?_
  refine .ofExcept (fun e he => ⟨hu, Participant.glAccount_not_panics he⟩) fun debtorGL _ => ?_
  refine .ofExcept (fun e he => ⟨hu, Participant.glAccount_not_panics he⟩) fun creditorGL _ => ?_
  refine .bind (onLedger_safe hu hid (.postTransaction _) rfl) fun _ s₁ hu₁ _ => ?_
  have hic₁ := (hu₁.retains h).participants.mem hic
  refine .bind (onLedger_safe hu₁ hic₁ (.postTransaction _) rfl) fun _ s₂ hu₂ _ => ?_
  refine .bind (onCentralBank_safe hu₂ (.postTransaction _) rfl) fun _ s₃ hu₃ _ => ?_
  refine .bind (transition_guarantees hu₃ p .returned) ?_
  rintro p' s₄ - ⟨rfl, rfl⟩
  obtain ⟨p', hp', hterms⟩ := (hu₃.retains h).payments id p hp
  have hsame : p.SameTerms { p with status := .returned, rejectReason := reason } := rfl
  exact .of_ok rfl (hu₃.tail (.payment hp' _ (hterms.symm.trans hsame))) trivial

/-! ### Adding a bank -/

variable (Amount) in
/-- The books of a new bank are made by calls on its ledger. -/
theorem bankChart_reachable (now : Time) (name : String) :
    Call.Guarantees Book.Reachable (fun e => ¬e.Panics) (bankChart now name) (newBook Amount)
      fun _ _ => True := by
  have hnew := Book.reachable_newBook Amount
  refine .bind (hnew.call (.createLedger _) rfl) fun gl b₁ h₁ _ => ?_
  refine .bind (h₁.call (.createSubledger _ _) rfl) fun customers b₂ h₂ _ => ?_
  refine .bind (h₂.call (.createSubledger _ _) rfl) fun interbank b₃ h₃ _ => ?_
  refine .bind (h₃.call (.createAccount _ _ _) rfl) fun suspense b₄ h₄ _ => ?_
  exact .bind (h₄.call (.createAccount _ _ _) rfl) fun reserve b₅ h₅ _ => .pure h₅ trivial

variable (Amount) in
@[inherit_doc bankChart_reachable]
theorem centralBankChart_reachable (now : Time) :
    Call.Guarantees Book.Reachable (fun e => ¬e.Panics) (centralBankChart now) (newBook Amount)
      fun _ _ => True := by
  have hnew := Book.reachable_newBook Amount
  refine .bind (hnew.call (.createLedger _) rfl) fun cb b₁ h₁ _ => ?_
  refine .bind (h₁.call (.createSubledger _ _) rfl) fun reserves b₂ h₂ _ => ?_
  refine .bind (h₂.call (.createSubledger _ _) rfl) fun capital b₃ h₃ _ => ?_
  exact .bind (h₃.call (.createAccount _ _ _) rfl) fun assets b₄ h₄ _ => .pure h₄ trivial

theorem addParticipant_safe (s : Network Amount) (now : Time) (name : String) :
    Safe s (addParticipant now name) s fun _ _ => True := by
  obtain ⟨customers, suspense, reserve, bank, hchart, hwf, -, -, hsuspense, hreserve, -⟩ :=
    bankChart_eq Amount now name
  have hbank := ((bankChart_reachable Amount now name).ok hchart).1
  rw [addParticipant, hchart]
  refine .read (.bind (onCentralBank_safe (.refl s) (.createAccount _ _ _) rfl) ?_)
  rintro acct s' hu ⟨book, -, hcreate, rfl⟩
  let b : Participant Amount :=
    { id := ⟨ident "bank" (s.idCounter + 1)⟩
      name := name
      deposit := Deposit.newRegister bank
      customerSubledger := customers
      suspenseAccount := suspense
      reserveAccount := reserve
      settlementAccount := acct.id }
  have hb : b.Sound :=
    { chart :=
        { deposit := Register.wf_newRegister hwf
          suspense := hsuspense
          reserve := hreserve
          gl_ne_suspense := Finmap.forall_lookup_empty }
      reachable := Register.reachable_newRegister hbank }
  have hjoined := Update.joined (s := s.setCentralBank book) b rfl hb
    (Book.createAccount_mem hcreate)
  exact nextID_guarantees (.of_ok rfl (hu.tail hjoined) trivial)

/-! ### All operations -/

theorem onRegister_safe (h : s.Sound) (i : ParticipantID) (now : Time) (op : Register.Op Amount) :
    Safe s (onDeposit i (Register.call now op)) s fun _ _ => True :=
  onDeposit_safe h (.refl s) i op (Call.discard_self _).symm

theorem Safe.outcome {x : Call (Network Amount) Err α} (hx : Safe s x s fun _ _ => True) :
    Call.Guarantees (Outcome s) (fun e => ¬e.Panics) x s fun _ _ => True :=
  hx.mono (fun _ => .updates) fun _ _ _ _ => trivial

/-- No operation panics. -/
theorem Sound.call_outcome (h : s.Sound) (now : Time) (op : Op Amount) :
    Call.Guarantees (Outcome s) (fun e => ¬e.Panics) (call now op) s fun _ _ => True := by
  have hu := Updates.refl s
  cases op with
  | registerScheme sc => exact .of_ok rfl (.updates (hu.tail (.scheme sc))) trivial
  | addParticipant name => exact (addParticipant_safe s now name).outcome.discard
  | openCustomerAccount i name =>
    refine Safe.outcome (.read (.orThrow (fun _ => ⟨hu, not_false⟩) fun b _ => ?_))
    exact onRegister_safe h i now (.openAccount b.customerSubledger name 0)
  | register i op => exact (onRegister_safe h i now op).outcome
  | deposit i account amount description =>
    exact (deposit_safe s now i account amount description).outcome
  | createMandate debtor creditor maxAmount =>
    exact (createMandate_safe s now debtor creditor maxAmount).outcome.discard
  | revokeMandate id => exact (revokeMandate_safe s id).outcome
  | openCycle scheme => exact (openCycleFor_outcome s now scheme).discard
  | closeCycle id => exact (closeCycle_safe h now id).outcome.discard
  | settleCycle order₁ order₂ id =>
    exact (settleCycle_safe h now order₁ order₂ id).outcome.discard
  | initiatePayment req => exact (initiatePayment_safe h now req).outcome.discard
  | rejectPayment id reason => exact (rejectPayment_safe h now id reason).outcome.discard
  | returnPayment id reason => exact (returnPayment_safe h now id reason).outcome.discard

/-! ## Runs -/

/-- Any call: of the network or of a client, or on the ledger of the central bank. -/
inductive AnyOp (Amount : Type) where
  | client (op : ClientOp Amount)
  | centralBank (op : Book.Op Amount)

/-- What the call posts or creates in a ledger is declared. -/
def AnyOp.Declared : AnyOp Amount → Prop
  | .client (.network _) => True
  | .client (.ledger _ op) => op.Declared
  | .centralBank op => op.Declared

def anyCall (now : Time) : AnyOp Amount → Call (Network Amount) Err Unit
  | .client op => clientCall now op
  | .centralBank op => onCentralBank (Book.call now op)

/-- One step of a run of any calls. -/
def anyExec (step : Time × AnyOp Amount) (s : Network Amount) : Network Amount :=
  (anyCall step.1 step.2).final s

/-- All in the ledgers of the banks and of the central bank is declared. -/
structure Declared (s : Network Amount) : Prop where
  banks : ∀ i b, s.participants.lookup i = some b → b.ledger.Declared
  centralBank : s.centralBank.Declared

/-- The network after a run of any calls. -/
def anyReached (start : Time) (steps : List (Time × AnyOp Amount)) : Network Amount :=
  run anyExec (newNetwork Amount start) steps

theorem Sound.anyCall_outcome (h : s.Sound) (now : Time) (op : AnyOp Amount) :
    Call.Guarantees (Outcome s) (fun e => ¬e.Panics) (anyCall now op) s fun _ _ => True := by
  have hu := Updates.refl s
  cases op with
  | client op =>
    cases op with
    | network op => exact h.call_outcome now op
    | ledger i op =>
      refine Safe.outcome (.read (.orThrow (fun _ => ⟨hu, not_false⟩) fun b hb => ?_))
      have hi := Finmap.mem_of_lookup_eq_some hb
      exact (onLedger_safe hu hi op (Call.discard_self _).symm).mono (fun _ hu' => hu')
        fun _ _ _ _ => trivial
  | centralBank op =>
    exact Safe.outcome ((onCentralBank_safe hu op (Call.discard_self _).symm).mono
      (fun _ hu' => hu') fun _ _ _ _ => trivial)

theorem Sound.anyExec_outcome (h : s.Sound) (step : Time × AnyOp Amount) :
    Outcome s (anyExec step s) :=
  (h.anyCall_outcome step.1 step.2).final

theorem anyExec_sound (step : Time × AnyOp Amount) (s : Network Amount) (h : s.Sound) :
    (anyExec step s).Sound :=
  (h.anyExec_outcome step).sound h

theorem sound_newNetwork (now : Time) : (newNetwork Amount now).Sound := by
  obtain ⟨reserves, assets, cb, hchart, -⟩ := centralBankChart_eq Amount now
  have hcb := ((centralBankChart_reachable Amount now).ok hchart).1
  rw [newNetwork, hchart]
  exact
    { ids := ⟨.empty, .empty, .empty, .empty, .empty⟩
      banks := Finmap.forall_lookup_empty
      centralBank := hcb
      refers :=
        { settlementAccount := Finmap.forall_lookup_empty
          payments := Finmap.forall_lookup_empty
          mandates := Finmap.forall_lookup_empty
          cycles := Finmap.forall_lookup_empty
          settlements := Finmap.forall_lookup_empty
          openCycle := Finmap.forall_lookup_empty
          endToEndIndex := Finmap.forall_lookup_empty } }

theorem sound_anyReached (start : Time) (steps : List (Time × AnyOp Amount)) :
    (anyReached start steps).Sound :=
  run_invariant anyExec_sound (sound_newNetwork start) steps

/-! ## No lookup misses -/

/-- Every reference in the network leads to something. -/
structure Linked (s : Network Amount) : Prop where
  centralBank : s.centralBank.Linked
  deposit : ∀ i b, s.participants.lookup i = some b → b.deposit.Linked
  gl : ∀ i b, s.participants.lookup i = some b → ∀ id a, b.deposit.accounts.lookup id = some a →
    a.glAccount ≠ b.suspenseAccount ∧ a.glAccount ≠ b.reserveAccount
  refers : Refers s s

/-- Nothing that a network does reads through a missing entry, nor do the ledgers in it. -/
structure NeverPanics (s : Network Amount) : Prop where
  centralBank : s.centralBank.NeverPanics
  deposit : ∀ i b, s.participants.lookup i = some b → b.deposit.NeverPanics
  call : ∀ now op e, Call.failure (anyCall now op s) = some e → ¬e.Panics

theorem Sound.linked (h : s.Sound) : s.Linked where
  centralBank := by
    obtain ⟨steps, hsteps⟩ := h.centralBank
    rw [hsteps]
    exact Book.linked_reached steps
  deposit i b hb := (h.banks i b hb).linked
  gl i b hb id a ha :=
    ⟨(h.banks i b hb).chart.gl_ne_suspense id a ha, (h.banks i b hb).chart.gl_ne_reserve ha⟩
  refers := h.refers

theorem Sound.neverPanics (h : s.Sound) : s.NeverPanics where
  centralBank := h.linked.centralBank.neverPanics
  deposit i b hb := (h.linked.deposit i b hb).neverPanics
  call now op _ := (h.anyCall_outcome now op).failure

/-- **No unchecked lookup ever misses.** In whatever state calls of any kind have left a book,
a register or a network, every reference leads to something, so that no operation and no
query reads through a missing entry. -/
theorem no_lookup_misses (Amount : Type) [AddCommGroup Amount] [LinearOrder Amount] :
    (∀ steps : List (Time × Book.Op Amount),
      (Book.reached steps).Linked ∧ (Book.reached steps).NeverPanics) ∧
    (∀ steps : List (Time × Register.Step Amount),
      (Register.reached steps).Linked ∧ (Register.reached steps).NeverPanics) ∧
    ∀ (start : Time) (steps : List (Time × AnyOp Amount)),
      (anyReached start steps).Linked ∧ (anyReached start steps).NeverPanics := by
  refine ⟨fun steps => ?_, fun steps => ?_, fun start steps => ?_⟩
  · have h : (Book.reached steps).Linked := Book.linked_reached steps
    exact ⟨h, h.neverPanics⟩
  · have h : (Register.reached steps).Linked := Register.linked_reached steps
    exact ⟨h, h.neverPanics⟩
  · have h := sound_anyReached start steps
    exact ⟨h.linked, h.neverPanics⟩

end Network

end CoreBanking.Payment
