import CoreBanking.Payment.Legs
import CoreBanking.Payment.Positions

/-!
# The course of a settlement

While a settlement is under way, the payments of the cycle are settled one by
one, so their statuses do not fit the status of their cycle until it is over.
The rest of the invariant, `Network.Core`, holds after every posting.

- `WF.settleCycle_outcome`: how a call of `SettleCycle` can end;
- `Core.payCreditors`: the creditor legs are always posted;
- `SettlementRefused.duplicate`: where amounts are exact, the central bank
  refuses a settlement only if it has posted it before;
- `mirror_refused`: a bank refuses the mirror of its net position only if its
  reserve is short.
-/

namespace CoreBanking.Payment

open Ledger (Book PostTransactionRequest Transaction Entry transfer)

namespace Network

variable {Amount : Type} [AddCommGroup Amount] [LinearOrder Amount]

/-- What holds of a network also between the postings of a settlement. -/
structure Core (s : Network Amount) : Prop where
  banks : s.Banks
  records : s.Records
  cycles : s.Cycles
  legs : s.Legs
  positions : s.Positions

/-- The invariant of a network. -/
structure WF (s : Network Amount) : Prop extends Core s where
  fit : s.StatusesFit

/-- The payments of a cycle are stored and have a status that fits. -/
theorem WF.members_fit {s : Network Amount} (h : s.WF) {id : CycleID}
    {c : ClearingCycle Amount} (hc : s.cycles.lookup id = some c) {pid : PaymentID}
    (hpid : pid ∈ c.paymentIDs) :
    ∃ p, s.payments.lookup pid = some p ∧ Fits c.status p.status := by
  obtain ⟨p, hp, -, -⟩ := (h.cycles.members id c hc pid).mp hpid
  exact ⟨p, hp, h.fit id c hc pid hpid p hp⟩

/-- An open cycle can be closed. -/
theorem WF.open_accepted {s : Network Amount} (h : s.WF) (id : CycleID)
    (c : ClearingCycle Amount) (hc : s.cycles.lookup id = some c)
    (hopen : c.status = .open) : c.paymentIDs.Nodup ∧ ∀ pid ∈ c.paymentIDs,
      ∃ p, s.payments.lookup pid = some p ∧ p.status = .accepted := by
  refine ⟨h.cycles.nodup id c hc, fun pid hpid => ?_⟩
  obtain ⟨p, hp, hfits⟩ := h.members_fit hc hpid
  rw [hopen] at hfits
  exact ⟨p, hp, hfits⟩

/-- A stored payment has left the initial status, and names its debtor leg. -/
theorem WF.debtor_named {s : Network Amount} (h : s.WF) (id : PaymentID)
    (p : Payment Amount) (hp : s.payments.lookup id = some p) :
    p.status ≠ .initiated ∧ ∃ tx, p.debtorLegTx = some tx := by
  obtain ⟨t, ht⟩ := (h.legs.legs id p hp).debtor
  refine ⟨?_, t.id, ht.named⟩
  intro hst
  obtain ⟨c, hc, hmem⟩ := h.cycles.mem_of_payment hp (by simp [hst])
  have hfits := h.fit _ c hc id hmem p hp
  rw [hst] at hfits
  cases hcs : c.status <;> simp [hcs, Fits] at hfits

/-- Other books, and payments in another status that is no rejection. -/
theorem Core.relabel {s s' : Network Amount} (h : s.Core) (hbanks : s'.Banks)
    (hlegs : s'.Legs) (hg : s.Grows s') (hpay : Relabels s.payments s'.payments)
    (hstatus : ∀ k p p', s.payments.lookup k = some p →
      s'.payments.lookup k = some p' → (p'.status = .rejected ↔ p.status = .rejected))
    (hcyc : s'.cycles = s.cycles) (hopen : s'.openCycle = s.openCycle)
    (hset : s'.settlements = s.settlements) (hle : s.idCounter ≤ s'.idCounter) :
    s'.Core where
  banks := hbanks
  records := h.records.step hg hle hpay fun _ c hc => ⟨c, hcyc ▸ hc, rfl⟩
  cycles := h.cycles.relabel hpay hstatus hcyc hopen hset hle
  legs := hlegs
  positions := h.positions.relabel hg hpay hcyc

/-- Payments, cycles and settlements as before, other books. -/
theorem Core.of_books {s s' : Network Amount} (h : s.Core) (hbanks : s'.Banks)
    (hlegs : s'.Legs) (hg : s.Grows s') (hpay : s'.payments = s.payments)
    (hcyc : s'.cycles = s.cycles) (hopen : s'.openCycle = s.openCycle)
    (hset : s'.settlements = s.settlements) (hle : s.idCounter ≤ s'.idCounter) :
    s'.Core := by
  refine h.relabel hbanks hlegs hg (hpay ▸ .refl _) ?_ hcyc hopen hset hle
  intro k p p' hp hp'
  rw [hpay, hp] at hp'
  cases hp'
  rfl

theorem WF.of_books {s s' : Network Amount} (h : s.WF) (hbanks : s'.Banks)
    (hlegs : s'.Legs) (hg : s.Grows s') (hpay : s'.payments = s.payments)
    (hcyc : s'.cycles = s.cycles) (hopen : s'.openCycle = s.openCycle)
    (hset : s'.settlements = s.settlements) (hle : s.idCounter ≤ s'.idCounter) :
    s'.WF where
  toCore := h.toCore.of_books hbanks hlegs hg hpay hcyc hopen hset hle
  fit := h.fit.congr hpay hcyc

section CentralBank

/-! ## The central bank -/

variable {s : Network Amount} {c : ClearingCycle Amount} {id : CycleID}

/-- An entry of the settlement is the leg of a net position. -/
theorem mem_settlementEntries {l : List (ParticipantID × Amount)}
    {e : Entry Amount} (he : e ∈ s.settlementEntries l) :
    ∃ d ∈ l, ∃ p, d.2 ≠ 0 ∧ s.participants.lookup d.1 = some p ∧
      e.accountID = p.settlementAccount ∧
      e.amount = if 0 < d.2 then d.2 else -d.2 := by
  obtain ⟨d, hd, he⟩ := List.mem_flatMap.mp he
  rw [settlementLeg] at he
  split at he
  · cases he
  · next hne =>
    cases hp : s.participants.lookup d.1 with
    | none =>
      rw [hp] at he
      cases he
    | some p =>
      rw [hp] at he
      refine ⟨d, hd, p, hne, hp, ?_⟩
      rw [List.mem_singleton.mp he]
      split <;> exact ⟨rfl, rfl⟩

theorem settlementEntries_declared {l : List (ParticipantID × Amount)} {e : Entry Amount}
    (he : e ∈ s.settlementEntries l) : e.direction.Declared := by
  obtain ⟨d, hd, he⟩ := List.mem_flatMap.mp he
  rw [settlementLeg] at he
  split at he
  · cases he
  · cases hp : s.participants.lookup d.1 with
    | none =>
      rw [hp] at he
      cases he
    | some p =>
      rw [hp] at he
      rw [List.mem_singleton.mp he]
      split <;> trivial

/-- The legs of the net positions sum to minus the positions. -/
theorem total_settlementEntries {l : List (ParticipantID × Amount)}
    (hl : ∀ d ∈ l, d.1 ∈ s.participants) :
    DoubleEntry.total (Ledger.legs (s.settlementEntries l)) = -(l.map Prod.snd).sum := by
  induction l with
  | nil => simp [settlementEntries]
  | cons d l ih =>
    obtain ⟨p, hp⟩ := Finmap.mem_iff.mp (hl d List.mem_cons_self)
    have hleg : DoubleEntry.total (Ledger.legs (s.settlementLeg d)) = -d.2 := by
      rw [settlementLeg, hp]
      split
      · next hzero => simp [hzero]
      · dsimp only
        split <;> simp [Entry.leg]
    have hsplit : Ledger.legs (s.settlementEntries (d :: l))
        = Ledger.legs (s.settlementLeg d) ++ Ledger.legs (s.settlementEntries l) := by
      rw [settlementEntries, List.flatMap_cons, ← settlementEntries, Ledger.legs,
        Ledger.legs, Ledger.legs, List.map_append]
    rw [hsplit, DoubleEntry.total_append, hleg,
      ih fun d' h' => hl d' (List.mem_cons_of_mem _ h'), List.map_cons, List.sum_cons,
      neg_add]

/-- A net position that is not zero has a leg. -/
theorem exists_settlementEntry {l : List (ParticipantID × Amount)}
    {d : ParticipantID × Amount} (hd : d ∈ l) (hne : d.2 ≠ 0) {p : Participant Amount}
    (hp : s.participants.lookup d.1 = some p) :
    ∃ e ∈ s.settlementEntries l, e.amount = if 0 < d.2 then d.2 else -d.2 := by
  have hleg : ∃ e, s.settlementLeg d = [e] ∧ e.amount = if 0 < d.2 then d.2 else -d.2 := by
    rw [settlementLeg, if_neg hne, hp]
    refine ⟨_, rfl, ?_⟩
    split <;> rfl
  obtain ⟨e, he, hamount⟩ := hleg
  refine ⟨e, List.mem_flatMap.mpr ⟨d, hd, ?_⟩, hamount⟩
  rw [he]
  exact List.mem_singleton_self e

theorem settlementEntries_positive {l : List (ParticipantID × Amount)}
    (hl : ∀ d ∈ l, d.2 < 0 → 0 < -d.2) {e : Entry Amount}
    (he : e ∈ s.settlementEntries l) : 0 < e.amount := by
  obtain ⟨d, hd, p, hne, -, -, hamount⟩ := mem_settlementEntries he
  rw [hamount]
  split
  · next hpos => exact hpos
  · next hneg => exact hl d hd (lt_of_le_of_ne (not_lt.mp hneg) hne)

theorem Banks.settlementEntries_accounts (h : s.Banks)
    {l : List (ParticipantID × Amount)} {e : Entry Amount}
    (he : e ∈ s.settlementEntries l) :
    (s.centralBank.accounts.lookup e.accountID).isSome := by
  obtain ⟨d, -, p, -, hp, hacct, -⟩ := mem_settlementEntries he
  rw [hacct]
  exact Finmap.lookup_isSome.mpr (h.settlement_mem hp)

/-- The settlement of a cycle balances. -/
theorem Core.settle_balanced (h : s.Core) (hc : s.cycles.lookup id = some c)
    (order : MapOrder ParticipantID Amount) :
    Ledger.ValidateBalance (s.settlementEntries (order.toList c.netPositions)) := by
  have hmem : ∀ d ∈ order.toList c.netPositions, d.1 ∈ s.participants := by
    intro d hd
    exact h.positions.keys id c hc d.1
      (Finmap.mem_of_lookup_eq_some (order.mem_toList.mp hd))
  have hsum : ((order.toList c.netPositions).map Prod.snd).sum = 0 :=
    (order.sum_toList c.netPositions fun _ v => v).trans (h.positions.total id c hc)
  rw [Ledger.validateBalance_iff, DoubleEntry.Balanced, total_settlementEntries hmem,
    hsum, neg_zero]

/-- The central bank accepts the settlement of a cycle whose key is unused. -/
theorem Core.settle_accepts [IsOrderedAddMonoid Amount] (h : s.Core)
    (hc : s.cycles.lookup id = some c) (order : MapOrder ParticipantID Amount)
    (hne : s.settlementEntries (order.toList c.netPositions) ≠ [])
    (hkey : s.cbKeyed c.id.settleKey = none) :
    s.centralBank.Accepts (settleRequest c
      (s.settlementEntries (order.toList c.netPositions))) where
  nonempty := hne
  positive _ he := settlementEntries_positive (fun _ _ => neg_pos.mpr) he
  accounts _ he := h.banks.settlementEntries_accounts he
  key := .inr (h.banks.centralBank.keyed_eq_none.mp hkey)
  balanced := h.settle_balanced hc order
  sufficient := by
    refine .of_types fun e he acct hacct => ?_
    obtain ⟨d, -, p, -, hp, heq, -⟩ := mem_settlementEntries he
    obtain ⟨acct', hacct', htype⟩ := h.banks.settlement d.1 p hp
    rw [heq, hacct'] at hacct
    cases hacct
    simp [htype]

end CentralBank

/-! ## The mirrors -/

section Mirrors

variable {s : Network Amount} {now : Time} {c : ClearingCycle Amount}

/-- Mirrors change nothing but the banks. -/
theorem run_withMirror_frame (now : Time) (c : ClearingCycle Amount)
    (l : List (ParticipantID × Amount)) (s : Network Amount) :
    ∃ banks, run (withMirror now c) s l = { s with participants := banks } := by
  induction l generalizing s with
  | nil => exact ⟨s.participants, rfl⟩
  | cons d l ih =>
    have hstep : ∃ banks, s.withMirror now c d = { s with participants := banks } := by
      unfold withMirror
      split
      · exact ⟨s.participants, rfl⟩
      · split
        · exact ⟨s.participants, rfl⟩
        · exact ⟨_, rfl⟩
    obtain ⟨banks, hbanks⟩ := hstep
    obtain ⟨banks', hbanks'⟩ := ih (s.withMirror now c d)
    refine ⟨banks', ?_⟩
    rw [run, hbanks', hbanks]

/-- The mirror of a position changes the bank whose position it is, if it is not zero. -/
theorem lookup_withMirror_of_ne {d : ParticipantID × Amount} {j : ParticipantID}
    (hne : d.2 ≠ 0 → j ≠ d.1) :
    (s.withMirror now c d).participants.lookup j = s.participants.lookup j := by
  unfold withMirror
  split
  · rfl
  · next hnet =>
    split
    · rfl
    · exact (setParticipant_lookup ..).trans (if_neg (hne hnet))

theorem lookup_run_withMirror {l : List (ParticipantID × Amount)} {j : ParticipantID}
    (hne : ∀ d ∈ l, d.2 ≠ 0 → j ≠ d.1) (s : Network Amount) :
    (run (withMirror now c) s l).participants.lookup j = s.participants.lookup j := by
  induction l generalizing s with
  | nil => rfl
  | cons d l ih =>
    rw [run, ih fun d' h' => hne d' (List.mem_cons_of_mem _ h')]
    exact lookup_withMirror_of_ne (hne d List.mem_cons_self)

/-- The mirror of a net receiver under an unused key is accepted. -/
theorem mirror_accepts_of_pos {b : Participant Amount} (h : b.WF) {i : ParticipantID}
    {net : Amount} (hpos : 0 < net)
    (hkey : b.ledger.idempotencyIndex.lookup (c.id.mirrorKey i) = none) :
    b.ledger.Accepts (mirrorRequest c i b net) := by
  obtain ⟨acct, hacct, htype⟩ := h.suspense
  exact .transfer (if_pos hpos) hpos h.reserve_mem h.suspense_mem (.inr hkey)
    (.transfer hpos hacct htype)

variable [IsOrderedAddMonoid Amount]

/-- What stands in the way of a mirror under an unused key: the position is
negative and the reserve does not cover it. -/
theorem mirror_accepts {b : Participant Amount} (h : b.WF) {i : ParticipantID}
    {net : Amount} (hnet : net ≠ 0)
    (hkey : b.ledger.idempotencyIndex.lookup (c.id.mirrorKey i) = none) :
    b.ledger.Accepts (mirrorRequest c i b net) ↔
      0 < net ∨ -net ≤ b.ledger.balance b.reserveAccount := by
  have hne := h.chart.suspense_ne_reserve
  by_cases hpos : 0 < net
  · exact iff_of_true (mirror_accepts_of_pos h hpos hkey) (.inl hpos)
  · have hneg : 0 < -net := neg_pos.mpr (lt_of_le_of_ne (not_lt.mp hpos) hnet)
    have hentries : (mirrorRequest c i b net).entries
        = transfer b.suspenseAccount b.reserveAccount (-net) := if_neg hpos
    rw [← h.sufficient_iff hneg hne]
    constructor
    · intro hacc
      have hsuff := hacc.sufficient
      rw [hentries] at hsuff
      exact .inr hsuff
    · intro hsuff
      exact .transfer hentries hneg h.suspense_mem h.reserve_mem (.inr hkey)
        (hsuff.resolve_left hpos)

omit [IsOrderedAddMonoid Amount] in
theorem Core.withMirror (h : s.Core) (hc : c.id ∈ s.cycles)
    (hsettle : s.cbKeyed c.id.settleKey ≠ none) {d : ParticipantID × Amount}
    (hmirror : s.MirrorAccepted c d) : (s.withMirror now c d).Core := by
  have hlegs : (s.withMirror now c d).Legs :=
    h.legs.withMirror h.banks h.records hc hsettle hmirror
  rcases withMirror_cases now hmirror with ⟨-, heq⟩ | ⟨b, -, hbank, hacc, heq⟩
  · rw [heq]
    exact h
  · rw [heq] at hlegs ⊢
    exact h.of_books (h.banks.posted hbank hacc (mirrorRequest_declared _ _ _ _)) hlegs
      (.posted hbank now _) rfl rfl rfl rfl le_rfl

omit [IsOrderedAddMonoid Amount] in
/-- The invariant holds after any number of mirrors. -/
theorem Core.mirrors (h : s.Core) (hc : c.id ∈ s.cycles)
    (hsettle : s.cbKeyed c.id.settleKey ≠ none)
    {l : List (ParticipantID × Amount)}
    (hmirrors : Along (Network.withMirror now c) (MirrorAccepted c) s l) :
    (run (Network.withMirror now c) s l).Core := by
  induction l generalizing s with
  | nil => exact h
  | cons d l ih =>
    obtain ⟨banks, hbanks⟩ := run_withMirror_frame now c [d] s
    refine ih (h.withMirror hc hsettle hmirrors.1) ?_ ?_ hmirrors.2
    · rw [show s.withMirror now c d = _ from hbanks]
      exact hc
    · rw [show s.withMirror now c d = _ from hbanks]
      exact hsettle

end Mirrors

/-! ## The creditor legs -/

section Creditors

variable {s : Network Amount} {now : Time}

theorem lookup_withCreditorLeg {pid : PaymentID} {p : Payment Amount}
    {creditor : Participant Amount} {acct : Deposit.Account Amount}
    (hc : s.Creditable pid p creditor acct) (k : PaymentID) :
    (s.withCreditorLeg now pid).payments.lookup k =
      if k = pid then some (creditedPayment now p creditor acct.glAccount)
      else s.payments.lookup k := by
  rw [withCreditorLeg_eq hc.stored hc.creditor_exists]
  exact Finmap.lookup_insert_ite ..

/-- A cleared payment can always be paid. -/
theorem Core.creditable (h : s.Core) {pid : PaymentID} {p : Payment Amount}
    (hp : s.payments.lookup pid = some p) (hst : p.status = .cleared) :
    ∃ creditor acct, s.Creditable pid p creditor acct := by
  obtain ⟨creditor, acct, hparty⟩ := h.records.creditor pid p hp
  have hwf := h.banks.bank _ creditor hparty.bank
  obtain ⟨g, hg, htype⟩ := hwf.deposit.gl _ acct hparty.account
  have hpos := h.records.positive pid p hp
  have hunpaid := (h.legs.legs pid p hp).unpaid (by simp [hst, PaymentStatus.Paid])
  rw [keyed_of_bank hparty.bank, hwf.ledger.keyed_eq_none] at hunpaid
  refine ⟨creditor, acct, hp, hst, hparty, ?_⟩
  exact .transfer rfl hpos hwf.suspense_mem (Finmap.mem_of_lookup_eq_some hg)
    (.inr hunpaid) (.transfer hpos hg htype)

theorem Core.withCreditorLeg (h : s.Core) {pid : PaymentID} {p : Payment Amount}
    {creditor : Participant Amount} {acct : Deposit.Account Amount}
    (hc : s.Creditable pid p creditor acct) : (s.withCreditorLeg now pid).Core := by
  have hlegs : (s.withCreditorLeg now pid).Legs :=
    h.legs.withCreditorLeg h.banks h.records hc
  have hlook : ∀ k, (s.withCreditorLeg now pid).payments.lookup k = _ :=
    lookup_withCreditorLeg hc
  rw [withCreditorLeg_eq hc.stored hc.creditor_exists] at hlegs hlook ⊢
  let p' := creditedPayment now p creditor acct.glAccount
  have hterms : p.SameTerms p' := rfl
  have hbank := hc.creditor_exists.bank
  have hg : s.Grows ((s.posted now p.creditor.participant creditor
      (creditRequest p creditor acct.glAccount)).setPayment pid p') :=
    .posted hbank now _
  refine h.relabel
    ((h.banks.posted hbank hc.accepts (Ledger.declared_transfer _ _ _)).congr rfl rfl rfl rfl
      le_rfl)
    hlegs hg (.insert hc.stored hterms) ?_ rfl rfl rfl le_rfl
  intro k q q' hq hq'
  rw [hlook] at hq'
  split at hq'
  · next heq =>
    subst heq
    cases hq'
    cases hc.stored.symm.trans hq
    simp [hc.cleared, creditedPayment]
  · rw [hq] at hq'
    cases hq'
    rfl

/-- What is known of each creditor leg when it is posted. -/
def CreditorPaid (s : Network Amount) (pid : PaymentID) : Prop :=
  s.Core ∧ ∃ p creditor acct, s.Creditable pid p creditor acct

/-- The creditors of distinct cleared payments are all paid. -/
theorem Core.payCreditors (h : s.Core) (now : Time) {ids : List PaymentID}
    (hnodup : ids.Nodup)
    (hids : ∀ pid ∈ ids, ∃ p, s.payments.lookup pid = some p ∧ p.status = .cleared) :
    Along (Network.withCreditorLeg now) CreditorPaid s ids ∧
      ids.forM (postCreditorLeg now) s
        = .ok ⟨⟩ (run (Network.withCreditorLeg now) s ids) := by
  -- the payments still to come are distinct and cleared
  let J (ids : List PaymentID) (t : Network Amount) : Prop :=
    t.Core ∧ ids.Nodup ∧
      ∀ pid ∈ ids, ∃ p, t.payments.lookup pid = some p ∧ p.status = .cleared
  refine Call.forM_of_ok (J := J) ?_ ⟨h, hnodup, hids⟩
  rintro pid ids t ⟨ht, hnodup, hids⟩
  obtain ⟨hpid, hnodup'⟩ := List.nodup_cons.mp hnodup
  obtain ⟨p, hp, hst⟩ := hids pid List.mem_cons_self
  obtain ⟨creditor, acct, hc⟩ := ht.creditable hp hst
  refine ⟨⟨ht, p, creditor, acct, hc⟩, postCreditorLeg_ok hc now,
    ht.withCreditorLeg hc, hnodup', ?_⟩
  intro k hk
  rw [lookup_withCreditorLeg hc, if_neg]
  · exact hids k (List.mem_cons_of_mem _ hk)
  · rintro rfl
    exact hpid hk

theorem Core.creditors (h : s.Core) {ids : List PaymentID}
    (hlegs : Along (Network.withCreditorLeg now) CreditorPaid s ids) :
    (run (Network.withCreditorLeg now) s ids).Core :=
  hlegs.invariant (fun _ _ ht ⟨_, _, _, _, hc⟩ => ht.withCreditorLeg hc) h

omit [AddCommGroup Amount] [LinearOrder Amount] in
/-- Creditor legs change nothing but banks and payments. -/
theorem run_withCreditorLeg_frame (now : Time) (ids : List PaymentID)
    (s : Network Amount) : ∃ banks payments, run (Network.withCreditorLeg now) s ids
      = { s with participants := banks, payments := payments } := by
  induction ids generalizing s with
  | nil => exact ⟨s.participants, s.payments, rfl⟩
  | cons pid ids ih =>
    have hstep : ∃ banks payments, s.withCreditorLeg now pid
        = { s with participants := banks, payments := payments } := by
      unfold Network.withCreditorLeg
      split
      · exact ⟨s.participants, s.payments, rfl⟩
      · split
        · exact ⟨s.participants, s.payments, rfl⟩
        · split
          · exact ⟨s.participants, s.payments, rfl⟩
          · exact ⟨_, _, rfl⟩
    obtain ⟨banks, payments, hbanks⟩ := hstep
    obtain ⟨banks', payments', hbanks'⟩ := ih (s.withCreditorLeg now pid)
    refine ⟨banks', payments', ?_⟩
    rw [run, hbanks', hbanks]

/-- After the creditor legs the payments they are for are settled, and the
others are as before. -/
theorem lookup_run_withCreditorLeg {ids : List PaymentID} (hnodup : ids.Nodup)
    (hlegs : Along (Network.withCreditorLeg now) CreditorPaid s ids) (k : PaymentID) :
    (k ∉ ids → (run (Network.withCreditorLeg now) s ids).payments.lookup k
      = s.payments.lookup k) ∧
    (k ∈ ids → ∃ p p', s.payments.lookup k = some p ∧ p.SameTerms p' ∧
      (run (Network.withCreditorLeg now) s ids).payments.lookup k = some p' ∧
        p'.status = .settled) := by
  induction ids generalizing s with
  | nil => simp [run]
  | cons pid ids ih =>
    obtain ⟨hpid, hnodup'⟩ := List.nodup_cons.mp hnodup
    obtain ⟨⟨-, p, creditor, acct, hc⟩, hlegs'⟩ := hlegs
    have hlook : ∀ k, (s.withCreditorLeg now pid).payments.lookup k = _ :=
      lookup_withCreditorLeg hc
    obtain ⟨hout, hin⟩ := ih hnodup' hlegs'
    constructor
    · intro hk
      rw [List.mem_cons, not_or] at hk
      rw [run, hout hk.2, hlook, if_neg hk.1]
    · intro hk
      by_cases heq : k = pid
      · subst heq
        -- the payment is paid once, so it stays as this step leaves it
        have hpaid := hout hpid
        rw [hlook, if_pos rfl] at hpaid
        have hterms : p.SameTerms (creditedPayment now p creditor acct.glAccount) := rfl
        exact ⟨p, _, hc.stored, hterms, hpaid, rfl⟩
      · obtain ⟨q, q', hq, hterms, hq', hst⟩ := hin ((List.mem_cons.mp hk).resolve_left heq)
        rw [hlook, if_neg heq] at hq
        exact ⟨q, q', hq, hterms, hq', hst⟩

end Creditors

/-! ## The whole settlement -/

section Outcome

variable {s : Network Amount} {now : Time}
  {order₁ order₂ : MapOrder ParticipantID Amount} {id : CycleID}

/-- The central bank refuses the settlement of a cycle with error `e`. -/
structure SettlementRefused (now : Time) (order₁ : MapOrder ParticipantID Amount)
    (c : ClearingCycle Amount) (s : Network Amount) (e : Ledger.Err) : Prop where
  entries : s.settlementEntries (order₁.toList c.netPositions) ≠ []
  refused : ¬s.centralBank.Accepts
    (settleRequest c (s.settlementEntries (order₁.toList c.netPositions)))
  error : Book.postTransaction now
    (settleRequest c (s.settlementEntries (order₁.toList c.netPositions)))
    s.centralBank = .error e s.centralBank

/-- How a call of `SettleCycle` can end. -/
inductive SettleOutcome (now : Time) (order₁ order₂ : MapOrder ParticipantID Amount)
    (id : CycleID) (s : Network Amount) :
    EStateM.Result Err (Network Amount) (Settlement Amount) → Prop
  /-- There is no such closed cycle. -/
  | notClosed (e : Err) (he : e.ofLedger = none)
      (hno : ∀ c, s.cycles.lookup id = some c → c.status ≠ .closed) :
      SettleOutcome now order₁ order₂ id s (.error e s)
  /-- The central bank refuses. -/
  | refused (c : ClearingCycle Amount) (hc : s.cycles.lookup id = some c)
      (hclosed : c.status = .closed) (e : Ledger.Err)
      (hr : SettlementRefused now order₁ c s e) :
      SettleOutcome now order₁ order₂ id s (.error (.ledger e) s)
  /-- A bank refuses its mirror. What was posted before stays. -/
  | stuck (c : ClearingCycle Amount) (hc : s.cycles.lookup id = some c)
      (hclosed : c.status = .closed) (req : PostTransactionRequest Amount)
      (hreq : req = settleRequest c
        (s.settlementEntries (order₁.toList c.netPositions)))
      (hacc : s.centralBank.Accepts req)
      (pre post : List (ParticipantID × Amount)) (d : ParticipantID × Amount)
      (hlist : order₂.toList c.netPositions = pre ++ d :: post)
      (hmirrors : Along (withMirror now c) (MirrorAccepted c) (s.cbPosted now req)
        pre)
      (b : Participant Amount) (hbank : s.participants.lookup d.1 = some b)
      (hnet : d.2 ≠ 0) (hrefused : ¬b.ledger.Accepts (mirrorRequest c d.1 b d.2))
      (e : Ledger.Err)
      (herror : Book.postTransaction now (mirrorRequest c d.1 b d.2) b.ledger
        = .error e b.ledger) :
      SettleOutcome now order₁ order₂ id s
        (.error (.ledger e) (run (withMirror now c) (s.cbPosted now req) pre))
  /-- All positions are settled and all creditors paid. -/
  | settled (c : ClearingCycle Amount) (hc : s.cycles.lookup id = some c)
      (hclosed : c.status = .closed) (tx : Option Ledger.TransactionID)
      (t u : Network Amount)
      (hpositions : PositionsSettled now order₁ order₂ c s (.ok tx t)) (ht : t.Core)
      (hlegs : Along (withCreditorLeg now) CreditorPaid t c.paymentIDs)
      (hu : u = run (withCreditorLeg now) t c.paymentIDs) :
      SettleOutcome now order₁ order₂ id s
        (.ok (u.newSettlement now c tx)
          (u.withSettlement id c (u.newSettlement now c tx)))

omit [AddCommGroup Amount] [LinearOrder Amount] in
/-- The positions of a cycle belong to different banks. -/
theorem position_ne {m : GoMap ParticipantID Amount}
    {order : MapOrder ParticipantID Amount} {pre post : List (ParticipantID × Amount)}
    {d : ParticipantID × Amount} (hlist : order.toList m = pre ++ d :: post) :
    ∀ d' ∈ pre, d.1 ≠ d'.1 := by
  have hnodup := order.nodup_toList m
  rw [hlist, List.map_append, List.map_cons, List.nodup_append] at hnodup
  intro d' hd' heq
  exact hnodup.2.2 d'.1 (List.mem_map_of_mem hd') d.1 List.mem_cons_self heq.symm

/-- The posting at the central bank leaves the key of the settlement in use. -/
theorem cbPosted_settled (h : s.Banks)
    {c : ClearingCycle Amount} {req : PostTransactionRequest Amount}
    (hkey : req.idempotencyKey = c.id.settleKey) (hacc : s.centralBank.Accepts req) :
    (s.cbPosted now req).cbKeyed c.id.settleKey ≠ none := by
  rw [cbKeyed_cbPosted h hacc, hkey, if_pos ⟨rfl, joinColon_ne_empty _ _⟩]
  exact Option.some_ne_none _

theorem Banks.cbSettled (h : s.Banks) {c : ClearingCycle Amount}
    {l : List (ParticipantID × Amount)} {req : PostTransactionRequest Amount}
    (hreq : req = settleRequest c (s.settlementEntries l))
    (hacc : s.centralBank.Accepts req) : (s.cbPosted now req).Banks := by
  refine h.cbPosted hacc ?_
  rw [hreq]
  exact fun e he => settlementEntries_declared he

/-- The invariant holds after the posting at the central bank. -/
theorem Core.cbSettled (h : s.Core) {c : ClearingCycle Amount}
    (hc : s.cycles.lookup id = some c) {l : List (ParticipantID × Amount)}
    {req : PostTransactionRequest Amount} (hreq : req = settleRequest c (s.settlementEntries l))
    (hacc : s.centralBank.Accepts req) : (s.cbPosted now req).Core := by
  have hkey : req.idempotencyKey = c.id.settleKey := hreq ▸ rfl
  have hid := h.records.cycle_id id c hc
  have hmem := Finmap.mem_of_lookup_eq_some hc
  have hlegs : (s.cbPosted now req).Legs := by
    refine h.legs.cbPosted h.banks hacc ?_ fun _ => .inl ⟨id, hmem, hid ▸ hkey⟩
    intro pid p hp heq
    rw [hkey, hid, h.records.payment_id pid p hp] at heq
    have hfree := h.records.payment_colonFree (Finmap.mem_of_lookup_eq_some hp)
    have hsuffix :=
      ((joinColon_inj (h.records.cycle_colonFree hmem) hfree).mp heq).2
    exact absurd hsuffix (by decide)
  exact h.of_books (h.banks.cbSettled hreq hacc) hlegs (.of_eq rfl) rfl rfl rfl rfl le_rfl

/-- `SettleCycle` ends in one of these ways. -/
theorem WF.settleCycle_outcome (h : s.WF) (now : Time)
    (order₁ order₂ : MapOrder ParticipantID Amount) (id : CycleID) :
    SettleOutcome now order₁ order₂ id s (settleCycle now order₁ order₂ id s) := by
  rcases settleCycle_eq now order₁ order₂ id s with
    ⟨e, he, hledger, hno⟩ | ⟨c, hc, hclosed, herror, hok⟩
  · rw [he]
    exact .notClosed e hledger hno
  have hid := h.records.cycle_id id c hc
  have hkeys : ∀ i v, c.netPositions.lookup i = some v → i ∈ s.participants :=
    fun i _ hv => h.positions.keys id c hc i (Finmap.mem_of_lookup_eq_some hv)
  have hpositions := settlePositions_cases now order₁ order₂ hkeys
  generalize hr : settlePositions now order₁ order₂ c s = r at hpositions
  -- the payments of a closed cycle are cleared, and stay so up to their own leg
  have hcleared : ∀ t : Network Amount, t.payments = s.payments → ∀ pid ∈ c.paymentIDs,
      ∃ p, t.payments.lookup pid = some p ∧ p.status = .cleared := by
    intro t ht pid hpid
    obtain ⟨p, hp, hfits⟩ := h.members_fit hc hpid
    rw [hclosed] at hfits
    exact ⟨p, ht ▸ hp, hfits⟩
  have hcomplete : ∀ tx t, r = .ok tx t → t.Core → t.payments = s.payments →
      SettleOutcome now order₁ order₂ id s (settleCycle now order₁ order₂ id s) := by
    rintro tx t rfl ht hpay
    obtain ⟨hlegs, hloop⟩ :=
      ht.payCreditors now (h.cycles.nodup id c hc) (hcleared t hpay)
    rw [hok tx t _ hr hloop]
    exact .settled c hc hclosed tx t _ hpositions ht hlegs rfl
  cases hpositions with
  | nothing hentries => exact hcomplete none s rfl h.toCore rfl
  | refused hentries req hreq hacc e he =>
    rw [herror _ _ hr]
    subst hreq
    exact .refused c hc hclosed e ⟨hentries, hacc, he⟩
  | settled req hreq hacc hmirrors =>
    have hkey : req.idempotencyKey = c.id.settleKey := hreq ▸ rfl
    have hcb : (s.cbPosted now req).Core := h.cbSettled hc hreq hacc
    have hcore := hcb.mirrors (hid ▸ Finmap.mem_of_lookup_eq_some hc)
      (cbPosted_settled h.banks hkey hacc) hmirrors
    obtain ⟨banks, hbanks⟩ := run_withMirror_frame now c
      (order₂.toList c.netPositions) (s.cbPosted now req)
    refine hcomplete _ _ rfl hcore ?_
    rw [hbanks]
    rfl
  | stuck req hreq hacc pre post d hlist hmirrors e hrefused =>
    rw [herror _ _ hr]
    obtain ⟨b, e', hnet, hbank, hnacc, he', rfl⟩ := hrefused
    -- the mirrors before this one were posted in other banks
    rw [lookup_run_withMirror fun d' h' _ => position_ne hlist d' h'] at hbank
    exact .stuck c hc hclosed req hreq hacc pre post d hlist hmirrors b hbank hnet hnacc
      e' he'

/-- The mirror of a cycle that the central bank has not settled is under an
unused key. -/
theorem Core.mirror_unused {s : Network Amount} (h : s.Core)
    {c : ClearingCycle Amount} (hc : s.cycles.lookup id = some c)
    (hunsettled : s.cbKeyed c.id.settleKey = none) {i : ParticipantID}
    {b : Participant Amount} (hbank : s.participants.lookup i = some b) :
    b.ledger.idempotencyIndex.lookup (c.id.mirrorKey i) = none := by
  have hid := h.records.cycle_id id c hc
  rw [← (h.banks.bank i b hbank).ledger.keyed_eq_none, ← keyed_of_bank hbank]
  exact h.legs.keys.unmirrored h.records (hid ▸ Finmap.mem_of_lookup_eq_some hc)
    hunsettled i

/-- A bank refuses a mirror under an unused key only because its position is
negative and its reserve does not cover it. -/
theorem mirror_refused {b : Participant Amount} (h : b.WF) {c : ClearingCycle Amount}
    {i : ParticipantID} {net : Amount} (hne : net ≠ 0) (hneg : net < 0 → 0 < -net)
    (hkey : b.ledger.idempotencyIndex.lookup (c.id.mirrorKey i) = none)
    (hrefused : ¬b.ledger.Accepts (mirrorRequest c i b net)) {e : Ledger.Err}
    (he : Book.postTransaction now (mirrorRequest c i b net) b.ledger
      = .error e b.ledger) :
    e = .insufficientBalance ∧ net < 0 ∧ b.ledger.balance b.reserveAccount + net < 0 := by
  have hnpos : ¬0 < net := fun hpos => hrefused (mirror_accepts_of_pos h hpos hkey)
  have hnet : net < 0 := lt_of_le_of_ne (not_lt.mp hnpos) hne
  have hentries : (mirrorRequest c i b net).entries
      = transfer b.suspenseAccount b.reserveAccount (-net) := if_neg hnpos
  have hshort : ¬b.ledger.Sufficient (transfer b.suspenseAccount b.reserveAccount (-net)) :=
    fun hsuff => hrefused
      (.transfer hentries (hneg hnet) h.suspense_mem h.reserve_mem (.inr hkey) hsuff)
  have hrefusal := (Book.postTransaction_transfer hentries (hneg hnet) h.suspense_mem
    h.reserve_mem now).2 (.inr hkey) hshort
  cases hrefusal.symm.trans he
  refine ⟨rfl, hnet, ?_⟩
  by_contra hcovered
  rw [← sub_neg_eq_add] at hcovered
  exact hshort (h.sufficient_of_reserve h.chart.suspense_ne_reserve hcovered)

variable [IsOrderedAddMonoid Amount]

/-- Where amounts are exact, the central bank refuses a settlement only because
it has posted it before. -/
theorem SettlementRefused.duplicate (h : s.Core) {c : ClearingCycle Amount}
    (hc : s.cycles.lookup id = some c) {e : Ledger.Err}
    (hr : SettlementRefused now order₁ c s e) :
    e = .duplicateIdempotencyKey ∧ s.cbKeyed id.settleKey ≠ none := by
  have hid := h.records.cycle_id id c hc
  have hused : s.cbKeyed c.id.settleKey ≠ none := fun hnone =>
    hr.refused (h.settle_accepts hc order₁ hr.entries hnone)
  have hdup : Book.postTransaction now (settleRequest c _) s.centralBank = _ :=
    Book.postTransaction_duplicate hr.entries
      (fun e he => settlementEntries_positive (fun _ _ => neg_pos.mpr) he)
      (fun e he => h.banks.settlementEntries_accounts he) (by
        rw [← h.banks.centralBank.keyed_eq_none, not_or]
        exact ⟨joinColon_ne_empty _ _, hused⟩) now
  cases hdup.symm.trans hr.error
  exact ⟨rfl, hid ▸ hused⟩

end Outcome

end Network

end CoreBanking.Payment
