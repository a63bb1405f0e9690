import CoreBanking.Deposit.Numbering
import CoreBanking.Ledger.Keyed
import CoreBanking.Payment.Records
import Mathlib.Logic.Relation

/-!
# Updates of a network

`Network.Update` lists the single writes that the operations of a network are made of. An
operation that fails half way has made some of its writes, and a client or a bank may call
on a ledger at any time, so what every update keeps holds at every moment.

- `Update.retains`: an update puts nothing in the place of anything else;
- `Network.Sound`: banks and the central bank are in states that runs of their own lead to,
  entities have ids of their own, and what they refer to is there (`Network.Refers`);
- `Updates.sound`, `Updates.retains`: any number of updates keep the first and make the
  second;
- `Network.Outcome`: so does what a call leaves, which is updates, and in one case the entry
  that makes a cycle the open one of its scheme.
-/

namespace CoreBanking.Payment

open Ledger (Book newBook)
open Deposit (Register)

set_option linter.dupNamespace false

variable {Amount : Type}

/-! ## What stays of an entity -/

theorem Payment.SameTerms.symm {p p' : Payment Amount} (h : p.SameTerms p') :
    p'.SameTerms p := by
  rw [SameTerms, h]

/-- The mandates differ in their status at most. -/
def Mandate.Remains (m m' : Mandate Amount) : Prop := m' = { m with status := m'.status }

theorem Mandate.Remains.refl (m : Mandate Amount) : m.Remains m := rfl

theorem Mandate.Remains.trans {m m' m'' : Mandate Amount} (h : m.Remains m')
    (h' : m'.Remains m'') : m.Remains m'' := by
  rw [Remains, h', h]

/-- The cycles have the same id, scheme and time of opening. -/
def ClearingCycle.Remains (c c' : ClearingCycle Amount) : Prop :=
  c' = { c with
    status := c'.status
    paymentIDs := c'.paymentIDs
    netPositions := c'.netPositions
    closedAt := c'.closedAt
    settlementID := c'.settlementID }

theorem ClearingCycle.Remains.refl (c : ClearingCycle Amount) : c.Remains c := rfl

theorem ClearingCycle.Remains.symm {c c' : ClearingCycle Amount} (h : c.Remains c') :
    c'.Remains c := by
  rw [Remains, h]

theorem ClearingCycle.Remains.trans {c c' c'' : ClearingCycle Amount} (h : c.Remains c')
    (h' : c'.Remains c'') : c.Remains c'' := by
  rw [Remains, h', h]

namespace Participant

/-- The later state of the bank has what is in the two layers of the earlier one. -/
structure Retains (b b' : Participant Amount) : Prop where
  same : b' = { b with deposit := b'.deposit }
  deposit : b.deposit.Retains b'.deposit

namespace Retains

variable {b b' b'' : Participant Amount}

theorem refl (b : Participant Amount) : b.Retains b := ⟨rfl, .refl b.deposit⟩

theorem trans (h : b.Retains b') (h' : b'.Retains b'') : b.Retains b'' where
  same := by rw [h'.same, h.same]
  deposit := h.deposit.trans h'.deposit

end Retains

variable [AddCommGroup Amount] [LinearOrder Amount]

/-- The bank after a call on its deposit layer or on its ledger. -/
def exec (step : Time × Register.Step Amount) (b : Participant Amount) : Participant Amount :=
  b.withDeposit (Register.exec step b.deposit)

/-- The bank has its chart of accounts, and its layers are in a state that a run leads to. -/
structure Sound (b : Participant Amount) : Prop where
  chart : b.Chart
  reachable : b.deposit.Reachable

namespace Sound

variable {b : Participant Amount}

theorem retains_exec (h : b.Sound) (step : Time × Register.Step Amount) :
    b.Retains (b.exec step) :=
  ⟨rfl, Register.exec_retains step b.deposit h.chart.deposit⟩

/-- The accounts behind deposit accounts stay, and those behind new ones are new. -/
theorem exec (h : b.Sound) (step : Time × Register.Step Amount) : (b.exec step).Sound where
  chart := by
    have hwf := h.chart.deposit
    refine h.chart.withDeposit (Register.exec_wf step b.deposit hwf) (fun a acct ha => ?_) ?_
    · obtain ⟨acct', hacct', rfl⟩ := (h.retains_exec step).deposit.book.accounts a acct ha
      exact hacct'
    · obtain ⟨now, step⟩ := step
      cases step with
      | ledger op => exact fun id a ha => .inl ⟨a, ha, rfl⟩
      | register op =>
        rcases Register.exec_register now op b.deposit with heq | ht
        · rw [heq]
          exact fun id a ha => .inl ⟨a, ha, rfl⟩
        · intro id a ha
          rcases (ht.change.grows hwf).new id a ha with ⟨a', ha', hgl, -⟩ | hnew
          · exact .inl ⟨a', ha', hgl⟩
          · exact .inr hnew
  reachable := h.reachable.exec step

theorem linked (h : b.Sound) : b.deposit.Linked := by
  obtain ⟨steps, hsteps⟩ := h.reachable
  rw [hsteps]
  exact Register.linked_reached steps

end Sound

end Participant

namespace Network

/-! ## What stays of a network -/

/-- The later network has what the earlier one has, and the entities in it change in the
fields that operations write to at most. -/
structure Retains (s s' : Network Amount) : Prop where
  participants : Finmap.Retains Participant.Retains s.participants s'.participants
  payments : Finmap.Retains Payment.SameTerms s.payments s'.payments
  mandates : Finmap.Retains Mandate.Remains s.mandates s'.mandates
  cycles : Finmap.Retains ClearingCycle.Remains s.cycles s'.cycles
  settlements : Finmap.Retains Eq s.settlements s'.settlements
  endToEndIndex : Finmap.Retains Eq s.endToEndIndex s'.endToEndIndex
  centralBank : s.centralBank.Retains s'.centralBank

namespace Retains

variable {s s' s'' : Network Amount}

theorem refl (s : Network Amount) : s.Retains s where
  participants := .refl Participant.Retains.refl _
  payments := .refl Payment.SameTerms.refl _
  mandates := .refl Mandate.Remains.refl _
  cycles := .refl ClearingCycle.Remains.refl _
  settlements := .refl Eq.refl _
  endToEndIndex := .refl Eq.refl _
  centralBank := .refl _

theorem trans (h : s.Retains s') (h' : s'.Retains s'') : s.Retains s'' where
  participants := h.participants.trans Participant.Retains.trans h'.participants
  payments := h.payments.trans Payment.SameTerms.trans h'.payments
  mandates := h.mandates.trans Mandate.Remains.trans h'.mandates
  cycles := h.cycles.trans ClearingCycle.Remains.trans h'.cycles
  settlements := h.settlements.trans Eq.trans h'.settlements
  endToEndIndex := h.endToEndIndex.trans Eq.trans h'.endToEndIndex
  centralBank := h.centralBank.trans h'.centralBank

/-- A party stays a party, at the same bank and with the same account. -/
theorem same_party (h : s.Retains s') {ref : PartyRef} {b : Participant Amount}
    {a : Deposit.Account Amount} (hp : s.Party ref b a) :
    ∃ b' a', s'.Party ref b' a' ∧ b.Retains b' ∧ a.Remains a' := by
  obtain ⟨b', hb', hbank⟩ := h.participants _ b hp.bank
  obtain ⟨a', ha', hsame⟩ := hbank.deposit.accounts _ a hp.account
  exact ⟨b', a', ⟨hb', ha'⟩, hbank, hsame⟩

theorem party (h : s.Retains s') {ref : PartyRef} (hp : ∃ b a, s.Party ref b a) :
    ∃ b a, s'.Party ref b a := by
  obtain ⟨b, a, hp⟩ := hp
  obtain ⟨b', a', hp', -⟩ := h.same_party hp
  exact ⟨b', a', hp'⟩

end Retains

/-! ## References -/

/-- The debtor leg of a payment is in the ledger of the debtor's bank. It has gone from the
account of the debtor to the suspense of the bank. -/
def LegPosted (s : Network Amount) (p : Payment Amount) : Prop :=
  ∃ b a txID tx, s.Party p.debtor b a ∧ p.debtorLegTx = some txID ∧
    b.ledger.transactions.lookup txID = some tx ∧
    tx.Moves a.glAccount b.suspenseAccount p.amount

/-- What a payment refers to is there. -/
structure PaymentRefers (s : Network Amount) (p : Payment Amount) : Prop where
  debtor : ∃ b a, s.Party p.debtor b a
  creditor : ∃ b a, s.Party p.creditor b a
  cycle : p.cycleID ∈ s.cycles
  leg : s.LegPosted p

/-- The parties of a mandate are there. -/
structure MandateRefers (s : Network Amount) (m : Mandate Amount) : Prop where
  debtor : ∃ b a, s.Party m.debtor b a
  creditor : ∃ b a, s.Party m.creditor b a

/-- The payments of a cycle are there, and the banks that it has net positions for. -/
structure CycleRefers (s : Network Amount) (c : ClearingCycle Amount) : Prop where
  payments : ∀ pid ∈ c.paymentIDs, pid ∈ s.payments
  positions : ∀ i ∈ c.netPositions, i ∈ s.participants

/-- So are those of a settlement, and its cycle. -/
structure SettlementRefers (s : Network Amount) (st : Settlement Amount) : Prop where
  cycle : st.cycleID ∈ s.cycles
  positions : ∀ i ∈ st.netPositions, i ∈ s.participants

section Refers

variable {t t' : Network Amount}

theorem PaymentRefers.of_terms {p p' : Payment Amount} (h : t.PaymentRefers p)
    (hterms : p.SameTerms p') : t.PaymentRefers p' := by
  rw [hterms]
  exact ⟨h.debtor, h.creditor, h.cycle, h.leg⟩

theorem LegPosted.mono {p : Payment Amount} (h : t.LegPosted p) (hr : t.Retains t') :
    t'.LegPosted p := by
  obtain ⟨b, a, txID, tx, hparty, hleg, htx, hmoves⟩ := h
  obtain ⟨b', a', hparty', hbank, hacct⟩ := hr.same_party hparty
  obtain ⟨tx', htx', hsame⟩ := hbank.deposit.book.transactions txID tx htx
  refine ⟨b', a', txID, tx', hparty', hleg, htx', ?_⟩
  rw [hsame, hacct, hbank.same]
  exact hmoves

/-- References keep leading to something. -/
theorem PaymentRefers.mono {p : Payment Amount} (h : t.PaymentRefers p) (hr : t.Retains t') :
    t'.PaymentRefers p where
  debtor := hr.party h.debtor
  creditor := hr.party h.creditor
  cycle := hr.cycles.mem h.cycle
  leg := h.leg.mono hr

@[inherit_doc PaymentRefers.mono]
theorem MandateRefers.mono {m : Mandate Amount} (h : t.MandateRefers m) (hr : t.Retains t') :
    t'.MandateRefers m where
  debtor := hr.party h.debtor
  creditor := hr.party h.creditor

@[inherit_doc PaymentRefers.mono]
theorem CycleRefers.mono {c : ClearingCycle Amount} (h : t.CycleRefers c)
    (hr : t.Retains t') : t'.CycleRefers c where
  payments pid hpid := hr.payments.mem (h.payments pid hpid)
  positions i hi := hr.participants.mem (h.positions i hi)

@[inherit_doc PaymentRefers.mono]
theorem SettlementRefers.mono {st : Settlement Amount} (h : t.SettlementRefers st)
    (hr : t.Retains t') : t'.SettlementRefers st where
  cycle := hr.cycles.mem h.cycle
  positions i hi := hr.participants.mem (h.positions i hi)

/-- What the records of `s` refer to is there in `t`. -/
structure Refers (t s : Network Amount) : Prop where
  settlementAccount : ∀ i b, s.participants.lookup i = some b →
    b.settlementAccount ∈ t.centralBank.accounts
  payments : ∀ k p, s.payments.lookup k = some p → t.PaymentRefers p
  mandates : ∀ k m, s.mandates.lookup k = some m → t.MandateRefers m
  cycles : ∀ k c, s.cycles.lookup k = some c → t.CycleRefers c
  settlements : ∀ k st, s.settlements.lookup k = some st → t.SettlementRefers st
  openCycle : ∀ sc k, s.openCycle.lookup sc = some k → k ∈ t.cycles
  endToEndIndex : ∀ key k, s.endToEndIndex.lookup key = some k → k ∈ t.payments

theorem Refers.mono {s : Network Amount} (h : Refers t s) (hr : t.Retains t') :
    Refers t' s where
  settlementAccount i b hb := hr.centralBank.accounts.mem (h.settlementAccount i b hb)
  payments k p hp := (h.payments k p hp).mono hr
  mandates k m hm := (h.mandates k m hm).mono hr
  cycles k c hc := (h.cycles k c hc).mono hr
  settlements k st hst := (h.settlements k st hst).mono hr
  openCycle sc k hk := hr.cycles.mem (h.openCycle sc k hk)
  endToEndIndex key k hk := hr.payments.mem (h.endToEndIndex key k hk)

end Refers

variable [AddCommGroup Amount] [LinearOrder Amount]

/-! ## Updates -/

/-- The single writes that operations are made of. -/
inductive Update (s : Network Amount) : Network Amount → Prop
  | scheme (sc : Scheme) : Update s (s.registerScheme sc)
  | bank {i : ParticipantID} {b : Participant Amount} (hb : s.participants.lookup i = some b)
      (step : Time × Register.Step Amount) : Update s (s.setParticipant i (b.exec step))
  | centralBank (step : Time × Book.Op Amount) :
      Update s (s.setCentralBank (Book.exec step s.centralBank))
  | drawn : Update s { s with idCounter := s.idCounter + 1 }
  | joined (b : Participant Amount) (hid : b.id = ⟨ident "bank" (s.idCounter + 1)⟩)
      (hb : b.Sound) (hsettlement : b.settlementAccount ∈ s.centralBank.accounts) :
      Update s { s with
        participants := s.participants.insert b.id b, idCounter := s.idCounter + 1 }
  | mandated (m : Mandate Amount) (hid : m.id = ⟨ident "mnd" (s.idCounter + 1)⟩)
      (hm : s.MandateRefers m) :
      Update s { s with mandates := s.mandates.insert m.id m, idCounter := s.idCounter + 1 }
  | revoked {id : MandateID} {m : Mandate Amount} (hm : s.mandates.lookup id = some m) :
      Update s { s with mandates := s.mandates.insert id { m with status := .revoked } }
  | opened (c : ClearingCycle Amount) (hid : c.id = ⟨ident "cyc" (s.idCounter + 1)⟩)
      (hc : s.CycleRefers c) :
      Update s { s with cycles := s.cycles.insert c.id c, idCounter := s.idCounter + 1 }
  | closed (sc : SchemeID) : Update s { s with openCycle := s.openCycle.erase sc }
  | cycle {id : CycleID} {c : ClearingCycle Amount} (hc : s.cycles.lookup id = some c)
      (c' : ClearingCycle Amount) (hsame : c.Remains c') (hc' : s.CycleRefers c') :
      Update s (s.setCycle id c')
  | paid (p : Payment Amount) (hid : p.id = ⟨ident "pay" (s.idCounter + 1)⟩)
      (hp : s.PaymentRefers p) :
      Update s { s with payments := s.payments.insert p.id p, idCounter := s.idCounter + 1 }
  | payment {id : PaymentID} {p : Payment Amount} (hp : s.payments.lookup id = some p)
      (p' : Payment Amount) (hterms : p.SameTerms p') : Update s (s.setPayment id p')
  | indexed {key : String} (hkey : s.endToEndIndex.lookup key = none) {id : PaymentID}
      (hid : id ∈ s.payments) :
      Update s { s with endToEndIndex := s.endToEndIndex.insert key id }
  | settled (st : Settlement Amount) (hid : st.id = ⟨ident "set" (s.idCounter + 1)⟩)
      (hst : s.SettlementRefers st) :
      Update s { s with
        settlements := s.settlements.insert st.id st, idCounter := s.idCounter + 1 }

/-- The entities of a network have ids of their own. -/
structure IDs (s : Network Amount) : Prop where
  participants : Stored ParticipantID.mk "bank" Participant.id s.idCounter s.participants
  payments : Stored PaymentID.mk "pay" Payment.id s.idCounter s.payments
  mandates : Stored MandateID.mk "mnd" Mandate.id s.idCounter s.mandates
  cycles : Stored CycleID.mk "cyc" ClearingCycle.id s.idCounter s.cycles
  settlements : Stored SettlementID.mk "set" Settlement.id s.idCounter s.settlements

/-- What holds of a network at every moment. -/
structure Sound (s : Network Amount) : Prop where
  ids : s.IDs
  banks : ∀ i b, s.participants.lookup i = some b → b.Sound
  centralBank : s.centralBank.Reachable
  refers : Refers s s

theorem Sound.centralBank_wf {s : Network Amount} (h : s.Sound) : s.centralBank.WF := by
  obtain ⟨steps, hsteps⟩ := h.centralBank
  rw [hsteps]
  exact Book.wf_reached steps

namespace Update

variable {s s' : Network Amount}

/-- The ids of new entities are not in use. -/
theorem retains (hu : Update s s') (h : s.Sound) : s.Retains s' := by
  have hsame := Retains.refl s
  cases hu with
  | scheme => exact { hsame with }
  | bank hb step =>
    exact { hsame with
      participants := .update Participant.Retains.refl hb ((h.banks _ _ hb).retains_exec step) }
  | centralBank step =>
    exact { hsame with centralBank := Book.exec_retains step s.centralBank h.centralBank_wf }
  | drawn => exact { hsame with }
  | joined b hid =>
    have hfresh := h.ids.participants.fresh (fun _ _ => ParticipantID.mk.inj) hid
    exact { hsame with participants := .insert Participant.Retains.refl hfresh b }
  | mandated m hid =>
    have hfresh := h.ids.mandates.fresh (fun _ _ => MandateID.mk.inj) hid
    exact { hsame with mandates := .insert Mandate.Remains.refl hfresh m }
  | revoked hm =>
    exact { hsame with mandates := .update Mandate.Remains.refl hm rfl }
  | opened c hid =>
    have hfresh := h.ids.cycles.fresh (fun _ _ => CycleID.mk.inj) hid
    exact { hsame with cycles := .insert ClearingCycle.Remains.refl hfresh c }
  | closed => exact { hsame with }
  | cycle hc c' hremains =>
    exact { hsame with cycles := .update ClearingCycle.Remains.refl hc hremains }
  | paid p hid =>
    have hfresh := h.ids.payments.fresh (fun _ _ => PaymentID.mk.inj) hid
    exact { hsame with payments := .insert Payment.SameTerms.refl hfresh p }
  | payment hp p' hterms =>
    exact { hsame with payments := .update Payment.SameTerms.refl hp hterms }
  | indexed hkey => exact { hsame with endToEndIndex := .insert Eq.refl hkey _ }
  | settled st hid =>
    have hfresh := h.ids.settlements.fresh (fun _ _ => SettlementID.mk.inj) hid
    exact { hsame with settlements := .insert Eq.refl hfresh st }

theorem ids (hu : Update s s') (h : s.IDs) : s'.IDs := by
  have hnext : IDs { s with idCounter := s.idCounter + 1 } :=
    { participants := h.participants.mono (Nat.le_succ _)
      payments := h.payments.mono (Nat.le_succ _)
      mandates := h.mandates.mono (Nat.le_succ _)
      cycles := h.cycles.mono (Nat.le_succ _)
      settlements := h.settlements.mono (Nat.le_succ _) }
  cases hu with
  | scheme => exact { h with }
  | bank hb step => exact { h with participants := h.participants.update hb rfl }
  | centralBank => exact { h with }
  | drawn => exact hnext
  | joined b hid => exact { hnext with participants := h.participants.insert hid }
  | mandated m hid => exact { hnext with mandates := h.mandates.insert hid }
  | revoked hm => exact { h with mandates := h.mandates.update hm rfl }
  | opened c hid => exact { hnext with cycles := h.cycles.insert hid }
  | closed => exact { h with }
  | cycle hc c' hremains =>
    exact { h with cycles := h.cycles.update hc (by rw [hremains]) }
  | paid p hid => exact { hnext with payments := h.payments.insert hid }
  | payment hp p' hterms =>
    exact { h with payments := h.payments.update hp (by rw [hterms]) }
  | indexed => exact { h with }
  | settled st hid => exact { hnext with settlements := h.settlements.insert hid }

/-- Every bank has made a step, or is new. -/
theorem banks (hu : Update s s')
    (h : ∀ i b, s.participants.lookup i = some b → b.Sound) :
    ∀ i b, s'.participants.lookup i = some b → b.Sound := by
  cases hu with
  | bank hb step => exact Finmap.forall_lookup_insert h ((h _ _ hb).exec step)
  | joined b hid hb => exact Finmap.forall_lookup_insert h hb
  | _ => exact h

theorem centralBank_reachable (hu : Update s s') (h : s.centralBank.Reachable) :
    s'.centralBank.Reachable := by
  cases hu with
  | centralBank step => exact h.exec step
  | _ => exact h

/-- An update takes a cycle out of the index of open ones at most. -/
theorem openCycle_kept (hu : Update s s') {sc : SchemeID} {id : CycleID}
    (hid : s'.openCycle.lookup sc = some id) : s.openCycle.lookup sc = some id := by
  cases hu with
  | closed sc' =>
    have hkept : (s.openCycle.erase sc').lookup sc = some id := hid
    rw [Finmap.lookup_erase_ite] at hkept
    split at hkept
    · cases hkept
    · exact hkept
  | _ => exact hid

/-- A new record refers to what is there, and so do the old ones. -/
theorem refers (hu : Update s s') (h : Refers s s) (hr : s.Retains s') : Refers s' s' := by
  have hold := h.mono hr
  cases hu with
  | scheme => exact { hold with }
  | bank hb step =>
    have hsettlement := hold.settlementAccount _ _ hb
    exact { hold with
      settlementAccount := Finmap.forall_lookup_insert hold.settlementAccount hsettlement }
  | centralBank => exact { hold with }
  | drawn => exact { hold with }
  | joined b hid hb hsettlement =>
    exact { hold with
      settlementAccount := Finmap.forall_lookup_insert hold.settlementAccount hsettlement }
  | mandated m hid hm =>
    exact { hold with mandates := Finmap.forall_lookup_insert hold.mandates (hm.mono hr) }
  | revoked hm =>
    obtain ⟨hdebtor, hcreditor⟩ := hold.mandates _ _ hm
    exact { hold with
      mandates := Finmap.forall_lookup_insert hold.mandates ⟨hdebtor, hcreditor⟩ }
  | opened c hid hc =>
    exact { hold with cycles := Finmap.forall_lookup_insert hold.cycles (hc.mono hr) }
  | closed sc =>
    exact { hold with
      openCycle := fun sc' k hk => hold.openCycle sc' k (openCycle_kept (.closed sc) hk) }
  | cycle hc c' hremains hc' =>
    exact { hold with cycles := Finmap.forall_lookup_insert hold.cycles (hc'.mono hr) }
  | paid p hid hp =>
    exact { hold with payments := Finmap.forall_lookup_insert hold.payments (hp.mono hr) }
  | @payment id p hp p' hterms =>
    have hp' := (hold.payments _ _ hp).of_terms hterms
    exact { hold with payments := Finmap.forall_lookup_insert hold.payments hp' }
  | indexed hkey hid =>
    exact { hold with endToEndIndex := Finmap.forall_lookup_insert hold.endToEndIndex hid }
  | settled st hid hst =>
    exact { hold with settlements := Finmap.forall_lookup_insert hold.settlements (hst.mono hr) }

theorem sound (hu : Update s s') (h : s.Sound) : s'.Sound where
  ids := hu.ids h.ids
  banks := hu.banks h.banks
  centralBank := hu.centralBank_reachable h.centralBank
  refers := hu.refers h.refers (hu.retains h)

end Update

/-- Any number of updates. -/
def Updates (s s' : Network Amount) : Prop := Relation.ReflTransGen Update s s'

namespace Updates

variable {s s' s'' : Network Amount}

theorem refl (s : Network Amount) : Updates s s := Relation.ReflTransGen.refl

theorem tail (hu : Updates s s') (hu' : Update s' s'') : Updates s s'' :=
  Relation.ReflTransGen.tail hu hu'

theorem trans (hu : Updates s s') (hu' : Updates s' s'') : Updates s s'' :=
  Relation.ReflTransGen.trans hu hu'

/-- Updates keep what holds at every moment, and all that is there. -/
theorem sound_retains (hu : Updates s s') (h : s.Sound) : s'.Sound ∧ s.Retains s' := by
  induction hu with
  | refl => exact ⟨h, .refl s⟩
  | tail _ hlast ih => exact ⟨hlast.sound ih.1, ih.2.trans (hlast.retains ih.1)⟩

theorem sound (hu : Updates s s') (h : s.Sound) : s'.Sound := (hu.sound_retains h).1

theorem retains (hu : Updates s s') (h : s.Sound) : s.Retains s' := (hu.sound_retains h).2

theorem openCycle_kept (hu : Updates s s') {sc : SchemeID} {id : CycleID}
    (hid : s'.openCycle.lookup sc = some id) : s.openCycle.lookup sc = some id := by
  induction hu with
  | refl => exact hid
  | tail _ hlast ih => exact ih (hlast.openCycle_kept hid)

end Updates

/-! ## Outcomes -/

/-- What a call leaves: updates, or besides an open cycle for a scheme that had none. -/
inductive Outcome (s : Network Amount) : Network Amount → Prop
  | updates {s' : Network Amount} (hu : Updates s s') : Outcome s s'
  | opened {s' : Network Amount} (hu : Updates s s') {sc : SchemeID}
      (hnone : s.openCycle.lookup sc = none) {id : CycleID} (hid : id ∈ s'.cycles) :
      Outcome s { s' with openCycle := s'.openCycle.insert sc id }

namespace Outcome

variable {s s' : Network Amount}

theorem sound (ho : Outcome s s') (h : s.Sound) : s'.Sound := by
  cases ho with
  | updates hu => exact hu.sound h
  | @opened t hu sc hnone id hid =>
    obtain ⟨hids, hbanks, hcb, hrefers⟩ := hu.sound h
    have hsame := Retains.refl t
    have hr : t.Retains { t with openCycle := t.openCycle.insert sc id } := { hsame with }
    have hold := hrefers.mono hr
    exact
      { ids := { hids with }
        banks := hbanks
        centralBank := hcb
        refers := { hold with
          openCycle := Finmap.forall_lookup_insert hold.openCycle hid } }

theorem retains (ho : Outcome s s') (h : s.Sound) : s.Retains s' := by
  cases ho with
  | updates hu => exact hu.retains h
  | opened hu hnone hid =>
    have hr := hu.retains h
    exact { hr with }

/-- A scheme has no other open cycle than before if it had one. -/
theorem openCycle_kept (ho : Outcome s s') {sc : SchemeID} {id id' : CycleID}
    (hid : s.openCycle.lookup sc = some id) (hid' : s'.openCycle.lookup sc = some id') :
    id' = id := by
  cases ho with
  | updates hu => exact Option.some.inj ((hu.openCycle_kept hid').symm.trans hid)
  | opened hu hnone hmem =>
    rcases Finmap.lookup_insert_eq_some.mp hid' with ⟨rfl, -⟩ | ⟨-, hold⟩
    · rw [hid] at hnone
      cases hnone
    · exact Option.some.inj ((hu.openCycle_kept hold).symm.trans hid)

end Outcome

end Network

end CoreBanking.Payment
