import CoreBanking.Payment.PaymentEffects

/-!
# Payments, cycles and the parties they name

- `Payment.SameTerms`: what no operation changes about a payment;
- `Network.Grows`: what no operation changes about the banks;
- `Network.Records`: payments and cycles are stored under their own ids, drawn
  from the counter, and the parties of a payment exist.

Amounts stay positive and parties stay in existence because the terms of a
payment never change and banks only grow (`Records.step`).
-/

namespace CoreBanking.Payment

set_option linter.dupNamespace false

open Ledger (Book PostTransactionRequest)
open Deposit (Register)

/-! ## The terms of a payment -/

section Terms

variable {Amount : Type}

/-- The payments differ at most in status, reject reason and creditor leg. -/
def Payment.SameTerms (p p' : Payment Amount) : Prop :=
  p' = { p with
    status := p'.status
    rejectReason := p'.rejectReason
    creditorLegTx := p'.creditorLegTx }

theorem Payment.SameTerms.refl (p : Payment Amount) : p.SameTerms p := rfl

theorem Payment.SameTerms.trans {p q r : Payment Amount} (h : p.SameTerms q)
    (h' : q.SameTerms r) : p.SameTerms r := by
  rw [SameTerms] at h h' ⊢
  rw [h', h]

/-- The same payments, up to status, reject reason and creditor leg. -/
def Relabels (m m' : GoMap PaymentID (Payment Amount)) : Prop :=
  ∀ k, (m.lookup k = none ∧ m'.lookup k = none) ∨
    ∃ p p', m.lookup k = some p ∧ m'.lookup k = some p' ∧ p.SameTerms p'

namespace Relabels

variable {m m' : GoMap PaymentID (Payment Amount)}

theorem refl (m : GoMap PaymentID (Payment Amount)) : Relabels m m := by
  intro k
  cases h : m.lookup k with
  | none => exact .inl ⟨rfl, rfl⟩
  | some p => exact .inr ⟨p, p, rfl, rfl, .refl p⟩

theorem insert {k : PaymentID} {p p' : Payment Amount} (h : m.lookup k = some p)
    (hterms : p.SameTerms p') : Relabels m (m.insert k p') := by
  intro k'
  by_cases hk : k' = k
  · subst hk
    exact .inr ⟨p, p', h, Finmap.lookup_insert _, hterms⟩
  · rw [Finmap.lookup_insert_of_ne _ hk]
    exact refl m k'

theorem trans {m'' : GoMap PaymentID (Payment Amount)} (h : Relabels m m')
    (h' : Relabels m' m'') : Relabels m m'' := by
  intro k
  rcases h' k with ⟨hnone', hnone''⟩ | ⟨p', p'', hp', hp'', hterms'⟩
  · rcases h k with ⟨hnone, -⟩ | ⟨p, q, -, hq, -⟩
    · exact .inl ⟨hnone, hnone''⟩
    · cases hnone'.symm.trans hq
  · rcases h k with ⟨-, hnone⟩ | ⟨p, q, hp, hq, hterms⟩
    · cases hnone.symm.trans hp'
    · cases hp'.symm.trans hq
      exact .inr ⟨p, p'', hp, hp'', hterms.trans hterms'⟩

/-- A payment of the later map comes from one of the earlier. -/
theorem origin (h : Relabels m m') {k : PaymentID} {p' : Payment Amount}
    (hp : m'.lookup k = some p') : ∃ p, m.lookup k = some p ∧ p.SameTerms p' := by
  rcases h k with ⟨-, hnone⟩ | ⟨p, q, hm, hm', hterms⟩
  · rw [hnone] at hp
    cases hp
  · cases hm'.symm.trans hp
    exact ⟨p, hm, hterms⟩

/-- A payment of the earlier map is still in the later. -/
theorem kept (h : Relabels m m') {k : PaymentID} {p : Payment Amount}
    (hp : m.lookup k = some p) : ∃ p', m'.lookup k = some p' ∧ p.SameTerms p' := by
  rcases h k with ⟨hnone, -⟩ | ⟨q, p', hm, hm', hterms⟩
  · rw [hnone] at hp
    cases hp
  · cases hm.symm.trans hp
    exact ⟨p', hm', hterms⟩

theorem mem (h : Relabels m m') {k : PaymentID} : k ∈ m' ↔ k ∈ m := by
  rw [Finmap.mem_iff, Finmap.mem_iff]
  constructor
  · rintro ⟨p', hp'⟩
    obtain ⟨p, hp, -⟩ := h.origin hp'
    exact ⟨p, hp⟩
  · rintro ⟨p, hp⟩
    obtain ⟨p', hp', -⟩ := h.kept hp
    exact ⟨p', hp'⟩

/-- Marking payments cleared changes their status. -/
theorem markCleared (ids : List PaymentID) (m : GoMap PaymentID (Payment Amount)) :
    Relabels m (run Network.markCleared m ids) := by
  intro k
  rw [Network.lookup_markCleared]
  cases h : m.lookup k with
  | none => exact .inl ⟨rfl, rfl⟩
  | some p =>
    refine .inr ⟨p, _, rfl, rfl, ?_⟩
    split <;> rfl

end Relabels

end Terms

variable {Amount : Type}

/-! ## Banks that grow -/

/-- What a later state of a bank keeps of an earlier one. -/
structure Participant.Grows (b b' : Participant Amount) : Prop where
  suspense : b'.suspenseAccount = b.suspenseAccount
  reserve : b'.reserveAccount = b.reserveAccount
  settlement : b'.settlementAccount = b.settlementAccount
  accounts : ∀ id a, b.deposit.accounts.lookup id = some a →
    ∃ a', b'.deposit.accounts.lookup id = some a' ∧ a'.glAccount = a.glAccount

namespace Participant.Grows

theorem refl (b : Participant Amount) : b.Grows b :=
  ⟨rfl, rfl, rfl, fun _ a ha => ⟨a, ha, rfl⟩⟩

theorem withLedger (b : Participant Amount) (book : Book Amount) :
    b.Grows (b.withLedger book) :=
  ⟨rfl, rfl, rfl, fun _ a ha => ⟨a, ha, rfl⟩⟩

theorem withDeposit {b : Participant Amount} {r : Register Amount}
    (h : b.deposit.Grows r) : b.Grows (b.withDeposit r) :=
  ⟨rfl, rfl, rfl, fun id a ha =>
    let ⟨a', ha', hgl, _⟩ := h.accounts id a ha
    ⟨a', ha', hgl⟩⟩

theorem trans {b b' b'' : Participant Amount} (h : b.Grows b')
    (h' : b'.Grows b'') : b.Grows b'' where
  suspense := h'.suspense.trans h.suspense
  reserve := h'.reserve.trans h.reserve
  settlement := h'.settlement.trans h.settlement
  accounts id a ha := by
    obtain ⟨a', ha', hgl⟩ := h.accounts id a ha
    obtain ⟨a'', ha'', hgl'⟩ := h'.accounts id a' ha'
    exact ⟨a'', ha'', hgl'.trans hgl⟩

end Participant.Grows

namespace Network

/-- Every bank of the earlier state is a grown bank of the later. -/
def Grows (s s' : Network Amount) : Prop :=
  ∀ i b, s.participants.lookup i = some b →
    ∃ b', s'.participants.lookup i = some b' ∧ b.Grows b'

namespace Grows

variable {s s' : Network Amount}

theorem of_eq (h : s'.participants = s.participants) : s.Grows s' :=
  fun _ b hb => ⟨b, h ▸ hb, .refl b⟩

theorem trans {s'' : Network Amount} (h : s.Grows s') (h' : s'.Grows s'') :
    s.Grows s'' := by
  intro i b hb
  obtain ⟨b', hb', hg⟩ := h i b hb
  obtain ⟨b'', hb'', hg'⟩ := h' i b' hb'
  exact ⟨b'', hb'', hg.trans hg'⟩

theorem setParticipant {i : ParticipantID} {b b' : Participant Amount}
    (hb : s.participants.lookup i = some b) (hg : b.Grows b') :
    s.Grows (s.setParticipant i b') := by
  intro j c hc
  rw [setParticipant_lookup]
  by_cases hj : j = i
  · subst hj
    cases hb.symm.trans hc
    exact ⟨b', if_pos rfl, hg⟩
  · exact ⟨c, (if_neg hj).trans hc, .refl c⟩

theorem posted {i : ParticipantID} {b : Participant Amount}
    (hb : s.participants.lookup i = some b) (now : Time)
    (req : PostTransactionRequest Amount) : s.Grows (s.posted now i b req) :=
  setParticipant hb (.withLedger b _)

/-- A party stays a party. -/
theorem party (h : s.Grows s') {ref : PartyRef} {b : Participant Amount}
    {a : Deposit.Account Amount} (hp : s.Party ref b a) :
    ∃ b' a', s'.Party ref b' a' ∧ b.Grows b' ∧ a'.glAccount = a.glAccount := by
  obtain ⟨b', hb', hg⟩ := h _ b hp.bank
  obtain ⟨a', ha', hgl⟩ := hg.accounts _ a hp.account
  exact ⟨b', a', ⟨hb', ha'⟩, hg, hgl⟩

theorem party_exists (h : s.Grows s') {ref : PartyRef}
    (hp : ∃ b a, s.Party ref b a) : ∃ b a, s'.Party ref b a := by
  obtain ⟨b, a, hold⟩ := hp
  obtain ⟨b', a', hnew, -, -⟩ := h.party hold
  exact ⟨b', a', hnew⟩

theorem mem (h : s.Grows s') {i : ParticipantID} (hi : i ∈ s.participants) :
    i ∈ s'.participants := by
  obtain ⟨b, hb⟩ := Finmap.mem_iff.mp hi
  obtain ⟨b', hb', -⟩ := h i b hb
  exact Finmap.mem_of_lookup_eq_some hb'

end Grows

/-! ## Records -/

/-- Payments and cycles are stored under their own ids, and the parties of a
payment exist. -/
structure Records [Zero Amount] [LT Amount] (s : Network Amount) : Prop where
  paymentIDs : KeysUpTo PaymentID.mk "pay" s.idCounter s.payments
  cycleIDs : KeysUpTo CycleID.mk "cyc" s.idCounter s.cycles
  payment_id : ∀ id p, s.payments.lookup id = some p → p.id = id
  cycle_id : ∀ id c, s.cycles.lookup id = some c → c.id = id
  positive : ∀ id p, s.payments.lookup id = some p → 0 < p.amount
  debtor : ∀ id p, s.payments.lookup id = some p → ∃ b a, s.Party p.debtor b a
  creditor : ∀ id p, s.payments.lookup id = some p → ∃ b a, s.Party p.creditor b a

namespace Records

variable [Zero Amount] [LT Amount] {s s' : Network Amount}

theorem parties (h : s.Records) (id : PaymentID) (p : Payment Amount)
    (hp : s.payments.lookup id = some p) :
    (∃ b a, s.Party p.debtor b a) ∧ ∃ b a, s.Party p.creditor b a :=
  ⟨h.debtor id p hp, h.creditor id p hp⟩

theorem payment_colonFree (h : s.Records) {id : PaymentID}
    (hid : id ∈ s.payments) : ColonFree id.val := by
  obtain ⟨n, -, rfl⟩ := h.paymentIDs id hid
  exact colonFree_ident (by decide) n

theorem cycle_colonFree (h : s.Records) {id : CycleID} (hid : id ∈ s.cycles) :
    ColonFree id.val := by
  obtain ⟨n, -, rfl⟩ := h.cycleIDs id hid
  exact colonFree_ident (by decide) n

/-- The id of the next payment is not in use. -/
theorem fresh_payment (h : s.Records) :
    s.payments.lookup ⟨ident "pay" (s.idCounter + 1)⟩ = none :=
  h.paymentIDs.fresh (fun _ _ => PaymentID.mk.inj) (Nat.lt_succ_self _)

/-- The id of the next cycle is not in use. -/
theorem fresh_cycle (h : s.Records) :
    s.cycles.lookup ⟨ident "cyc" (s.idCounter + 1)⟩ = none :=
  h.cycleIDs.fresh (fun _ _ => CycleID.mk.inj) (Nat.lt_succ_self _)

/-- Banks may grow, payments be relabeled and cycles be overwritten. -/
theorem step (h : s.Records) (hg : s.Grows s') (hle : s.idCounter ≤ s'.idCounter)
    (hpay : Relabels s.payments s'.payments)
    (hcyc : ∀ id c', s'.cycles.lookup id = some c' →
      ∃ c, s.cycles.lookup id = some c ∧ c'.id = c.id) : s'.Records where
  paymentIDs k hk := h.paymentIDs.mono hle k (hpay.mem.mp hk)
  cycleIDs k hk := by
    obtain ⟨c', hc'⟩ := Finmap.mem_iff.mp hk
    obtain ⟨c, hc, -⟩ := hcyc k c' hc'
    exact h.cycleIDs.mono hle k (Finmap.mem_of_lookup_eq_some hc)
  payment_id k p' hp' := by
    obtain ⟨p, hp, hterms⟩ := hpay.origin hp'
    rw [hterms]
    exact h.payment_id k p hp
  cycle_id k c' hc' := by
    obtain ⟨c, hc, hid⟩ := hcyc k c' hc'
    rw [hid]
    exact h.cycle_id k c hc
  positive k p' hp' := by
    obtain ⟨p, hp, hterms⟩ := hpay.origin hp'
    rw [hterms]
    exact h.positive k p hp
  debtor k p' hp' := by
    obtain ⟨p, hp, hterms⟩ := hpay.origin hp'
    rw [hterms]
    exact hg.party_exists (h.debtor k p hp)
  creditor k p' hp' := by
    obtain ⟨p, hp, hterms⟩ := hpay.origin hp'
    rw [hterms]
    exact hg.party_exists (h.creditor k p hp)

/-- A new cycle gets a new id. -/
theorem withCycle (h : s.Records) (now : Time) (sc : SchemeID) :
    (s.withCycle (s.newCycle now sc)).Records := by
  have hg : s.Grows (s.withCycle (s.newCycle now sc)) := .of_eq rfl
  refine
    { paymentIDs := h.paymentIDs.mono (Nat.le_succ _)
      cycleIDs := h.cycleIDs.insert (Nat.le_succ _) le_rfl _
      payment_id := h.payment_id
      cycle_id := ?_
      positive := h.positive
      debtor := fun k p hp => hg.party_exists (h.debtor k p hp)
      creditor := fun k p hp => hg.party_exists (h.creditor k p hp) }
  exact Finmap.forall_lookup_insert h.cycle_id rfl

/-- A rejected payment keeps its terms. -/
theorem withRejected (h : s.Records) {now : Time} {id : PaymentID}
    {p : Payment Amount} {reason : String} {debtor : Participant Amount}
    {txID : Ledger.TransactionID} {original : Ledger.Transaction Amount}
    {c : ClearingCycle Amount} (hc : s.cycles.lookup p.cycleID = some c)
    (hp : s.payments.lookup id = some p)
    (hb : s.participants.lookup p.debtor.participant = some debtor) :
    (s.withRejected now id p reason debtor txID original).Records := by
  have hterms : p.SameTerms { p with status := .rejected, rejectReason := reason } :=
    rfl
  rw [withRejected_eq hc]
  refine h.step (.setParticipant hb (.withLedger debtor _)) le_rfl
    (.insert hp hterms) ?_
  exact Finmap.forall_lookup_insert (fun k d hd => ⟨d, hd, rfl⟩) ⟨c, hc, rfl⟩

end Records

/-- `CloseCycle` relabels payments. -/
theorem Records.withClosed [AddCommGroup Amount] [LT Amount] {s : Network Amount} (h : s.Records)
    {now : Time} {id : CycleID} {c : ClearingCycle Amount}
    (hc : s.cycles.lookup id = some c) : (s.withClosed now id c).Records := by
  refine h.step (.of_eq rfl) le_rfl (.markCleared c.paymentIDs s.payments) ?_
  exact Finmap.forall_lookup_insert (fun k d hd => ⟨d, hd, rfl⟩) ⟨c, hc, rfl⟩

/-- A new payment gets a new id, a positive amount, and existing parties. -/
theorem Records.withPayment [AddCommGroup Amount] [LinearOrder Amount]
    {s : Network Amount} (h : s.Records) {now : Time}
    {req : InitiatePaymentRequest Amount} {scheme : Scheme} {cycleID : CycleID}
    {cycle : ClearingCycle Amount} {debtor : Participant Amount}
    {acct : Deposit.Account Amount}
    (hi : s.Initiates now req scheme cycleID cycle debtor acct) :
    (s.withPayment now req scheme cycleID cycle debtor acct.glAccount).Records := by
  let p := s.acceptedPayment now req scheme cycleID debtor acct.glAccount
  let s' := s.withPayment now req scheme cycleID cycle debtor acct.glAccount
  have hg : s.Grows s' := .posted hi.debtor_exists.bank now _
  have hfresh : s.payments.lookup p.id = none := h.fresh_payment
  have hlook : ∀ {k q}, s'.payments.lookup k = some q ↔
      (k = p.id ∧ q = p) ∨ s.payments.lookup k = some q :=
    Finmap.lookup_insert_fresh hfresh
  refine
    { paymentIDs := h.paymentIDs.insert (Nat.le_succ _) le_rfl _
      cycleIDs := (h.cycleIDs.update (Finmap.mem_of_lookup_eq_some hi.cycle_stored) _).mono
        (Nat.le_succ _)
      payment_id := ?_, cycle_id := ?_, positive := ?_, debtor := ?_, creditor := ?_ }
  · -- payment_id
    intro k q hq
    rcases hlook.mp hq with ⟨rfl, rfl⟩ | hold
    · rfl
    · exact h.payment_id k q hold
  · -- cycle_id
    have hsame := h.cycle_id _ cycle hi.cycle_stored
    exact Finmap.forall_lookup_insert h.cycle_id hsame
  · -- positive
    intro k q hq
    rcases hlook.mp hq with ⟨rfl, rfl⟩ | hold
    · exact hi.positive
    · exact h.positive k q hold
  · -- debtor
    intro k q hq
    rcases hlook.mp hq with ⟨rfl, rfl⟩ | hold
    · exact hg.party_exists ⟨debtor, acct, hi.debtor_exists⟩
    · exact hg.party_exists (h.debtor k q hold)
  · -- creditor
    intro k q hq
    rcases hlook.mp hq with ⟨rfl, rfl⟩ | hold
    · exact hg.party_exists hi.creditor_exists
    · exact hg.party_exists (h.creditor k q hold)

end Network

end CoreBanking.Payment
