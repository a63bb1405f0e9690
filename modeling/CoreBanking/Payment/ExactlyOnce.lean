import CoreBanking.Payment.Lifecycle

/-!
# Every leg is posted once

`ExactlyOnce` says which transactions the ledgers hold for each cycle and each
payment: at most one settlement and one mirror for each bank, one debtor leg,
which is reversed exactly if the payment is rejected, and one creditor leg
exactly if the payment was settled. It holds in every state that a run of calls
reaches, repeated and failing calls included (`exactlyOnce_reached`).

The results hold for amounts in any ordered type with a group structure, so for
exact integers and for 64-bit ones alike.
-/

namespace CoreBanking.Ledger.Book

variable {Amount : Type}

/-- `t` is stored, and is the only transaction under its key. -/
structure Sole (s : Book Amount) (key : String) (t : Transaction Amount) : Prop where
  stored : s.transactions.lookup t.id = some t
  named : t.idempotencyKey = key
  unique : ∀ k t', s.transactions.lookup k = some t' → t'.idempotencyKey = key →
    k = t.id

/-- A transaction has one key. -/
theorem Sole.key_eq {s : Book Amount} {key key' : String} {t t' : Transaction Amount}
    (h : s.Sole key t) (h' : s.Sole key' t') (hid : t.id = t'.id) : key = key' := by
  have hsame := h.stored
  rw [hid, h'.stored] at hsame
  cases hsame
  exact h.named.symm.trans h'.named

/-- The transaction stored under `k` reverses the one with id `id`. -/
def Reverses (s : Book Amount) (k id : TransactionID) : Prop :=
  ∃ t, s.transactions.lookup k = some t ∧ t.reversalOf = some id

variable [AddCommGroup Amount] [LinearOrder Amount]

theorem WF.sole {s : Book Amount} (h : s.WF) {key : String} {t : Transaction Amount}
    (hkeyed : s.keyed key = some t) : s.Sole key t := by
  obtain ⟨hne, ht, hkey⟩ := h.keyed_eq_some.mp hkeyed
  refine ⟨ht, hkey, fun k t' hk hkey' => ?_⟩
  exact h.key_unique hk ht (hkey'.trans hkey.symm) (hkey' ▸ hne)

/-- A transaction is marked as reversed exactly if one transaction reverses
it. -/
theorem WF.reversed_iff {s : Book Amount} (h : s.WF) {t : Transaction Amount}
    (ht : s.transactions.lookup t.id = some t) :
    (t.status = .reversed → ∃! k, s.Reverses k t.id) ∧
      (t.status ≠ .reversed → ∀ k, ¬s.Reverses k t.id) := by
  constructor
  · intro hst
    obtain ⟨k, r, hk, hr⟩ := (h.reversed t.id t ht).mp hst
    refine ⟨k, ⟨r, hk, hr⟩, ?_⟩
    rintro k' ⟨r', hk', hr'⟩
    exact h.reversal_unique k' k r' r t.id hk' hk hr' hr
  · rintro hst k ⟨r, hk, hr⟩
    exact hst ((h.reversed t.id t ht).mpr ⟨k, r, hk, hr⟩)

end CoreBanking.Ledger.Book

namespace CoreBanking.Payment

open Ledger (Book Transaction TransactionID)

namespace Network

variable {Amount : Type}

/-- Which transactions the ledgers hold for each cycle and payment. -/
structure ExactlyOnce (s : Network Amount) : Prop where
  /-- A cycle is settled at the central bank at most once. -/
  settlement : ∀ (cid : CycleID) k k' t t',
    s.centralBank.transactions.lookup k = some t →
    s.centralBank.transactions.lookup k' = some t' →
    t.idempotencyKey = cid.settleKey → t'.idempotencyKey = cid.settleKey → k = k'
  /-- Its settlement is mirrored in each bank at most once. -/
  mirror : ∀ (cid : CycleID) i b k k' t t', s.participants.lookup i = some b →
    b.ledger.transactions.lookup k = some t → b.ledger.transactions.lookup k' = some t' →
    t.idempotencyKey = cid.mirrorKey i → t'.idempotencyKey = cid.mirrorKey i → k = k'
  /-- The debtor leg of a payment is posted once, and reversed exactly if the
  payment is rejected. -/
  debtor : ∀ pid p, s.payments.lookup pid = some p →
    ∃ b a t, s.Party p.debtor b a ∧ b.ledger.Sole p.id.debitKey t ∧
      p.debtorLegTx = some t.id ∧ t.Moves a.glAccount b.suspenseAccount p.amount ∧
      t.valueDate = p.valueDate ∧
      (t.status = .reversed ∧ (∃! k, b.ledger.Reverses k t.id)
        ↔ p.status = .rejected) ∧
      (p.status ≠ .rejected → t.status = .posted ∧ ∀ k, ¬b.ledger.Reverses k t.id)
  debtor_unshared : ∀ pid pid' p p', s.payments.lookup pid = some p →
    s.payments.lookup pid' = some p' →
    p.debtor.participant = p'.debtor.participant → p.debtorLegTx = p'.debtorLegTx →
    pid = pid'
  /-- The creditor leg of a payment is posted exactly if the payment has been
  settled, and then once, and it is never reversed. -/
  creditor_iff : ∀ pid p, s.payments.lookup pid = some p →
    ∃ b a, s.Party p.creditor b a ∧
      ((∃ k t, b.ledger.transactions.lookup k = some t ∧
          t.idempotencyKey = p.id.creditKey ∧
          t.Moves b.suspenseAccount a.glAccount p.amount ∧ t.valueDate = p.valueDate)
        ↔ p.status = .settled ∨ p.status = .returned) ∧
      (∀ k t, b.ledger.transactions.lookup k = some t →
        t.idempotencyKey = p.id.creditKey → p.status = .settled ∨ p.status = .returned)
  creditor : ∀ pid p, s.payments.lookup pid = some p →
    p.status = .settled ∨ p.status = .returned →
    ∃ b a t, s.Party p.creditor b a ∧ b.ledger.Sole p.id.creditKey t ∧
      p.creditorLegTx = some t.id ∧ t.Moves b.suspenseAccount a.glAccount p.amount ∧
      t.valueDate = p.valueDate ∧ t.status = .posted ∧ ∀ k, ¬b.ledger.Reverses k t.id
  creditor_unshared : ∀ pid pid' p p', s.payments.lookup pid = some p →
    s.payments.lookup pid' = some p' →
    p.creditor.participant = p'.creditor.participant →
    p.status = .settled ∨ p.status = .returned →
    p'.status = .settled ∨ p'.status = .returned →
    p.creditorLegTx = p'.creditorLegTx → pid = pid'

theorem not_reversed {st : Ledger.TransactionStatus} (h : st ≠ .reversed) :
    st = .posted := by
  cases st with
  | posted => rfl
  | reversed => exact absurd rfl h

variable [AddCommGroup Amount] [LinearOrder Amount] {s : Network Amount}

/-- Two payments whose legs of one kind are one transaction are the same. -/
theorem Records.leg_unshared (h : s.Records) {pid pid' : PaymentID}
    {p p' : Payment Amount} (hp : s.payments.lookup pid = some p)
    (hp' : s.payments.lookup pid' = some p') {x : String}
    (hkey : joinColon p.id.val x = joinColon p'.id.val x) : pid = pid' := by
  have hid := h.payment_id pid p hp
  have hid' := h.payment_id pid' p' hp'
  rw [hid, hid', joinColon_inj (h.payment_colonFree (Finmap.mem_of_lookup_eq_some hp))
    (h.payment_colonFree (Finmap.mem_of_lookup_eq_some hp'))] at hkey
  exact congrArg PaymentID.mk hkey.1

section Legs

variable {i : ParticipantID} {b : Participant Amount}

/-- A transaction that was posted under a key at a bank. -/
theorem Core.sole (h : s.Core) (hb : s.participants.lookup i = some b) {key : String}
    {t : Transaction Amount} (hkeyed : s.keyed i key = some t) : b.ledger.Sole key t :=
  (h.banks.bank i b hb).ledger.sole (keyed_of_bank hb key ▸ hkeyed)

/-- Legs of one kind at a bank that are one transaction belong to one payment. -/
theorem Core.unshared (h : s.Core) (hb : s.participants.lookup i = some b)
    {pid pid' : PaymentID} {p p' : Payment Amount} (hp : s.payments.lookup pid = some p)
    (hp' : s.payments.lookup pid' = some p') {x : String} {t t' : Transaction Amount}
    (hkeyed : s.keyed i (joinColon p.id.val x) = some t)
    (hkeyed' : s.keyed i (joinColon p'.id.val x) = some t')
    (hid : some t.id = some t'.id) : pid = pid' :=
  h.records.leg_unshared hp hp'
    ((h.sole hb hkeyed).key_eq (h.sole hb hkeyed') (Option.some.inj hid))

end Legs

theorem Core.exactlyOnce (h : s.Core) : s.ExactlyOnce where
  settlement cid k k' t t' hk hk' hkey hkey' :=
    h.banks.centralBank.key_unique hk hk' (hkey.trans hkey'.symm)
      (hkey ▸ joinColon_ne_empty _ _)
  mirror cid i b k k' t t' hb hk hk' hkey hkey' :=
    (h.banks.bank i b hb).ledger.key_unique hk hk' (hkey.trans hkey'.symm)
      (hkey ▸ joinColon_ne_empty _ _)
  debtor pid p hp := by
    obtain ⟨t, ht⟩ := (h.legs.legs pid p hp).debtor
    obtain ⟨b, a, hparty, hmoves⟩ := ht.moves
    have hsole := h.sole hparty.bank ht.posted
    obtain ⟨hreversed, hposted⟩ :=
      (h.banks.bank _ b hparty.bank).ledger.reversed_iff hsole.stored
    refine ⟨b, a, t, hparty, hsole, ht.named, hmoves, ht.valueDate, ?_, ?_⟩
    · rw [← ht.reversed]
      exact ⟨fun hr => hr.1, fun hr => ⟨hr, hreversed hr⟩⟩
    · intro hst
      have hkept : t.status ≠ .reversed := fun hr => hst (ht.reversed.mp hr)
      exact ⟨not_reversed hkept, hposted hkept⟩
  debtor_unshared pid pid' p p' hp hp' hbank hleg := by
    obtain ⟨t, ht⟩ := (h.legs.legs pid p hp).debtor
    obtain ⟨t', ht'⟩ := (h.legs.legs pid' p' hp').debtor
    obtain ⟨b, a, hparty, -⟩ := ht.moves
    rw [ht.named, ht'.named] at hleg
    exact h.unshared hparty.bank hp hp' ht.posted (hbank ▸ ht'.posted) hleg
  creditor_iff pid p hp := by
    have hlegs := h.legs.legs pid p hp
    obtain ⟨b, a, hparty⟩ := h.records.creditor pid p hp
    -- before the settlement the key is not in use
    have hpaid : ∀ k t, b.ledger.transactions.lookup k = some t →
        t.idempotencyKey = p.id.creditKey → p.status = .settled ∨ p.status = .returned := by
      intro k t hk hkey
      by_contra hno
      have hnone := hlegs.unpaid hno
      have hkeyed := (h.banks.bank _ b hparty.bank).ledger.keyed_of_stored hk
        (joinColon_ne_empty _ _) hkey
      rw [keyed_of_bank hparty.bank] at hnone
      cases hkeyed.symm.trans hnone
    refine ⟨b, a, hparty, ⟨?_, ?_⟩, hpaid⟩
    · rintro ⟨k, t, hk, hkey, -, -⟩
      exact hpaid k t hk hkey
    · intro hst
      obtain ⟨t, ht⟩ := hlegs.creditor hst
      obtain ⟨b', a', hparty', hmoves⟩ := ht.moves
      -- the leg was posted at the bank of the creditor, which has not changed
      cases hparty.bank.symm.trans hparty'.bank
      cases hparty.account.symm.trans hparty'.account
      have hsole := h.sole hparty.bank ht.posted
      exact ⟨t.id, t, hsole.stored, hsole.named, hmoves, ht.valueDate⟩
  creditor pid p hp hst := by
    obtain ⟨t, ht⟩ := (h.legs.legs pid p hp).creditor hst
    obtain ⟨b, a, hparty, hmoves⟩ := ht.moves
    have hsole := h.sole hparty.bank ht.posted
    have hkept : t.status ≠ .reversed := by
      rw [ht.kept]
      decide
    exact ⟨b, a, t, hparty, hsole, ht.named, hmoves, ht.valueDate, ht.kept,
      ((h.banks.bank _ b hparty.bank).ledger.reversed_iff hsole.stored).2 hkept⟩
  creditor_unshared pid pid' p p' hp hp' hbank hst hst' hleg := by
    obtain ⟨t, ht⟩ := (h.legs.legs pid p hp).creditor hst
    obtain ⟨t', ht'⟩ := (h.legs.legs pid' p' hp').creditor hst'
    obtain ⟨b, a, hparty, -⟩ := ht.moves
    rw [ht.named, ht'.named] at hleg
    exact h.unshared hparty.bank hp hp' ht.posted (hbank ▸ ht'.posted) hleg

/-- **Exactly once.** In every state reached from a new network each leg is
posted once, and the statuses a payment has taken on the way are `Accepted`,
`Cleared`, `Settled` and `Returned` in this order, as far as it has got, or
`Accepted` and `Rejected`. -/
theorem exactlyOnce_reached (start : Clock) (steps : List (Clock × Op Amount)) :
    (reached start steps).ExactlyOnce ∧
    ∀ pid,
      statusHistory pid (newNetwork Amount start.now) steps
          <+: [.accepted, .cleared, .settled, .returned] ∨
        statusHistory pid (newNetwork Amount start.now) steps = [.accepted, .rejected] := by
  refine ⟨(wf_reached start steps).exactlyOnce, fun pid => ?_⟩
  have hnone : (newNetwork Amount start.now).statusOf pid = none := by
    rw [statusOf, payments_newNetwork]
    rfl
  rcases (statusHistory_path (wf_newNetwork start.now) steps).1 hnone with
    hnil | ⟨l, hl, hpath⟩
  · rw [hnil]
    exact .inl List.nil_prefix
  · rw [hl]
    exact path_accepted hpath

end Network

end CoreBanking.Payment
