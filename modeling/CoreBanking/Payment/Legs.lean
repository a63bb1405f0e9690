import CoreBanking.Ledger.Keyed
import CoreBanking.Payment.Records

/-!
# The legs of a payment

Which transactions the ledgers hold under the keys of a payment is a function
of its status. `Network.Legs` says so for every stored payment, and says that
no other keys are in use than those of stored payments and cycles.

Every posting and every reversal of the network changes what is under one key,
in one ledger, so the legs of all payments that this key does not belong to are
as before (`PaymentLegs.congr`).
-/

namespace CoreBanking.Payment

set_option linter.dupNamespace false

open Ledger (Book PostTransactionRequest Transaction transfer)
open Deposit (Register)

/-! ## Keys -/

/-- The keys in the banks' ledgers that say how far a payment has got. -/
def PaymentID.legKeys (id : PaymentID) : List String :=
  [id.debitKey, id.creditKey, id.returnCreditKey]

/-- The keys that a payment may have in the banks' ledgers. -/
def PaymentID.keys (id : PaymentID) : List String :=
  [id.debitKey, id.creditKey, id.returnDebitKey, id.returnCreditKey]

theorem mem_legKeys {id : PaymentID} {a x : String} (ha : ColonFree a)
    (hid : ColonFree id.val) : joinColon a x ∈ id.legKeys ↔
      a = id.val ∧ x ∈ ["debit", "credit", "return-credit"] := by
  simp [PaymentID.legKeys, PaymentID.debitKey, PaymentID.creditKey,
    PaymentID.returnCreditKey, joinColon_inj ha hid, ← and_or_left]

theorem mem_keys {id : PaymentID} {a x : String} (ha : ColonFree a)
    (hid : ColonFree id.val) : joinColon a x ∈ id.keys ↔
      a = id.val ∧ x ∈ ["debit", "credit", "return-debit", "return-credit"] := by
  simp [PaymentID.keys, PaymentID.debitKey, PaymentID.creditKey,
    PaymentID.returnDebitKey, PaymentID.returnCreditKey, joinColon_inj ha hid,
    ← and_or_left]

theorem empty_not_mem_legKeys (id : PaymentID) : "" ∉ id.legKeys := by
  simp [PaymentID.legKeys, PaymentID.debitKey, PaymentID.creditKey,
    PaymentID.returnCreditKey, (joinColon_ne_empty _ _).symm]

/-- The suffix of a mirror key is none of those of a payment's keys. -/
theorem reserve_suffix (s : String) : joinColon "reserve" s ∉
    ["debit", "credit", "return-debit", "return-credit"] := by
  simp [joinColon, ← String.toList_inj, String.toList_append]

namespace Network

section Definitions

variable {Amount : Type}

/-- The transaction under a key in the ledger of bank `i`. -/
def keyed (s : Network Amount) (i : ParticipantID) (key : String) :
    Option (Transaction Amount) :=
  (s.participants.lookup i).bind fun b => b.ledger.keyed key

/-- The transaction under a key at the central bank. -/
def cbKeyed (s : Network Amount) (key : String) : Option (Transaction Amount) :=
  s.centralBank.keyed key

theorem keyed_of_bank {s : Network Amount} {i : ParticipantID}
    {b : Participant Amount} (hb : s.participants.lookup i = some b)
    (key : String) : s.keyed i key = b.ledger.keyed key := by
  rw [keyed, hb]
  rfl

theorem keyed_setParticipant (s : Network Amount) (i j : ParticipantID)
    (b : Participant Amount) (key : String) : (s.setParticipant i b).keyed j key
      = if j = i then b.ledger.keyed key else s.keyed j key := by
  rw [keyed, setParticipant_lookup]
  split <;> rfl

end Definitions

variable {Amount : Type}

/-! ## Changes under a key -/

section Changes

variable [AddCommGroup Amount] [LinearOrder Amount] {s : Network Amount}
  {now : Time} {i : ParticipantID} {b : Participant Amount}
  {req : PostTransactionRequest Amount}

/-- A posting in a bank's ledger adds the transaction under its key. -/
theorem keyed_posted (h : s.Banks) (hb : s.participants.lookup i = some b)
    (hacc : b.ledger.Accepts req) (j : ParticipantID) (key : String) :
    (s.posted now i b req).keyed j key =
      if j = i ∧ key = req.idempotencyKey ∧ key ≠ ""
      then some (b.ledger.newTransaction now req) else s.keyed j key := by
  rw [posted, keyed_setParticipant]
  show (if j = i then (b.ledger.record now _).keyed key else _) = _
  rw [(h.bank i b hb).ledger.keyed_record hacc]
  by_cases hj : j = i
  · subst hj
    simp [keyed_of_bank hb]
  · simp [hj]

/-- A posting leaves the other keys as they are. -/
theorem keyed_posted_of_ne (h : s.Banks) (hb : s.participants.lookup i = some b)
    (hacc : b.ledger.Accepts req) (j : ParticipantID) {key : String}
    (hne : key ≠ req.idempotencyKey) :
    (s.posted now i b req).keyed j key = s.keyed j key := by
  rw [keyed_posted h hb hacc, if_neg fun hk => hne hk.2.1]

/-- A posting at the central bank adds the transaction under its key. -/
theorem cbKeyed_cbPosted (h : s.Banks) (hacc : s.centralBank.Accepts req)
    (key : String) : (s.cbPosted now req).cbKeyed key =
      if key = req.idempotencyKey ∧ key ≠ ""
      then some (s.centralBank.newTransaction now req) else s.cbKeyed key :=
  h.centralBank.keyed_record hacc key

/-- A reversal changes what is under one key. -/
theorem keyed_reversed (h : s.Banks) (hb : s.participants.lookup i = some b)
    {original : Transaction Amount} {key : String}
    (horig : s.keyed i key = some original) (hstatus : original.status ≠ .reversed)
    (description : String) (j : ParticipantID) (key' : String) :
    (s.reversed now i b original.id original description).keyed j key' =
      if j = i ∧ key' = key then some { original with status := .reversed }
      else s.keyed j key' := by
  rw [keyed_of_bank hb] at horig
  rw [reversed, keyed_setParticipant]
  show (if j = i then (b.ledger.recordReversal now _ _ _).keyed key' else _) = _
  rw [(h.bank i b hb).ledger.keyed_recordReversal horig hstatus]
  by_cases hj : j = i
  · subst hj
    simp [keyed_of_bank hb]
  · simp [hj]

end Changes

end Network

/-! ## The legs of one payment -/

/-- The payment has reached its creditor. -/
def PaymentStatus.Paid (st : PaymentStatus) : Prop := st = .settled ∨ st = .returned

instance (st : PaymentStatus) : Decidable st.Paid :=
  inferInstanceAs (Decidable (_ ∨ _))

namespace Network

variable {Amount : Type}

/-- `t` is the debtor leg of the payment: it takes the amount from the debtor's
account into the suspense of the debtor's bank. -/
structure DebtorLeg (s : Network Amount) (p : Payment Amount)
    (t : Transaction Amount) : Prop where
  posted : s.keyed p.debtor.participant p.id.debitKey = some t
  named : p.debtorLegTx = some t.id
  moves : ∃ b a, s.Party p.debtor b a ∧
    t.Moves a.glAccount b.suspenseAccount p.amount
  valueDate : t.valueDate = p.valueDate
  reversed : t.status = .reversed ↔ p.status = .rejected

/-- `t` is the creditor leg of the payment: it releases the amount from the
suspense of the creditor's bank to the creditor's account. -/
structure CreditorLeg (s : Network Amount) (p : Payment Amount)
    (t : Transaction Amount) : Prop where
  posted : s.keyed p.creditor.participant p.id.creditKey = some t
  named : p.creditorLegTx = some t.id
  moves : ∃ b a, s.Party p.creditor b a ∧
    t.Moves b.suspenseAccount a.glAccount p.amount
  valueDate : t.valueDate = p.valueDate
  kept : t.status = .posted

/-- What the ledgers hold under the keys of a payment. -/
structure PaymentLegs (s : Network Amount) (p : Payment Amount) : Prop where
  debtor : ∃ t, s.DebtorLeg p t
  creditor : p.status.Paid → ∃ t, s.CreditorLeg p t
  unpaid : ¬p.status.Paid → s.keyed p.creditor.participant p.id.creditKey = none
  unreturned : p.status ≠ .returned →
    s.keyed p.creditor.participant p.id.returnCreditKey = none
  cbUnreturned : p.status ≠ .returned → s.cbKeyed p.id.returnSettleKey = none
  dated : ¬p.valueDate.IsZero

/-- The parties of a leg may grow. -/
theorem Grows.moves {s s' : Network Amount} (hg : s.Grows s') {ref : PartyRef}
    {P : Ledger.AccountID → Ledger.AccountID → Prop}
    (h : ∃ b a, s.Party ref b a ∧ P a.glAccount b.suspenseAccount) :
    ∃ b a, s'.Party ref b a ∧ P a.glAccount b.suspenseAccount := by
  obtain ⟨b, a, hparty, hP⟩ := h
  obtain ⟨b', a', hparty', hgrow, hgl⟩ := hg.party hparty
  refine ⟨b', a', hparty', ?_⟩
  rw [hgl, hgrow.suspense]
  exact hP

theorem DebtorLeg.congr {s s' : Network Amount} {p : Payment Amount}
    {t : Transaction Amount} (h : s.DebtorLeg p t) (hg : s.Grows s')
    (hkeyed : s'.keyed p.debtor.participant p.id.debitKey
      = s.keyed p.debtor.participant p.id.debitKey) : s'.DebtorLeg p t where
  posted := hkeyed.trans h.posted
  named := h.named
  moves := hg.moves (P := fun gl suspense => t.Moves gl suspense p.amount) h.moves
  valueDate := h.valueDate
  reversed := h.reversed

theorem CreditorLeg.congr {s s' : Network Amount} {p : Payment Amount}
    {t : Transaction Amount} (h : s.CreditorLeg p t) (hg : s.Grows s')
    (hkeyed : s'.keyed p.creditor.participant p.id.creditKey
      = s.keyed p.creditor.participant p.id.creditKey) : s'.CreditorLeg p t where
  posted := hkeyed.trans h.posted
  named := h.named
  moves := hg.moves (P := fun gl suspense => t.Moves suspense gl p.amount) h.moves
  valueDate := h.valueDate
  kept := h.kept

namespace PaymentLegs

variable {s s' : Network Amount} {p p' : Payment Amount}

/-- The legs of a payment depend on what is under its keys. -/
theorem congr (h : s.PaymentLegs p) (hg : s.Grows s')
    (hkeyed : ∀ i, ∀ key ∈ p.id.legKeys, s'.keyed i key = s.keyed i key)
    (hcb : s'.cbKeyed p.id.returnSettleKey = s.cbKeyed p.id.returnSettleKey) :
    s'.PaymentLegs p where
  debtor := by
    obtain ⟨t, ht⟩ := h.debtor
    exact ⟨t, ht.congr hg (hkeyed _ _ (by simp [PaymentID.legKeys]))⟩
  creditor hpaid := by
    obtain ⟨t, ht⟩ := h.creditor hpaid
    exact ⟨t, ht.congr hg (hkeyed _ _ (by simp [PaymentID.legKeys]))⟩
  unpaid hno := (hkeyed _ _ (by simp [PaymentID.legKeys])).trans (h.unpaid hno)
  unreturned hno := (hkeyed _ _ (by simp [PaymentID.legKeys])).trans (h.unreturned hno)
  cbUnreturned hno := hcb.trans (h.cbUnreturned hno)
  dated := h.dated

/-- The legs only tell apart three stages: rejected, paid, and returned. -/
theorem status (h : s.PaymentLegs p) (hterms : p.SameTerms p')
    (hleg : p'.creditorLegTx = p.creditorLegTx)
    (hrejected : p'.status = .rejected ↔ p.status = .rejected)
    (hpaid : p'.status.Paid ↔ p.status.Paid)
    (hreturned : p.status = .returned → p'.status = .returned) :
    s.PaymentLegs p' := by
  rw [hterms, hleg]
  refine ⟨?_, ?_, ?_, ?_, ?_, h.dated⟩
  · -- debtor
    obtain ⟨t, ht⟩ := h.debtor
    exact ⟨t, ht.posted, ht.named, ht.moves, ht.valueDate,
      ht.reversed.trans hrejected.symm⟩
  · -- creditor
    intro hp
    obtain ⟨t, ht⟩ := h.creditor (hpaid.mp hp)
    exact ⟨t, ht.posted, ht.named, ht.moves, ht.valueDate, ht.kept⟩
  · -- unpaid
    exact fun hp => h.unpaid fun hp' => hp (hpaid.mpr hp')
  · -- unreturned
    exact fun hp => h.unreturned fun hp' => hp (hreturned hp')
  · -- cbUnreturned
    exact fun hp => h.cbUnreturned fun hp' => hp (hreturned hp')

end PaymentLegs

/-! ## All keys -/

/-- The key is one that a stored payment may have. -/
def PaymentKey (s : Network Amount) (key : String) : Prop :=
  ∃ pid ∈ s.payments, key ∈ pid.keys

/-- The key is that of the mirror of a settlement that the central bank has
posted. -/
def MirrorKey (s : Network Amount) (i : ParticipantID) (key : String) : Prop :=
  ∃ cid ∈ s.cycles, key = cid.mirrorKey i ∧ s.cbKeyed cid.settleKey ≠ none

/-- The key is one that the central bank may use. -/
def CentralBankKey (s : Network Amount) (key : String) : Prop :=
  (∃ cid ∈ s.cycles, key = cid.settleKey) ∨ ∃ pid ∈ s.payments, key = pid.returnSettleKey

/-- No other keys are in use than those of stored payments and cycles. -/
structure Keys (s : Network Amount) : Prop where
  bank : ∀ i key, s.keyed i key ≠ none → s.PaymentKey key ∨ s.MirrorKey i key
  centralBank : ∀ key, s.cbKeyed key ≠ none → s.CentralBankKey key

namespace Keys

variable {s s' : Network Amount}

/-- More keys may be used as more payments and cycles are stored. -/
theorem step (h : s.Keys) (hpay : ∀ pid ∈ s.payments, pid ∈ s'.payments)
    (hcyc : ∀ cid ∈ s.cycles, cid ∈ s'.cycles)
    (hbank : ∀ i key, s'.keyed i key ≠ none →
      s.keyed i key ≠ none ∨ s'.PaymentKey key ∨ s'.MirrorKey i key)
    (hcb : ∀ key, s'.cbKeyed key ≠ none →
      s.cbKeyed key ≠ none ∨ s'.CentralBankKey key)
    (hkept : ∀ key, s.cbKeyed key ≠ none → s'.cbKeyed key ≠ none) : s'.Keys where
  bank i key hused := by
    rcases hbank i key hused with hold | hnew
    · rcases h.bank i key hold with ⟨pid, hpid, hkey⟩ | ⟨cid, hcid, hkey, hsettle⟩
      · exact .inl ⟨pid, hpay pid hpid, hkey⟩
      · exact .inr ⟨cid, hcyc cid hcid, hkey, hkept _ hsettle⟩
    · exact hnew
  centralBank key hused := by
    rcases hcb key hused with hold | hnew
    · rcases h.centralBank key hold with ⟨cid, hcid, hkey⟩ | ⟨pid, hpid, hkey⟩
      · exact .inl ⟨cid, hcyc cid hcid, hkey⟩
      · exact .inr ⟨pid, hpay pid hpid, hkey⟩
    · exact hnew

variable [Zero Amount] [LT Amount]

/-- The keys of a payment that is not stored are not in use. -/
theorem unused (h : s.Keys) (hr : s.Records) {pid : PaymentID}
    (hfree : ColonFree pid.val) (hpid : pid ∉ s.payments) (i : ParticipantID)
    {x : String} (hx : x ∈ ["debit", "credit", "return-debit", "return-credit"]) :
    s.keyed i (joinColon pid.val x) = none := by
  by_contra hused
  rcases h.bank i _ hused with ⟨q, hq, hkey⟩ | ⟨cid, hcid, hkey, -⟩
  · obtain ⟨heq, -⟩ := (mem_keys hfree (hr.payment_colonFree hq)).mp hkey
    have hid : pid = q := congrArg PaymentID.mk heq
    exact hpid (hid ▸ hq)
  · obtain ⟨-, hsuffix⟩ := (joinColon_inj hfree (hr.cycle_colonFree hcid)).mp hkey
    exact reserve_suffix i.val (hsuffix ▸ hx)

/-- No return of a payment that is not stored was settled. -/
theorem cbUnused (h : s.Keys) (hr : s.Records) {pid : PaymentID}
    (hfree : ColonFree pid.val) (hpid : pid ∉ s.payments) :
    s.cbKeyed pid.returnSettleKey = none := by
  by_contra hused
  rcases h.centralBank _ hused with ⟨cid, hcid, hkey⟩ | ⟨q, hq, hkey⟩
  · obtain ⟨-, hsuffix⟩ := (joinColon_inj hfree (hr.cycle_colonFree hcid)).mp hkey
    exact absurd hsuffix (by decide)
  · obtain ⟨heq, -⟩ := (joinColon_inj hfree (hr.payment_colonFree hq)).mp hkey
    have hid : pid = q := congrArg PaymentID.mk heq
    exact hpid (hid ▸ hq)

/-- A cycle that is not stored was not settled. -/
theorem unsettled (h : s.Keys) (hr : s.Records) {cid : CycleID}
    (hfree : ColonFree cid.val) (hcid : cid ∉ s.cycles) :
    s.cbKeyed cid.settleKey = none := by
  by_contra hused
  rcases h.centralBank _ hused with ⟨cid', hcid', hkey⟩ | ⟨q, hq, hkey⟩
  · obtain ⟨heq, -⟩ := (joinColon_inj hfree (hr.cycle_colonFree hcid')).mp hkey
    have hid : cid = cid' := congrArg CycleID.mk heq
    exact hcid (hid ▸ hcid')
  · obtain ⟨-, hsuffix⟩ := (joinColon_inj hfree (hr.payment_colonFree hq)).mp hkey
    exact absurd hsuffix (by decide)

/-- The positions of a cycle that the central bank has not settled are not
mirrored. -/
theorem unmirrored (h : s.Keys) (hr : s.Records) {cid : CycleID}
    (hcid : cid ∈ s.cycles) (hsettle : s.cbKeyed cid.settleKey = none)
    (i : ParticipantID) : s.keyed i (cid.mirrorKey i) = none := by
  have hfree := hr.cycle_colonFree hcid
  by_contra hused
  rcases h.bank i _ hused with ⟨q, hq, hkey⟩ | ⟨cid', hcid', hkey, hsettle'⟩
  · obtain ⟨-, hsuffix⟩ := (mem_keys hfree (hr.payment_colonFree hq)).mp hkey
    exact reserve_suffix i.val hsuffix
  · obtain ⟨heq, -⟩ := (joinColon_inj hfree (hr.cycle_colonFree hcid')).mp hkey
    have hid : cid = cid' := congrArg CycleID.mk heq
    exact hsettle' (hid ▸ hsettle)

end Keys

/-! ## The invariant -/

/-- The ledgers hold what the statuses of the payments say, and no other
keys. -/
structure Legs (s : Network Amount) : Prop where
  legs : ∀ id p, s.payments.lookup id = some p → s.PaymentLegs p
  keys : s.Keys

/-- Nothing changes under any key. -/
theorem Legs.frame {s s' : Network Amount} (h : s.Legs) (hg : s.Grows s')
    (hkeyed : ∀ i key, s'.keyed i key = s.keyed i key)
    (hcb : ∀ key, s'.cbKeyed key = s.cbKeyed key)
    (hpay : s'.payments = s.payments) (hcyc : ∀ cid ∈ s.cycles, cid ∈ s'.cycles) :
    s'.Legs where
  legs id p hp :=
    (h.legs id p (hpay ▸ hp)).congr hg (fun i key _ => hkeyed i key) (hcb _)
  keys := by
    refine h.keys.step (fun pid hpid => hpay ▸ hpid) hcyc ?_ ?_ ?_
    · intro i key hused
      rw [hkeyed] at hused
      exact .inl hused
    · intro key hused
      rw [hcb] at hused
      exact .inl hused
    · intro key hused
      rw [hcb]
      exact hused

/-- `CloseCycle` moves payments from accepted to cleared, which the legs do not
tell apart. -/
theorem Legs.withClosed [AddCommGroup Amount] {s : Network Amount} (h : s.Legs)
    {now : Time} {id : CycleID} {c : ClearingCycle Amount}
    (hids : ∀ pid ∈ c.paymentIDs, ∃ p, s.payments.lookup pid = some p ∧
      p.status = .accepted) : (s.withClosed now id c).Legs where
  legs k p' hp' := by
    have hlk := lookup_markCleared c.paymentIDs s.payments k
    rw [show (run markCleared s.payments c.paymentIDs).lookup k = some p' from hp']
      at hlk
    obtain ⟨p, hp, rfl⟩ := Option.map_eq_some_iff.mp hlk.symm
    have hlegs : (s.withClosed now id c).PaymentLegs p :=
      (h.legs k p hp).congr (.of_eq rfl) (fun _ _ _ => rfl) rfl
    split
    · next hmem =>
      obtain ⟨q, hq, hst⟩ := hids k hmem
      cases hp.symm.trans hq
      have hterms : p.SameTerms { p with status := .cleared } := rfl
      exact hlegs.status hterms rfl (by simp [hst]) (by simp [hst, PaymentStatus.Paid])
        (by simp [hst])
    · exact hlegs
  keys := by
    have hrelabel := Relabels.markCleared c.paymentIDs s.payments
    exact h.keys.step (fun pid hpid => hrelabel.mem.mpr hpid)
      (fun cid hcid => Finmap.mem_insert.mpr (.inr hcid)) (fun _ _ hused => .inl hused)
      (fun _ hused => .inl hused) (fun _ hused => hused)

/-! ## Postings and reversals -/

section Postings

variable [AddCommGroup Amount] [LinearOrder Amount] {s : Network Amount}
  {now : Time} {i : ParticipantID} {b : Participant Amount}
  {req : PostTransactionRequest Amount} {p : Payment Amount}

/-- A posting leaves the legs of a payment whose leg it is not. -/
theorem PaymentLegs.posted (h : s.PaymentLegs p) (hb : s.Banks)
    (hbank : s.participants.lookup i = some b) (hacc : b.ledger.Accepts req)
    (hne : req.idempotencyKey ∉ p.id.legKeys) :
    (s.posted now i b req).PaymentLegs p := by
  refine h.congr (.posted hbank now req) (fun j key hkey => ?_) rfl
  refine keyed_posted_of_ne hb hbank hacc j ?_
  rintro rfl
  exact hne hkey

theorem PaymentLegs.cbPosted (h : s.PaymentLegs p) (hb : s.Banks)
    (hacc : s.centralBank.Accepts req)
    (hne : req.idempotencyKey ≠ p.id.returnSettleKey) :
    (s.cbPosted now req).PaymentLegs p := by
  refine h.congr (.of_eq rfl) (fun _ _ _ => rfl) ?_
  rw [cbKeyed_cbPosted hb hacc, if_neg fun hk => hne hk.1.symm]

theorem Keys.posted (h : s.Keys) (hb : s.Banks)
    (hbank : s.participants.lookup i = some b) (hacc : b.ledger.Accepts req)
    (hkey : req.idempotencyKey ≠ "" →
      s.PaymentKey req.idempotencyKey ∨ s.MirrorKey i req.idempotencyKey) :
    (s.posted now i b req).Keys := by
  refine h.step (fun _ hpid => hpid) (fun _ hcid => hcid) ?_
    (fun _ hused => .inl hused) (fun _ hused => hused)
  intro j key hused
  rw [keyed_posted hb hbank hacc] at hused
  split at hused
  · -- the key that was just used
    next heq =>
    obtain ⟨rfl, rfl, hne⟩ := heq
    exact .inr (hkey hne)
  · exact .inl hused

theorem Keys.cbPosted (h : s.Keys) (hb : s.Banks)
    (hacc : s.centralBank.Accepts req)
    (hkey : req.idempotencyKey ≠ "" → s.CentralBankKey req.idempotencyKey) :
    (s.cbPosted now req).Keys := by
  have hcb : ∀ key, (s.cbPosted now req).cbKeyed key = _ := cbKeyed_cbPosted hb hacc
  refine h.step (fun _ hpid => hpid) (fun _ hcid => hcid)
    (fun _ _ hused => .inl hused) ?_ ?_
  · intro key hused
    rw [hcb] at hused
    split at hused
    · next heq =>
      obtain ⟨rfl, hne⟩ := heq
      exact .inr (hkey hne)
    · exact .inl hused
  · intro key hused
    rw [hcb]
    split
    · exact Option.some_ne_none _
    · exact hused

/-- A posting that is no leg of a payment. -/
theorem Legs.posted (h : s.Legs) (hb : s.Banks)
    (hbank : s.participants.lookup i = some b) (hacc : b.ledger.Accepts req)
    (hne : ∀ pid p, s.payments.lookup pid = some p →
      req.idempotencyKey ∉ p.id.legKeys)
    (hkey : req.idempotencyKey ≠ "" →
      s.PaymentKey req.idempotencyKey ∨ s.MirrorKey i req.idempotencyKey) :
    (s.posted now i b req).Legs where
  legs pid p hp := (h.legs pid p hp).posted hb hbank hacc (hne pid p hp)
  keys := h.keys.posted hb hbank hacc hkey

/-- A posting at the central bank that settles no return. -/
theorem Legs.cbPosted (h : s.Legs) (hb : s.Banks)
    (hacc : s.centralBank.Accepts req)
    (hne : ∀ pid p, s.payments.lookup pid = some p →
      req.idempotencyKey ≠ p.id.returnSettleKey)
    (hkey : req.idempotencyKey ≠ "" → s.CentralBankKey req.idempotencyKey) :
    (s.cbPosted now req).Legs where
  legs pid p hp := (h.legs pid p hp).cbPosted hb hacc (hne pid p hp)
  keys := h.keys.cbPosted hb hacc hkey

omit [AddCommGroup Amount] [LinearOrder Amount] in
/-- The legs after a payment is overwritten. -/
theorem Legs.setPayment {id : PaymentID} {p' : Payment Amount}
    (hlegs : ∀ k q, s.payments.lookup k = some q → k ≠ id → s.PaymentLegs q)
    (hleg : s.PaymentLegs p') (hkeys : s.Keys) : (s.setPayment id p').Legs where
  legs k q hq := by
    rcases Finmap.lookup_insert_eq_some.mp hq with ⟨-, rfl⟩ | ⟨hne, hold⟩
    · exact hleg.congr (.of_eq rfl) (fun _ _ _ => rfl) rfl
    · exact (hlegs k q hold hne).congr (.of_eq rfl) (fun _ _ _ => rfl) rfl
  keys := hkeys.step (fun _ hpid => Finmap.mem_insert.mpr (.inr hpid))
    (fun _ hcid => hcid) (fun _ _ hused => .inl hused) (fun _ hused => .inl hused)
    (fun _ hused => hused)

end Postings

/-! ## Operations -/

section Operations

variable [AddCommGroup Amount] [LinearOrder Amount] {s : Network Amount} {now : Time}

/-- A key of another payment is no leg of this one. -/
theorem Records.other_leg (hr : s.Records) {id k : PaymentID}
    {q : Payment Amount} (hid : ColonFree id.val)
    (hq : s.payments.lookup k = some q) (hne : k ≠ id) (x : String) :
    joinColon id.val x ∉ q.id.legKeys := by
  have hqid := hr.payment_id k q hq
  rw [hqid]
  intro hmem
  have hfree := hr.payment_colonFree (Finmap.mem_of_lookup_eq_some hq)
  obtain ⟨heq, -⟩ := (mem_legKeys hid hfree).mp hmem
  exact hne (congrArg PaymentID.mk heq.symm)

/-- A mirror is posted under the key of its cycle and bank. -/
theorem Legs.withMirror (h : s.Legs) (hb : s.Banks) (hr : s.Records)
    {c : ClearingCycle Amount} (hc : c.id ∈ s.cycles)
    (hsettle : s.cbKeyed c.id.settleKey ≠ none) {d : ParticipantID × Amount}
    (hmirror : s.MirrorAccepted c d) : (s.withMirror now c d).Legs := by
  rcases withMirror_cases now hmirror with ⟨-, heq⟩ | ⟨b, -, hbank, hacc, heq⟩
  · rw [heq]
    exact h
  · rw [heq]
    refine h.posted hb hbank hacc ?_ fun _ => .inr ⟨c.id, hc, rfl, hsettle⟩
    intro pid p hp hmem
    have hid := hr.payment_id pid p hp
    rw [hid] at hmem
    obtain ⟨-, hsuffix⟩ := (mem_legKeys (hr.cycle_colonFree hc)
      (hr.payment_colonFree (Finmap.mem_of_lookup_eq_some hp))).mp hmem
    -- the suffix of a mirror is the id of a bank, and that of a leg is not
    refine reserve_suffix d.1.val ?_
    simp only [List.mem_cons] at hsuffix ⊢
    tauto

/-- The refund of a return is no leg either. -/
theorem Legs.withRefund (h : s.Legs) (hb : s.Banks) (hr : s.Records)
    {id : PaymentID} {p : Payment Amount} {reason : String}
    {debtor : Participant Amount} {acct : Deposit.Account Amount}
    (hf : s.Refundable id p reason debtor acct) :
    (s.withRefund now p reason debtor acct.glAccount).Legs := by
  have hmem := Finmap.mem_of_lookup_eq_some hf.stored
  have hid := hr.payment_id id p hf.stored
  refine h.posted hb hf.debtor_exists.bank hf.accepts ?_ fun _ => .inl ⟨id, hmem, ?_⟩
  · intro k q hq hleg
    rw [hr.payment_id k q hq] at hleg
    obtain ⟨-, hsuffix⟩ := (mem_legKeys (hid ▸ hr.payment_colonFree hmem)
      (hr.payment_colonFree (Finmap.mem_of_lookup_eq_some hq))).mp hleg
    exact absurd hsuffix (by decide)
  · show p.id.returnDebitKey ∈ id.keys
    rw [hid]
    simp [PaymentID.keys]

/-- Paying the creditor posts the creditor leg. -/
theorem Legs.withCreditorLeg (h : s.Legs) (hb : s.Banks) (hr : s.Records)
    {pid : PaymentID} {p : Payment Amount} {creditor : Participant Amount}
    {acct : Deposit.Account Amount} (hc : s.Creditable pid p creditor acct) :
    (s.withCreditorLeg now pid).Legs := by
  have hmem := Finmap.mem_of_lookup_eq_some hc.stored
  have hfree := hr.payment_colonFree hmem
  have hid := hr.payment_id pid p hc.stored
  have hbank := hc.creditor_exists.bank
  rw [withCreditorLeg_eq hc.stored hc.creditor_exists]
  let req := creditRequest p creditor acct.glAccount
  let t := creditor.ledger.newTransaction now req
  let s₁ := s.posted now p.creditor.participant creditor req
  have hkeyed : ∀ j key, s₁.keyed j key = _ := keyed_posted hb hbank hc.accepts
  have hgrows : s.Grows s₁ := .posted hbank now req
  have hkeys : s₁.Keys := by
    refine h.keys.posted hb hbank hc.accepts fun _ => .inl ⟨pid, hmem, ?_⟩
    show p.id.creditKey ∈ pid.keys
    rw [hid]
    simp [PaymentID.keys]
  -- the other keys of the payment are as before
  have hother : ∀ j x, x ≠ "credit" →
      s₁.keyed j (joinColon p.id.val x) = s.keyed j (joinColon p.id.val x) := by
    intro j x hx
    refine keyed_posted_of_ne hb hbank hc.accepts j ?_
    show joinColon p.id.val x ≠ joinColon p.id.val "credit"
    exact fun heq => hx (joinColon_right.mp heq)
  have hold := h.legs pid p hc.stored
  -- the other payments keep their legs; this one has a new leg
  refine Legs.setPayment (s := s₁) ?_ ?_ hkeys
  · intro k q hq hne
    refine (h.legs k q hq).posted hb hbank hc.accepts ?_
    show p.id.creditKey ∉ q.id.legKeys
    rw [hid]
    exact hr.other_leg hfree hq hne "credit"
  · refine ⟨?_, fun _ => ⟨t, ?_⟩, ?_, ?_, ?_, hold.dated⟩
    · -- debtor
      obtain ⟨t', ht'⟩ := hold.debtor
      have ht := ht'.congr hgrows (hother _ _ (by decide))
      exact ⟨t', ht.posted, ht.named, ht.moves, ht.valueDate,
        ht.reversed.trans (by simp [hc.cleared, creditedPayment])⟩
    · -- creditor: the leg that was just posted
      refine ⟨?_, rfl, ?_, ?_, rfl⟩
      · refine (hkeyed _ _).trans (if_pos ⟨rfl, rfl, joinColon_ne_empty _ _⟩)
      · refine hgrows.moves (P := fun gl suspense => t.Moves suspense gl p.amount)
          ⟨creditor, acct, hc.creditor_exists, ?_⟩
        exact Book.newTransaction_moves _ now rfl
      · exact if_neg hold.dated
    · -- unpaid
      exact fun hno => absurd (.inl rfl) hno
    · -- unreturned
      exact fun _ => (hother _ _ (by decide)).trans
        (hold.unreturned (by simp [hc.cleared]))
    · -- cbUnreturned
      exact fun _ => hold.cbUnreturned (by simp [hc.cleared])

/-- A new payment has its debtor leg, and no other key. -/
theorem Legs.withPayment (h : s.Legs) (hb : s.Banks) (hr : s.Records)
    {req : InitiatePaymentRequest Amount} {scheme : Scheme} {cycleID : CycleID}
    {cycle : ClearingCycle Amount} {debtor : Participant Amount}
    {acct : Deposit.Account Amount} (hnow : 0 < now.ns)
    (hi : s.Initiates now req scheme cycleID cycle debtor acct) :
    (s.withPayment now req scheme cycleID cycle debtor acct.glAccount).Legs := by
  let p := s.acceptedPayment now req scheme cycleID debtor acct.glAccount
  let dreq := debitRequest now (s.initialPayment now req scheme cycleID) debtor
    acct.glAccount
  let t := debtor.ledger.newTransaction now dreq
  let s' := s.withPayment now req scheme cycleID cycle debtor acct.glAccount
  have hbank := hi.debtor_exists.bank
  have hfresh : s.payments.lookup p.id = none := hr.fresh_payment
  have hmem : p.id ∉ s.payments := Finmap.lookup_eq_none.mp hfresh
  have hfree : ColonFree p.id.val := colonFree_ident (by decide) _
  have hdated : ¬p.valueDate.IsZero := by
    show ¬now.ns + scheme.settlementDelay = 0
    have hdelay : 0 < scheme.settlementDelay := by
      cases scheme <;> decide
    omega
  have hkeyed : ∀ j key, s'.keyed j key =
      if j = req.debtor.participant ∧ key = p.id.debitKey ∧ key ≠ ""
      then some t else s.keyed j key := keyed_posted hb hbank hi.accepts
  have hgrows : s.Grows s' := .posted hbank now dreq
  have hother : ∀ j x, x ≠ "debit" →
      s'.keyed j (joinColon p.id.val x) = s.keyed j (joinColon p.id.val x) := by
    intro j x hx
    rw [hkeyed, if_neg]
    rintro ⟨-, heq, -⟩
    exact hx (joinColon_right.mp heq)
  refine ⟨?_, ?_⟩
  · intro k q hq
    rcases (Finmap.lookup_insert_fresh hfresh).mp hq with ⟨rfl, rfl⟩ | hold
    · refine ⟨⟨t, ?_⟩, ?_, ?_, ?_, ?_, hdated⟩
      · -- debtor: the leg that was just posted
        refine ⟨?_, rfl, ?_, if_neg hdated, ?_⟩
        · exact (hkeyed _ _).trans (if_pos ⟨rfl, rfl, joinColon_ne_empty _ _⟩)
        · refine hgrows.moves (P := fun gl suspense => t.Moves gl suspense p.amount)
            ⟨debtor, acct, hi.debtor_exists, ?_⟩
          exact Book.newTransaction_moves _ now rfl
        · show Ledger.TransactionStatus.posted = .reversed ↔ PaymentStatus.accepted = .rejected
          decide
      · -- creditor
        intro hpaid
        exact absurd hpaid (show ¬PaymentStatus.accepted.Paid by decide)
      · -- unpaid: no key of the new payment is in use
        exact fun _ => (hother _ _ (by decide)).trans
          (h.keys.unused hr hfree hmem _ (by decide))
      · -- unreturned
        exact fun _ => (hother _ _ (by decide)).trans
          (h.keys.unused hr hfree hmem _ (by decide))
      · -- cbUnreturned
        exact fun _ => h.keys.cbUnused hr hfree hmem
    · have hne : k ≠ p.id := by
        rintro rfl
        rw [hfresh] at hold
        cases hold
      refine (h.legs k q hold).congr hgrows (fun j key hkey => ?_) rfl
      rw [hkeyed, if_neg]
      rintro ⟨-, rfl, -⟩
      exact hr.other_leg hfree hold hne "debit" hkey
  · refine h.keys.step (fun _ hk => Finmap.mem_insert.mpr (.inr hk))
      (fun _ hk => Finmap.mem_insert.mpr (.inr hk)) ?_ (fun _ hused => .inl hused)
      (fun _ hused => hused)
    intro j key hused
    rw [hkeyed] at hused
    split at hused
    · next heq =>
      refine .inr (.inl ⟨p.id, Finmap.mem_insert.mpr (.inl rfl), ?_⟩)
      rw [heq.2.1]
      simp [PaymentID.keys]
    · exact .inl hused

/-- The transaction that `RejectPayment` reverses is the debtor leg. -/
theorem Legs.debtor_original (h : s.Legs) (hb : s.Banks) {id : PaymentID}
    {p : Payment Amount} {debtor : Participant Amount}
    {txID : Ledger.TransactionID} {original : Transaction Amount}
    (hp : s.payments.lookup id = some p) (hleg : p.debtorLegTx = some txID)
    (hbank : s.participants.lookup p.debtor.participant = some debtor)
    (hstored : debtor.ledger.transactions.lookup txID = some original) :
    original.id = txID ∧ s.DebtorLeg p original := by
  obtain ⟨t, ht⟩ := (h.legs id p hp).debtor
  have hposted := ht.posted
  rw [keyed_of_bank hbank, (hb.bank _ _ hbank).ledger.keyed_eq_some] at hposted
  cases hleg.symm.trans ht.named
  cases hstored.symm.trans hposted.2.1
  exact ⟨rfl, ht⟩

/-- The debtor leg took the money out of the debtor's account. -/
theorem Legs.debtor_moved (h : s.Legs) (hb : s.Banks) {id : PaymentID}
    {p : Payment Amount} {debtor : Participant Amount}
    {txID : Ledger.TransactionID} {original : Transaction Amount}
    (hp : s.payments.lookup id = some p) (hleg : p.debtorLegTx = some txID)
    (hbank : s.participants.lookup p.debtor.participant = some debtor)
    (hstored : debtor.ledger.transactions.lookup txID = some original) :
    ∃ a, s.Party p.debtor debtor a ∧
      original.Moves a.glAccount debtor.suspenseAccount p.amount := by
  obtain ⟨-, horiginal⟩ := h.debtor_original hb hp hleg hbank hstored
  obtain ⟨b, a, hparty, hmoves⟩ := horiginal.moves
  cases hbank.symm.trans hparty.bank
  exact ⟨a, hparty, hmoves⟩

/-- A rejected payment has its debtor leg reversed. -/
theorem Legs.withRejected (h : s.Legs) (hb : s.Banks) (hr : s.Records)
    {id : PaymentID} {p : Payment Amount} {reason : String}
    {debtor : Participant Amount} {txID : Ledger.TransactionID}
    {original : Transaction Amount} {c : ClearingCycle Amount}
    (hc : s.cycles.lookup p.cycleID = some c)
    (hp : s.payments.lookup id = some p) (hst : p.status = .accepted)
    (hleg : p.debtorLegTx = some txID)
    (hbank : s.participants.lookup p.debtor.participant = some debtor)
    (hstored : debtor.ledger.transactions.lookup txID = some original)
    (hposted : original.status ≠ .reversed) :
    (s.withRejected now id p reason debtor txID original).Legs := by
  have hid := hr.payment_id id p hp
  have hfree := hr.payment_colonFree (Finmap.mem_of_lookup_eq_some hp)
  obtain ⟨rfl, hold⟩ := h.debtor_original hb hp hleg hbank hstored
  let description := "Reject payment " ++ p.id.val ++ ": " ++ reason
  let s₁ := s.reversed now p.debtor.participant debtor original.id original description
  have hkeyed : ∀ j key, s₁.keyed j key =
      if j = p.debtor.participant ∧ key = p.id.debitKey
      then some { original with status := .reversed } else s.keyed j key :=
    keyed_reversed hb hbank hold.posted hposted description
  have hgrows : s.Grows s₁ := .setParticipant hbank (.withLedger debtor _)
  -- only the status of the debtor leg changes
  have hother : ∀ j x, x ≠ "debit" →
      s₁.keyed j (joinColon p.id.val x) = s.keyed j (joinColon p.id.val x) := by
    intro j x hx
    rw [hkeyed, if_neg]
    rintro ⟨-, heq⟩
    exact hx (joinColon_right.mp heq)
  have hlegs := h.legs id p hp
  have hkeys : s₁.Keys := by
    refine h.keys.step (fun _ hk => hk) (fun _ hk => hk) ?_ (fun _ hused => .inl hused)
      (fun _ hused => hused)
    intro j key hused
    rw [hkeyed] at hused
    split at hused
    · next heq =>
      rw [heq.1, heq.2, hold.posted]
      exact .inl (Option.some_ne_none _)
    · exact .inl hused
  have hfinal : (s₁.setPayment id
      { p with status := .rejected, rejectReason := reason }).Legs := by
    refine Legs.setPayment (s := s₁) ?_ ?_ hkeys
    · intro k q hq hne
      refine (h.legs k q hq).congr hgrows (fun j key hkey => ?_) rfl
      rw [hkeyed, if_neg]
      rintro ⟨-, rfl⟩
      rw [hid] at hkey
      exact hr.other_leg hfree hq hne "debit" hkey
    · refine ⟨⟨{ original with status := .reversed }, ?_⟩, ?_, ?_, ?_, ?_, hlegs.dated⟩
      · -- debtor: the leg is marked as reversed
        exact ⟨(hkeyed _ _).trans (if_pos ⟨rfl, rfl⟩), hold.named,
          hgrows.moves (P := fun gl suspense => original.Moves gl suspense p.amount)
            hold.moves, hold.valueDate, iff_of_true rfl rfl⟩
      · -- creditor
        intro hpaid
        exact absurd hpaid (show ¬PaymentStatus.rejected.Paid by decide)
      · -- unpaid
        exact fun _ => (hother _ _ (by decide)).trans
          (hlegs.unpaid (by simp [hst, PaymentStatus.Paid]))
      · -- unreturned
        exact fun _ => (hother _ _ (by decide)).trans (hlegs.unreturned (by simp [hst]))
      · -- cbUnreturned
        exact fun _ => hlegs.cbUnreturned (by simp [hst])
  rw [withRejected_eq hc]
  exact hfinal.frame (.of_eq rfl) (fun _ _ => rfl) (fun _ => rfl) rfl
    (fun _ hk => Finmap.mem_insert.mpr (.inr hk))

/-- Clawing the funds back and settling the return completes it. The state `s`
is the one after the refund. -/
theorem Legs.clawedBack (h : s.Legs) (hb : s.Banks) (hr : s.Records)
    {id : PaymentID} {p : Payment Amount} {reason : String}
    {creditor : Participant Amount} {ca : Deposit.Account Amount}
    {sreq : PostTransactionRequest Amount}
    (hp : s.payments.lookup id = some p) (hst : p.status = .settled)
    (hparty : s.Party p.creditor creditor ca)
    (hacc : creditor.ledger.Accepts (returnCreditRequest p reason creditor ca.glAccount))
    (hkey : sreq.idempotencyKey = p.id.returnSettleKey)
    (hcbacc : s.centralBank.Accepts sreq) :
    (((s.posted now p.creditor.participant creditor
      (returnCreditRequest p reason creditor ca.glAccount)).cbPosted now sreq).setPayment
        id { p with status := .returned, rejectReason := reason }).Legs := by
  have hmem := Finmap.mem_of_lookup_eq_some hp
  have hid := hr.payment_id id p hp
  have hfree := hr.payment_colonFree hmem
  let req := returnCreditRequest p reason creditor ca.glAccount
  let s₁ := s.posted now p.creditor.participant creditor req
  have hb₁ : s₁.Banks := hb.posted hparty.bank hacc (Ledger.declared_transfer _ _ _)
  have hcbacc₁ : s₁.centralBank.Accepts sreq := hcbacc
  have hgrows : s.Grows (s₁.cbPosted now sreq) := .posted hparty.bank now req
  -- the clawback uses one new key, and the settlement one at the central bank
  have hother : ∀ j x, x ≠ "return-credit" →
      s₁.keyed j (joinColon p.id.val x) = s.keyed j (joinColon p.id.val x) := by
    intro j x hx
    refine keyed_posted_of_ne hb hparty.bank hacc j ?_
    show joinColon p.id.val x ≠ joinColon p.id.val "return-credit"
    exact fun heq => hx (joinColon_right.mp heq)
  have hkeys₁ : s₁.Keys := by
    refine h.keys.posted hb hparty.bank hacc fun _ => .inl ⟨id, hmem, ?_⟩
    show p.id.returnCreditKey ∈ id.keys
    rw [hid]
    simp [PaymentID.keys]
  have hlegs := h.legs id p hp
  refine Legs.setPayment (s := s₁.cbPosted now sreq) ?_ ?_
    (hkeys₁.cbPosted hb₁ hcbacc₁ fun _ => .inr ⟨id, hmem, by rw [hkey, hid]⟩)
  · intro k q hq hne
    refine ((h.legs k q hq).posted hb hparty.bank hacc ?_).cbPosted hb₁ hcbacc₁ ?_
    · show p.id.returnCreditKey ∉ q.id.legKeys
      rw [hid]
      exact hr.other_leg hfree hq hne "return-credit"
    · rw [hkey, hid, hr.payment_id k q hq]
      intro heq
      have hfree' := hr.payment_colonFree (Finmap.mem_of_lookup_eq_some hq)
      exact hne (congrArg PaymentID.mk ((joinColon_inj hfree hfree').mp heq).1.symm)
  · refine ⟨?_, fun _ => ?_, ?_, ?_, ?_, hlegs.dated⟩
    · -- debtor
      obtain ⟨t, ht⟩ := hlegs.debtor
      have ht' := ht.congr hgrows (hother _ _ (by decide))
      exact ⟨t, ht'.posted, ht'.named, ht'.moves, ht'.valueDate,
        ht'.reversed.trans (by simp [hst])⟩
    · -- creditor
      obtain ⟨t, ht⟩ := hlegs.creditor (.inl hst)
      have ht' := ht.congr hgrows (hother _ _ (by decide))
      exact ⟨t, ht'.posted, ht'.named, ht'.moves, ht'.valueDate, ht'.kept⟩
    · -- unpaid
      exact fun hno => absurd (.inr rfl) hno
    · -- unreturned
      exact fun hno => absurd rfl hno
    · -- cbUnreturned
      exact fun hno => absurd rfl hno

end Operations

end Network

end CoreBanking.Payment
