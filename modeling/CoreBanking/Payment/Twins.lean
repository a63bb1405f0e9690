import CoreBanking.Payment.BankTwins
import CoreBanking.Payment.Calls

/-!
# Networks that differ in client postings only

Two networks are twins (`Network.Twins`) when their banks are, with keys left aside at
every bank, and when they agree in everything else but the legs that their payments name.
A leg that a payment names is the transaction under the key of the payment.

Each part of an operation agrees on twins: a posting between two roles under a key that is
not left aside (`Twins.post`), the reversal of a debtor leg (`Twins.reverse`), a call on the
central bank (`Twins.onCentralBank`), and the checks that read the deposit layer.
-/

namespace CoreBanking.Payment

open Ledger (Book Entry PostTransactionRequest Transaction transfer)
open Deposit (Register)

namespace Network

section Payments

variable {Amount : Type} {ignored : ParticipantID → String → Prop} {s t : Network Amount}

/-- The account of bank `i` for a role. -/
def accountOf (s : Network Amount) (i : ParticipantID) (role : Role) :
    Option Ledger.AccountID :=
  (s.participants.lookup i).bind fun b => b.accountOf role

/-- In the ledger of bank `i`, the key belongs to the transaction. -/
def Keyed (s : Network Amount) (i : ParticipantID) (key : String)
    (txID : Ledger.TransactionID) : Prop :=
  ∃ b, s.participants.lookup i = some b ∧ b.ledger.idempotencyIndex.lookup key = some txID

/-- Two payments that differ in the legs that they name. -/
structure SamePayment (ignored : ParticipantID → String → Prop) (s t : Network Amount)
    (p p' : Payment Amount) : Prop where
  same : p' = { p with debtorLegTx := p'.debtorLegTx, creditorLegTx := p'.creditorLegTx }
  leg : ∃ txID, p.debtorLegTx = some txID ∧ s.Keyed p.debtor.participant p.id.debitKey txID
  leg' : ∃ txID, p'.debtorLegTx = some txID ∧
    t.Keyed p.debtor.participant p.id.debitKey txID
  visible : ¬ignored p.debtor.participant p.id.debitKey

theorem accountOf_bank {i : ParticipantID} {b : Participant Amount}
    (hb : s.participants.lookup i = some b) (role : Role) :
    s.accountOf i role = b.accountOf role := by
  rw [accountOf, hb]
  rfl

theorem party_of_accountOf {ref : PartyRef} {b : Participant Amount} {gl : Ledger.AccountID}
    (hb : s.participants.lookup ref.participant = some b)
    (hgl : s.accountOf ref.participant (.customer ref.account) = some gl) :
    ∃ a, s.Party ref b a ∧ a.glAccount = gl := by
  rw [accountOf_bank hb] at hgl
  obtain ⟨a, ha, heq⟩ := Option.map_eq_some_iff.mp hgl
  exact ⟨a, ⟨hb, ha⟩, heq⟩

/-- What is posted to the ledger of a bank opens no account. -/
theorem accountOf_withLedger {i : ParticipantID} {b : Participant Amount}
    (hb : s.participants.lookup i = some b) (book : Book Amount) :
    (s.setParticipant i (b.withLedger book)).accountOf = s.accountOf := by
  funext j role
  rw [accountOf, accountOf, setParticipant_lookup]
  split
  · next hj =>
    rw [hj, hb]
    rfl
  · rfl

/-- An accepted posting is under its key. -/
theorem Keyed.of_posted {i : ParticipantID} {b : Participant Amount} (now : Time)
    {req : PostTransactionRequest Amount} (hne : req.idempotencyKey ≠ "") :
    (s.posted now i b req).Keyed i req.idempotencyKey (b.ledger.newTransaction now req).id := by
  refine ⟨_, Finmap.lookup_insert _, ?_⟩
  show (if req.idempotencyKey = "" then _ else _ : GoMap String _).lookup _ = _
  rw [if_neg hne]
  exact Finmap.lookup_insert _

theorem Keyed.congr {s' : Network Amount} (h : s'.participants = s.participants)
    {i : ParticipantID} {key : String} {txID : Ledger.TransactionID}
    (hkey : s.Keyed i key txID) : s'.Keyed i key txID := by
  rw [Keyed, h]
  exact hkey

/-- Payments stay the same while the keys of their debtor legs are kept. -/
theorem SamePayment.exists_eq {p p' : Payment Amount} (h : SamePayment ignored s t p p') :
    ∃ leg leg', p' = { p with debtorLegTx := leg, creditorLegTx := leg' } :=
  ⟨_, _, h.same⟩

theorem SamePayment.mono {s' t' : Network Amount} {p p' : Payment Amount}
    (h : SamePayment ignored s t p p')
    (hs : ∀ {i key txID}, s.Keyed i key txID → s'.Keyed i key txID)
    (ht : ∀ {i key txID}, t.Keyed i key txID → t'.Keyed i key txID) :
    SamePayment ignored s' t' p p' where
  same := h.same
  leg := by
    obtain ⟨txID, hleg, hkey⟩ := h.leg
    exact ⟨txID, hleg, hs hkey⟩
  leg' := by
    obtain ⟨txID, hleg, hkey⟩ := h.leg'
    exact ⟨txID, hleg, ht hkey⟩
  visible := h.visible

/-- They may change alike, if they keep their debtor legs. -/
theorem SamePayment.update {p p' q q' : Payment Amount} (h : SamePayment ignored s t p p')
    (hsame : q' = { q with debtorLegTx := q'.debtorLegTx, creditorLegTx := q'.creditorLegTx })
    (hid : q.id = p.id) (hdebtor : q.debtor = p.debtor) (hleg : q.debtorLegTx = p.debtorLegTx)
    (hleg' : q'.debtorLegTx = p'.debtorLegTx) : SamePayment ignored s t q q' where
  same := hsame
  leg := by
    rw [hid, hdebtor, hleg]
    exact h.leg
  leg' := by
    rw [hid, hdebtor, hleg']
    exact h.leg'
  visible := by
    rw [hid, hdebtor]
    exact h.visible

/-- A bank that keeps its keys. -/
theorem Keyed.setParticipant {i : ParticipantID} {b c : Participant Amount}
    (hb : s.participants.lookup i = some b) (hkeys : b.ledger.KeepsKeys c.ledger)
    {j : ParticipantID} {key : String} {txID : Ledger.TransactionID}
    (hkey : s.Keyed j key txID) : (s.setParticipant i c).Keyed j key txID := by
  obtain ⟨d, hd, hlook⟩ := hkey
  by_cases hj : j = i
  · subst hj
    cases hb.symm.trans hd
    exact ⟨c, Finmap.lookup_insert _, hkeys key txID hlook⟩
  · exact ⟨d, (Finmap.lookup_insert_of_ne _ hj).trans hd, hlook⟩

end Payments

variable {Amount : Type} [AddCommGroup Amount] [LinearOrder Amount]
  {ignored : ParticipantID → String → Prop} {s t : Network Amount}

/-- Two states of a network that agree in everything the operations read, the `ignored`
keys of each bank left aside. -/
structure Twins (ignored : ParticipantID → String → Prop) (s t : Network Amount) :
    Prop where
  same : t = { s with participants := t.participants, payments := t.payments }
  /-- A posting without a key is not left aside. -/
  keyless : ∀ i, ¬ignored i ""
  ids : KeysUpTo ParticipantID.mk "bank" s.idCounter s.participants
  banks : ∀ i, Option.Rel (Participant.Twins (ignored i)) (s.participants.lookup i)
    (t.participants.lookup i)
  payments : ∀ k, Option.Rel (SamePayment ignored s t) (s.payments.lookup k)
    (t.payments.lookup k)

namespace Twins

/-- Twins are told apart by two components. -/
theorem exists_eq (h : Twins ignored s t) :
    ∃ participants payments, t = { s with participants := participants, payments := payments } :=
  ⟨_, _, h.same⟩

/-- The other components may change alike. -/
theorem congr {s' t' : Network Amount} (h : Twins ignored s t)
    (hbanks : s'.participants = s.participants) (hpay : s'.payments = s.payments)
    (hbanks' : t'.participants = t.participants) (hpay' : t'.payments = t.payments)
    (hsame : t' = { s' with participants := t'.participants, payments := t'.payments })
    (hle : s.idCounter ≤ s'.idCounter) : Twins ignored s' t' where
  same := hsame
  keyless := h.keyless
  ids := hbanks ▸ h.ids.mono hle
  banks i := by
    rw [hbanks, hbanks']
    exact h.banks i
  payments k := by
    rw [hpay, hpay']
    exact rel_mono (h.payments k) fun p p' hp => hp.mono (.congr hbanks) (.congr hbanks')

/-- A bank may change, if it stays a twin and both sides keep its keys. -/
theorem setParticipant (h : Twins ignored s t) {i : ParticipantID}
    {b b' c c' : Participant Amount} (hb : s.participants.lookup i = some b)
    (hb' : t.participants.lookup i = some b') (hc : c.Twins (ignored i) c')
    (hkeys : b.ledger.KeepsKeys c.ledger) (hkeys' : b'.ledger.KeepsKeys c'.ledger) :
    Twins ignored (s.setParticipant i c) (t.setParticipant i c') where
  same := by
    obtain ⟨_, _, rfl⟩ := h.exists_eq
    rfl
  keyless := h.keyless
  ids := h.ids.update (Finmap.mem_of_lookup_eq_some hb) c
  banks j := by
    rw [setParticipant_lookup, setParticipant_lookup]
    split
    · next hj => exact .some (hj ▸ hc)
    · exact h.banks j
  payments k := by
    refine rel_mono (h.payments k) fun p p' hp => ?_
    exact hp.mono (.setParticipant hb hkeys) (.setParticipant hb' hkeys')

/-- A payment may be written back. -/
theorem setPayment (h : Twins ignored s t) {p p' : Payment Amount}
    (hp : SamePayment ignored s t p p') (id : PaymentID) :
    Twins ignored (s.setPayment id p) (t.setPayment id p') where
  same := by
    obtain ⟨_, _, rfl⟩ := h.exists_eq
    rfl
  keyless := h.keyless
  ids := h.ids
  banks := h.banks
  payments k := by
    have hmono : ∀ q q', SamePayment ignored s t q q' →
        SamePayment ignored (s.setPayment id p) (t.setPayment id p') q q' :=
      fun q q' hq => hq.mono (.congr rfl) (.congr rfl)
    show Option.Rel _ ((s.payments.insert id p).lookup k) ((t.payments.insert id p').lookup k)
    rw [Finmap.lookup_insert_ite, Finmap.lookup_insert_ite]
    split
    · exact .some (hmono p p' hp)
    · exact rel_mono (h.payments k) hmono

/-- Two payments read before a call that keeps the payments are the same after it. -/
theorem samePayment (h : Twins ignored s t) {id : PaymentID} {p p' : Payment Amount}
    (hp : s.payments.lookup id = some p) (hp' : t.payments.lookup id = some p') :
    SamePayment ignored s t p p' := by
  obtain ⟨q, hq, hsame⟩ := rel_of_some (hp ▸ h.payments id)
  cases hp'.symm.trans hq
  exact hsame

theorem bank (h : Twins ignored s t) {i : ParticipantID} {b : Participant Amount}
    (hb : s.participants.lookup i = some b) :
    ∃ b', t.participants.lookup i = some b' ∧ b.Twins (ignored i) b' :=
  rel_of_some (hb ▸ h.banks i)

/-- Twins hold the same at every place. -/
theorem holdings_eq (h : Twins ignored s t) : t.holdings = s.holdings := by
  have hcb : t.centralBank = s.centralBank := by rw [h.same]
  funext place
  cases place with
  | bank i role =>
    cases hb : s.participants.lookup i with
    | none =>
      rw [holdings, holdings, (rel_eq_none_iff (h.banks i)).mp hb, hb]
    | some b =>
      obtain ⟨b', hb', htwins⟩ := h.bank hb
      rw [holdings_bank hb, holdings_bank hb', htwins.balances]
  | centralBank i =>
    cases hb : s.participants.lookup i with
    | none =>
      rw [holdings, holdings, (rel_eq_none_iff (h.banks i)).mp hb, hb]
    | some b =>
      obtain ⟨b', hb', htwins⟩ := h.bank hb
      have hsettlement : b'.settlementAccount = b.settlementAccount := by rw [htwins.same]
      rw [holdings_centralBank hb, holdings_centralBank hb', hcb, hsettlement]

/-! ## Postings -/

/-- What two calls leave that post in the ledger of bank `i` under a key. -/
structure Posted (ignored : ParticipantID → String → Prop) (s t : Network Amount)
    (i : ParticipantID) (key : String) (tx : Transaction Amount) (s' : Network Amount)
    (tx' : Transaction Amount) (t' : Network Amount) : Prop where
  twins : Twins ignored s' t'
  accounts : s'.accountOf = s.accountOf
  accounts' : t'.accountOf = t.accountOf
  payments : s'.payments = s.payments
  payments' : t'.payments = t.payments
  keyed : key ≠ "" → s'.Keyed i key tx.id
  keyed' : key ≠ "" → t'.Keyed i key tx'.id

section Post

variable {i : ParticipantID} {source target : Role}
  {debit credit debit' credit' : Ledger.AccountID} {amount : Amount} {key : String}
  {req req' : PostTransactionRequest Amount}

/-- The roles keep their accounts. -/
theorem Posted.kept {tx tx' : Transaction Amount} {s' t' : Network Amount}
    (h : Posted ignored s t i key tx s' tx' t') {j : ParticipantID} {role : Role}
    {a : Ledger.AccountID} (ha : s.accountOf j role = some a) :
    s'.accountOf j role = some a := by
  rw [h.accounts]
  exact ha

@[inherit_doc Posted.kept]
theorem Posted.kept' {tx tx' : Transaction Amount} {s' t' : Network Amount}
    (h : Posted ignored s t i key tx s' tx' t') {j : ParticipantID} {role : Role}
    {a : Ledger.AccountID} (ha : t.accountOf j role = some a) :
    t'.accountOf j role = some a := by
  rw [h.accounts']
  exact ha

/-- A transfer between two roles, under a key that is not left aside. -/
theorem post (h : Twins ignored s t) (hvisible : ¬ignored i key)
    (hsource : s.accountOf i source = some debit)
    (htarget : s.accountOf i target = some credit)
    (hsource' : t.accountOf i source = some debit')
    (htarget' : t.accountOf i target = some credit')
    (hentries : req.entries = transfer debit credit amount)
    (hentries' : req'.entries = transfer debit' credit' amount)
    (hkey : req.idempotencyKey = key) (hkey' : req'.idempotencyKey = key)
    (now : Time) :
    Call.Agree (Twins ignored) (Posted ignored s t i key)
      (onLedger i (Book.postTransaction now req) s)
      (onLedger i (Book.postTransaction now req') t) := by
  subst hkey
  obtain ⟨b, hb, hsource⟩ := Option.bind_eq_some_iff.mp hsource
  obtain ⟨b', hb', htwins⟩ := h.bank hb
  have hrole {role : Role} {a : Ledger.AccountID} (ha : t.accountOf i role = some a) :
      b'.accountOf role = some a := by
    rwa [accountOf, hb'] at ha
  have hcredit : b.accountOf target = some credit := by
    rwa [accountOf, hb] at htarget
  have hiff := htwins.accepts_iff hsource hcredit (hrole hsource') (hrole htarget') hentries
    hentries' hkey' hvisible
  by_cases hacc : b.ledger.Accepts req
  · have hacc' := hiff.mp hacc
    rw [(onLedger_post now hb req).1 hacc, (onLedger_post now hb' req').1 hacc']
    have hposted := htwins.record hsource hcredit (hrole hsource') (hrole htarget') hentries
      hentries' hkey' hacc hacc' now
    exact .ok
      { twins := h.setParticipant hb hb' hposted (hacc.keepsKeys now) (hacc'.keepsKeys now)
        accounts := accountOf_withLedger hb _
        accounts' := accountOf_withLedger hb' _
        payments := rfl
        payments' := rfl
        keyed := Keyed.of_posted now
        keyed' := hkey' ▸ Keyed.of_posted now }
  · obtain ⟨e, he, -⟩ := (onLedger_post now hb req).2 hacc
    obtain ⟨e', he', -⟩ := (onLedger_post now hb' req').2 fun hacc' => hacc (hiff.mpr hacc')
    rw [he, he']
    exact .error h

end Post

/-- The reversal of the debtor leg of a payment. -/
theorem reverse (h : Twins ignored s t) {p p' : Payment Amount}
    (hp : SamePayment ignored s t p p') (now : Time) (reason : String) :
    Call.Agree (Twins ignored)
      (fun _ s' _ t' =>
        Twins ignored s' t' ∧ s'.payments = s.payments ∧ t'.payments = t.payments)
      (reverseDebtorLeg now p reason s) (reverseDebtorLeg now p' reason t) := by
  obtain ⟨txID, hleg, b, hb, hindex⟩ := hp.leg
  obtain ⟨txID', hleg', b', hb', hindex'⟩ := hp.leg'
  obtain ⟨c, hc, htwins⟩ := h.bank hb
  cases hb'.symm.trans hc
  obtain ⟨original, horiginal, rfl⟩ := htwins.left.ledger.keyed_of_index hindex
  obtain ⟨original', horiginal', rfl⟩ := htwins.right.ledger.keyed_of_index hindex'
  have hmatches : b.Matches b' original original' := by
    have hrel := htwins.keyed _ hp.visible
    rw [horiginal, horiginal'] at hrel
    cases hrel with
    | some hmatches => exact hmatches
  have hstored := (htwins.left.ledger.keyed_eq_some.mp horiginal).2.1
  have hstored' := (htwins.right.ledger.keyed_eq_some.mp horiginal').2.1
  have hdebtor : p'.debtor = p.debtor := by rw [hp.same]
  have hid : p'.id = p.id := by rw [hp.same]
  rw [reverseDebtorLeg, reverseDebtorLeg, hleg, hleg', hdebtor, hid]
  have hreverse := onLedger_reverse now hb hstored
    ("Reject payment " ++ p.id.val ++ ": " ++ reason)
  have hreverse' := onLedger_reverse now hb' hstored'
    ("Reject payment " ++ p.id.val ++ ": " ++ reason)
  by_cases hstatus : original.status = .reversed
  · obtain ⟨e, he⟩ := hreverse.2 hstatus
    obtain ⟨e', he'⟩ := hreverse'.2 (hmatches.1.trans hstatus)
    dsimp only
    rw [Call.bind_of_error he, Call.bind_of_error he']
    exact .error h
  · have hstatus' : original'.status ≠ .reversed := hmatches.1 ▸ hstatus
    dsimp only
    rw [Call.bind_of_ok (hreverse.1 hstatus), Call.bind_of_ok (hreverse'.1 hstatus')]
    have hreversed := htwins.recordReversal horiginal horiginal' hmatches hstatus now
      ("Reject payment " ++ p.id.val ++ ": " ++ reason)
    exact .ok ⟨h.setParticipant hb hb' hreversed (.of_eq rfl) (.of_eq rfl), rfl, rfl⟩

/-! ## The central bank -/

theorem setCentralBank (h : Twins ignored s t) (book : Book Amount) :
    Twins ignored (s.setCentralBank book) (t.setCentralBank book) := by
  obtain ⟨banks, payments, rfl⟩ := h.exists_eq
  exact h.congr rfl rfl rfl rfl rfl le_rfl

/-- A call on the central bank has the same result. -/
theorem onCentralBank {α : Type} (h : Twins ignored s t)
    (x : Call (Book Amount) Ledger.Err α) :
    Call.Agree (Twins ignored)
      (fun a s' a' t' => a' = a ∧ Twins ignored s' t' ∧ s'.payments = s.payments ∧
        t'.payments = t.payments)
      (Network.onCentralBank x s) (Network.onCentralBank x t) := by
  have hsame : t.centralBank = s.centralBank := by rw [h.same]
  cases hx : x s.centralBank with
  | ok a book =>
    have hs : Network.onCentralBank x s = .ok a (s.setCentralBank book) := Call.zoom_of_ok hx
    have ht : Network.onCentralBank x t = .ok a (t.setCentralBank book) :=
      Call.zoom_of_ok (hsame ▸ hx)
    rw [hs, ht]
    exact .ok ⟨rfl, h.setCentralBank book, rfl, rfl⟩
  | error e book =>
    have hs : Network.onCentralBank x s = .error (.ledger e) (s.setCentralBank book) :=
      Call.zoom_of_error hx
    have ht : Network.onCentralBank x t = .error (.ledger e) (t.setCentralBank book) :=
      Call.zoom_of_error (hsame ▸ hx)
    rw [hs, ht]
    exact .error (h.setCentralBank book)

/-! ## Reads -/

/-- A party exists in both or in neither. -/
theorem checkParty_eq (h : Twins ignored s t) (ref : PartyRef) :
    t.checkParty ref = s.checkParty ref := by
  cases hb : s.participants.lookup ref.participant with
  | none =>
    have hb' := (rel_eq_none_iff (h.banks _)).mp hb
    simp only [checkParty, hb, hb']
  | some b =>
    obtain ⟨b', hb', htwins⟩ := h.bank hb
    cases ha : b.deposit.accounts.lookup ref.account with
    | none =>
      have ha' := (rel_eq_none_iff (htwins.accounts _)).mp ha
      simp only [checkParty, Register.getAccount, hb, hb', ha, ha']
    | some a =>
      obtain ⟨gl, ha'⟩ := htwins.lookup_account ha
      simp only [checkParty, Register.getAccount, hb, hb', ha, ha']

theorem validateFunds_eq (h : Twins ignored s t) (now : Time) (p : Payment Amount) :
    validateFunds t now p = validateFunds s now p := by
  cases hb : s.participants.lookup p.debtor.participant with
  | none =>
    have hb' := (rel_eq_none_iff (h.banks _)).mp hb
    simp only [validateFunds, hb, hb']
  | some b =>
    obtain ⟨b', hb', htwins⟩ := h.bank hb
    cases ha : b.deposit.accounts.lookup p.debtor.account with
    | none =>
      have ha' := (rel_eq_none_iff (htwins.accounts _)).mp ha
      simp only [validateFunds, Register.getAccount, hb, hb', ha, ha']
    | some a =>
      obtain ⟨gl, ha'⟩ := htwins.lookup_account ha
      simp only [validateFunds, Register.getAccount, hb, hb', ha, ha',
        htwins.checkWithdrawal_eq]

/-- A payment is valid in both or in neither. -/
theorem validate_eq (h : Twins ignored s t) (scheme : Scheme) (now : Time)
    (p : Payment Amount) : scheme.validate t now p = scheme.validate s now p := by
  have hmandate : validateMandate t p = validateMandate s p := by
    obtain ⟨banks, payments, rfl⟩ := h.exists_eq
    rfl
  cases scheme with
  | sct => exact h.validateFunds_eq now p
  | sdd =>
    show (validateMandate t p >>= fun _ => validateFunds t now p) = _
    rw [hmandate, h.validateFunds_eq]
    rfl

/-- The account behind a deposit account. -/
theorem glAccount (h : Twins ignored s t) {i : ParticipantID} {b b' : Participant Amount}
    (hb : s.participants.lookup i = some b) (hb' : t.participants.lookup i = some b')
    (id : Deposit.AccountID) : Call.Agree (Twins ignored)
      (fun gl s' gl' t' => s = s' ∧ t = t' ∧ s.accountOf i (.customer id) = some gl ∧
        t.accountOf i (.customer id) = some gl')
      (Call.ofExcept (b.glAccount id) s) (Call.ofExcept (b'.glAccount id) t) := by
  obtain ⟨c, hc, htwins⟩ := h.bank hb
  cases hb'.symm.trans hc
  rw [glAccount_eq, glAccount_eq]
  cases ha : b.deposit.accounts.lookup id with
  | none =>
    rw [(rel_eq_none_iff (htwins.accounts _)).mp ha]
    exact .error h
  | some a =>
    obtain ⟨gl, ha'⟩ := htwins.lookup_account ha
    rw [ha']
    refine .ok ⟨rfl, rfl, ?_, ?_⟩
    · rw [accountOf_bank hb, Participant.accountOf_customer ha]
    · rw [accountOf_bank hb', Participant.accountOf_customer ha']

end Twins

end Network

end CoreBanking.Payment
