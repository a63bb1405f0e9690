import CoreBanking.Payment.Calls

/-!
# The invariant of a network

`Network.WF` holds of a new network (`wf_newNetwork`) and every change keeps it
(`Change.wf`), so it holds in every state that a run of calls reaches, failing
calls included (`wf_reached`).
-/

namespace CoreBanking.Payment

open Ledger (Book newBook PostTransactionRequest Transaction)
open Deposit (Register)

/-! ## A new network -/

section New

variable (Amount : Type) [AddCommGroup Amount] [LinearOrder Amount]

/-- The books of a new central bank. -/
theorem Network.centralBankChart_eq (now : Time) :
    ∃ reserves assets cb,
      Network.centralBankChart now (newBook Amount) = .ok (reserves, assets) cb ∧
      cb.WF ∧ cb.transactions = ∅ ∧ cb.idempotencyIndex = ∅ ∧
      reserves ∈ cb.subledgers ∧
      (∃ acct, cb.accounts.lookup assets = some acct ∧ acct.type = .asset) ∧
      ∀ a acct, cb.accounts.lookup a = some acct → a = assets := by
  -- one book after each of the four calls
  let b₀ := newBook Amount
  let gl := b₀.newLedger now "Central Bank"
  let b₁ := b₀.addLedger now gl
  let reserves := b₁.newSubledger now gl.id "Member Reserves"
  let b₂ := b₁.addSubledger now reserves
  let capital := b₂.newSubledger now gl.id "Central Bank Capital"
  let b₃ := b₂.addSubledger now capital
  let assets := b₃.newAccount now capital.id "Settlement Assets" .asset
  let b₄ := b₃.addAccount now assets
  have h₁ : Book.createLedger now "Central Bank" b₀ = .ok gl b₁ := rfl
  have h₂ : Book.createSubledger now gl.id "Member Reserves" b₁ = .ok reserves b₂ := by
    rw [Book.createSubledger_eq, show b₁.ledgers.lookup gl.id = some gl from
      Finmap.lookup_insert _]
  have h₃ : Book.createSubledger now gl.id "Central Bank Capital" b₂
      = .ok capital b₃ := by
    rw [Book.createSubledger_eq, show b₂.ledgers.lookup gl.id = some gl from
      Finmap.lookup_insert _]
  have h₄ : Book.createAccount now capital.id "Settlement Assets" .asset b₃
      = .ok assets b₄ := by
    rw [Book.createAccount_eq, show b₃.subledgers.lookup capital.id = some capital from
      Finmap.lookup_insert _]
  have hwf : b₄.WF := (((Book.wf_newBook.addLedger ..).addSubledger ..).addSubledger
    ..).addAccount ..
  refine ⟨reserves.id, assets.id, b₄, ?_, hwf, rfl, rfl, ?_,
    ⟨assets, Finmap.lookup_insert _, rfl⟩, ?_⟩
  · rw [Network.centralBankChart, Call.bind_of_ok h₁, Call.bind_of_ok h₂,
      Call.bind_of_ok h₃, Call.bind_of_ok h₄]
    rfl
  · exact Finmap.mem_insert.mpr (.inr (Finmap.mem_insert.mpr (.inl rfl)))
  · intro a acct ha
    rcases Finmap.lookup_insert_eq_some.mp ha with ⟨rfl, -⟩ | ⟨-, ha⟩
    · rfl
    · exact absurd ha (by simp [b₃, b₂, b₁, b₀, Book.addSubledger, Book.addLedger,
        newBook])

end New

namespace Network

variable {Amount : Type} [AddCommGroup Amount] [LinearOrder Amount]

/-- Registering a scheme touches nothing the invariant is about. -/
theorem WF.registerScheme {s : Network Amount} (h : s.WF) (sc : Scheme) :
    (s.registerScheme sc).WF :=
  h.of_books (h.banks.congr rfl rfl rfl rfl le_rfl)
    (h.legs.frame (.of_eq rfl) (fun _ _ => rfl) (fun _ => rfl) rfl fun _ hc => hc)
    (.of_eq rfl) rfl rfl rfl rfl le_rfl

/-- A network without banks, payments and cycles. -/
theorem wf_emptyNetwork {cb : Book Amount} {reserves : Ledger.SubledgerID}
    {assets : Ledger.AccountID} (hcb : cb.WF) (htx : cb.transactions = ∅)
    (hidx : cb.idempotencyIndex = ∅)
    (hreserves : reserves ∈ cb.subledgers)
    (hassets : ∃ acct, cb.accounts.lookup assets = some acct ∧ acct.type = .asset)
    (haccts : ∀ a acct, cb.accounts.lookup a = some acct → a = assets) :
    (emptyNetwork cb reserves assets).WF := by
  have hnone : ∀ key, cb.keyed key = none := fun key => by rw [Book.keyed, hidx]; rfl
  have hdeclared : cb.Declared := by
    obtain ⟨assetsAcct, hlook, htype⟩ := hassets
    refine ⟨fun k t hk => ?_, fun a acct ha => ?_⟩
    · simp [htx] at hk
    · cases haccts a acct ha
      cases ha.symm.trans hlook
      rw [htype]
      trivial
  have hbanks : (emptyNetwork cb reserves assets).Banks :=
    { ids := KeysUpTo.empty
      bank := fun i p hp => by cases hp
      centralBank := hcb
      cbDeclared := hdeclared
      reserves := hreserves
      assets := hassets
      settlement := fun i p hp => by cases hp
      settlement_unique := fun i j p q hp => by cases hp
      cbAccounts := fun a acct ha => .inl (haccts a acct ha) }
  have hrecords : (emptyNetwork cb reserves assets).Records :=
    { paymentIDs := KeysUpTo.empty
      cycleIDs := KeysUpTo.empty
      payment_id := fun k p hp => by cases hp
      cycle_id := fun k c hc => by cases hc
      positive := fun k p hp => by cases hp
      debtor := fun k p hp => by cases hp
      creditor := fun k p hp => by cases hp }
  have hcycles : (emptyNetwork cb reserves assets).Cycles :=
    { open_iff := fun sc id => by simp [emptyNetwork]
      nodup := fun id c hc => by cases hc
      members := fun id c hc => by cases hc
      scheme := fun k p hp => by cases hp
      settlementIDs := KeysUpTo.empty
      settlement := fun k st hst => by cases hst
      settled := fun id c hc => by cases hc }
  have hlegs : (emptyNetwork cb reserves assets).Legs :=
    { legs := fun k p hp => by cases hp
      keys :=
        { bank := fun i key hused => absurd rfl hused
          centralBank := fun key hused => absurd (hnone key) hused } }
  have hpositions : (emptyNetwork cb reserves assets).Positions :=
    { keys := fun id c hc => by cases hc
      netting := fun id c hc => by cases hc
      total := fun id c hc => by cases hc }
  exact ⟨⟨hbanks, hrecords, hcycles, hlegs, hpositions⟩, fun id c hc => by cases hc⟩

omit [AddCommGroup Amount] [LinearOrder Amount] in
/-- A new network has no payments. -/
theorem payments_newNetwork (now : Time) : (newNetwork Amount now).payments = ∅ := by
  rw [newNetwork]
  split <;> rfl

/-- A new network keeps the invariant. -/
theorem wf_newNetwork (now : Time) : (newNetwork Amount now).WF := by
  obtain ⟨reserves, assets, cb, hchart, hcb, htx, hidx, hreserves, hassets, haccts⟩ :=
    centralBankChart_eq Amount now
  rw [newNetwork, hchart]
  exact ((wf_emptyNetwork hcb htx hidx hreserves hassets haccts).registerScheme _).registerScheme
    _

/-! ## Banks and their registers -/

section Banks

variable {s : Network Amount} {now : Time}

/-- The account of a new bank at the central bank is new. -/
theorem Banks.fresh_settlement (h : s.Banks) {acct : Ledger.Account}
    {p : Participant Amount} (hnew : s.NewBank acct p) :
    s.centralBank.accounts.lookup acct.id = none := by
  rw [hnew.acct_id]
  exact h.centralBank.accountIDs.fresh (fun _ _ => Ledger.AccountID.mk.inj)
    (Nat.lt_succ_self _)

/-- The id of a new bank is new. -/
theorem Banks.fresh_bank (h : s.Banks) {acct : Ledger.Account}
    {p : Participant Amount} (hnew : s.NewBank acct p) :
    s.participants.lookup p.id = none := by
  rw [hnew.id]
  exact h.ids.fresh (fun _ _ => ParticipantID.mk.inj) (Nat.lt_succ_self _)

theorem Banks.withBank (h : s.Banks) {acct : Ledger.Account} {p : Participant Amount}
    (hnew : s.NewBank acct p) {subledger : Ledger.SubledgerID} {name : String}
    (hacct : acct = s.centralBank.newAccount now subledger name .liability) :
    (s.withBank now acct p).Banks := by
  have hfresh := h.fresh_bank hnew
  have hfreshAcct := h.fresh_settlement hnew
  have hlook : ∀ {i q}, (s.withBank now acct p).participants.lookup i = some q ↔
      (i = p.id ∧ q = p) ∨ s.participants.lookup i = some q :=
    Finmap.lookup_insert_fresh hfresh
  have hkept : ∀ a g, s.centralBank.accounts.lookup a = some g →
      (s.withBank now acct p).centralBank.accounts.lookup a = some g :=
    (Book.Extends.addAccount hfreshAcct).accounts
  -- no old bank has the new account
  have hold : ∀ i q, s.participants.lookup i = some q → q.settlementAccount ≠ acct.id := by
    intro i q hq heq
    obtain ⟨g, hg, -⟩ := h.settlement i q hq
    rw [heq, hfreshAcct] at hg
    cases hg
  refine
    { ids := ?_, bank := ?_, centralBank := ?_, cbDeclared := ?_, reserves := h.reserves
      assets := ?_, settlement := ?_, settlement_unique := ?_, cbAccounts := ?_ }
  · -- ids
    show KeysUpTo _ _ (s.idCounter + 1) (s.participants.insert p.id p)
    rw [hnew.id]
    exact h.ids.insert (Nat.le_succ _) le_rfl _
  · -- bank: the new bank keeps its own invariant
    intro i q hq
    rcases hlook.mp hq with ⟨rfl, rfl⟩ | hq
    · exact hnew.wf
    · exact h.bank i q hq
  · -- centralBank
    rw [hacct]
    exact h.centralBank.addAccount now subledger name .liability
  · -- cbDeclared
    rw [hacct]
    exact h.cbDeclared.addAccount h.centralBank now subledger name trivial
  · -- assets: the accounts of the central bank are kept
    obtain ⟨g, hg, htype⟩ := h.assets
    exact ⟨g, hkept _ g hg, htype⟩
  · -- settlement
    intro i q hq
    rcases hlook.mp hq with ⟨rfl, rfl⟩ | hq
    · refine ⟨acct, ?_, hnew.acct_type⟩
      rw [hnew.settlement]
      exact Finmap.lookup_insert _
    · obtain ⟨g, hg, htype⟩ := h.settlement i q hq
      exact ⟨g, hkept _ g hg, htype⟩
  · -- settlement_unique: the new reserve account is at a new id
    intro i j q q' hq hq' heq
    rcases hlook.mp hq with ⟨rfl, rfl⟩ | hi
    · rcases hlook.mp hq' with ⟨rfl, rfl⟩ | hj
      · rfl
      · exact absurd (heq.symm.trans hnew.settlement) (hold j q' hj)
    · rcases hlook.mp hq' with ⟨rfl, rfl⟩ | hj
      · exact absurd (heq.trans hnew.settlement) (hold i q hi)
      · exact h.settlement_unique i j q q' hi hj heq
  · -- cbAccounts
    intro a g ha
    rcases (Finmap.lookup_insert_fresh hfreshAcct).mp ha with ⟨rfl, -⟩ | ha
    · exact .inr ⟨p.id, p, hlook.mpr (.inl ⟨rfl, rfl⟩), hnew.settlement⟩
    · rcases h.cbAccounts a g ha with rfl | ⟨i, q, hq, rfl⟩
      · exact .inl rfl
      · exact .inr ⟨i, q, hlook.mpr (.inr hq), rfl⟩

/-- A new bank has posted nothing. -/
theorem WF.withBank (h : s.WF) {acct : Ledger.Account} {p : Participant Amount}
    (hnew : s.NewBank acct p) {subledger : Ledger.SubledgerID} {name : String}
    (hacct : acct = s.centralBank.newAccount now subledger name .liability) :
    (s.withBank now acct p).WF := by
  have hfresh := h.banks.fresh_bank hnew
  have hg : s.Grows (s.withBank now acct p) := fun i b hb =>
    ⟨b, (Finmap.lookup_insert_fresh hfresh).mpr (.inr hb), .refl b⟩
  have hkeyed : ∀ i key, (s.withBank now acct p).keyed i key = s.keyed i key := by
    intro i key
    refine (keyed_setParticipant _ p.id i p key).trans ?_
    split
    · next heq =>
      rw [keyed, heq, hfresh, Book.keyed, hnew.index]
      rfl
    · rfl
  exact h.of_books (h.banks.withBank hnew hacct)
    (h.legs.frame hg hkeyed (fun _ => rfl) rfl fun _ hc => hc) hg rfl rfl rfl rfl
    (Nat.le_succ _)

/-- The deposit layer posts under no key. -/
theorem WF.withDeposit (h : s.WF) {i : ParticipantID} {b : Participant Amount}
    {rop : Register.Op Amount} {r : Register Amount}
    (hb : s.participants.lookup i = some b)
    (hc : Register.Change now b.deposit rop r) :
    (s.setParticipant i (b.withDeposit r)).WF := by
  have hwf := (h.banks.bank i b hb).deposit
  have hgrows := hc.grows hwf
  have hg : s.Grows (s.setParticipant i (b.withDeposit r)) :=
    .setParticipant hb (.withDeposit hgrows)
  have hkeyed : ∀ j key,
      (s.setParticipant i (b.withDeposit r)).keyed j key = s.keyed j key := by
    intro j key
    rw [keyed_setParticipant]
    split
    · next heq =>
      rw [heq, keyed_of_bank hb]
      exact hc.keyed_eq hwf key
    · rfl
  exact h.of_books
    (h.banks.setDeposit hb (hc.wf hwf) (hc.declared hwf (h.banks.bank i b hb).declared) hgrows)
    (h.legs.frame hg hkeyed (fun _ => rfl) rfl fun _ hc => hc) hg rfl rfl rfl rfl le_rfl

/-- A posting without a key in a bank's ledger. -/
theorem WF.posted_keyless (h : s.WF) {i : ParticipantID} {b : Participant Amount}
    {req : PostTransactionRequest Amount} (hb : s.participants.lookup i = some b)
    (hkey : req.idempotencyKey = "") (hacc : b.ledger.Accepts req)
    (hdeclared : ∀ e ∈ req.entries, e.direction.Declared) : (s.posted now i b req).WF := by
  have hlegs : (s.posted now i b req).Legs := by
    refine h.legs.posted h.banks hb hacc ?_ fun hne => absurd hkey hne
    intro pid p _
    rw [hkey]
    exact empty_not_mem_legKeys p.id
  exact h.of_books (h.banks.posted hb hacc hdeclared) hlegs (.posted hb now req) rfl rfl rfl rfl
    le_rfl

/-- A posting without a key at the central bank. -/
theorem WF.cbPosted_keyless (h : s.WF) {req : PostTransactionRequest Amount}
    (hkey : req.idempotencyKey = "") (hacc : s.centralBank.Accepts req)
    (hdeclared : ∀ e ∈ req.entries, e.direction.Declared) : (s.cbPosted now req).WF := by
  have hlegs : (s.cbPosted now req).Legs := by
    refine h.legs.cbPosted h.banks hacc ?_ fun hne => absurd hkey hne
    intro pid p _
    rw [hkey]
    exact (joinColon_ne_empty _ _).symm
  exact h.of_books (h.banks.cbPosted hacc hdeclared) hlegs (.of_eq rfl) rfl rfl rfl rfl le_rfl

end Banks

/-! ## Settlements -/

section Settlements

variable {s : Network Amount} {now : Time} {id : CycleID}
  {order₁ order₂ : MapOrder ParticipantID Amount}

/-- Settling the positions keeps payments, cycles and indexes. -/
theorem PositionsSettled.frame {c : ClearingCycle Amount}
    {tx : Option Ledger.TransactionID} {t : Network Amount}
    (h : PositionsSettled now order₁ order₂ c s (.ok tx t)) :
    ∃ banks cb, t = { s with participants := banks, centralBank := cb } := by
  cases h with
  | nothing => exact ⟨s.participants, s.centralBank, rfl⟩
  | settled req hreq hacc hmirrors =>
    obtain ⟨banks, hbanks⟩ := run_withMirror_frame now c
      (order₂.toList c.netPositions) (s.cbPosted now req)
    exact ⟨banks, _, hbanks⟩

/-- However a settlement ends, the invariant holds. -/
theorem SettleOutcome.wf {r : EStateM.Result Err (Network Amount) (Settlement Amount)}
    (ho : SettleOutcome now order₁ order₂ id s r) (h : s.WF) : (Call.state r).WF := by
  cases ho with
  | notClosed => exact h
  | refused => exact h
  | stuck c hc hclosed req hreq hacc pre post d hlist hmirrors =>
    have hid := h.records.cycle_id id c hc
    have hkey : req.idempotencyKey = c.id.settleKey := hreq ▸ rfl
    have hcore := (h.cbSettled hc hreq hacc).mirrors
      (hid ▸ Finmap.mem_of_lookup_eq_some hc) (cbPosted_settled h.banks hkey hacc)
      hmirrors
    obtain ⟨banks, hbanks⟩ := run_withMirror_frame now c pre (s.cbPosted now req)
    refine ⟨hcore, ?_⟩
    show (run (withMirror now c) (s.cbPosted now req) pre).StatusesFit
    rw [hbanks]
    exact h.fit.congr rfl rfl
  | settled c hc hclosed tx t u hpositions ht hlegs hu =>
    obtain ⟨banks, cb, rfl⟩ := hpositions.frame
    have hcore := ht.creditors hlegs
    have hnodup := h.cycles.nodup id c hc
    have hpay := lookup_run_withCreditorLeg hnodup hlegs
    obtain ⟨banks', payments, hrun⟩ := run_withCreditorLeg_frame now c.paymentIDs
      { s with participants := banks, centralBank := cb }
    rw [hrun] at hcore hu hpay
    subst hu
    let u : Network Amount := { s with
      participants := banks', centralBank := cb, payments := payments }
    let st := u.newSettlement now c tx
    have hlook : ∀ {k d}, (u.withSettlement id c st).cycles.lookup k = some d ↔
        (k = id ∧ d = { c with status := .settled, settlementID := some st.id }) ∨
          (k ≠ id ∧ s.cycles.lookup k = some d) :=
      Finmap.lookup_insert_eq_some
    have hg : u.Grows (u.withSettlement id c st) := .of_eq rfl
    -- the settled cycle keeps its id
    have hcyc : ∀ k d, (u.withSettlement id c st).cycles.lookup k = some d →
        ∃ d₀, u.cycles.lookup k = some d₀ ∧ d.id = d₀.id := by
      intro k d hd
      rcases hlook.mp hd with ⟨rfl, rfl⟩ | ⟨-, hd⟩
      · exact ⟨c, hc, rfl⟩
      · exact ⟨d, hd, rfl⟩
    refine
      { banks := hcore.banks.congr rfl rfl rfl rfl (Nat.le_succ _)
        records := hcore.records.step hg (Nat.le_succ _) (.refl _) hcyc
        cycles := hcore.cycles.withSettlement hc hclosed rfl
          (h.records.cycle_id id c hc)
        legs := hcore.legs.frame hg (fun _ _ => rfl) (fun _ => rfl) rfl
          fun _ hk => Finmap.mem_insert.mpr (.inr hk)
        positions := hcore.positions.withSettlement hc hclosed
        fit := ?_ }
    intro k d hd pid hpid p hp
    rcases hlook.mp hd with ⟨rfl, rfl⟩ | ⟨hk, hd⟩
    · -- the payments of the settled cycle are settled
      obtain ⟨q, q', -, -, hq', hst⟩ := (hpay pid).2 hpid
      cases hq'.symm.trans hp
      exact .inl hst
    · -- the payments of another cycle are as before
      have hout : pid ∉ c.paymentIDs := by
        intro hmem
        obtain ⟨q, hq, hcid, -⟩ := (h.cycles.members id c hc pid).mp hmem
        obtain ⟨q', hq', hcid', -⟩ := (h.cycles.members k d hd pid).mp hpid
        cases hq.symm.trans hq'
        exact hk (hcid'.symm.trans hcid)
      have hold : s.payments.lookup pid = some p := ((hpay pid).1 hout).symm.trans hp
      exact h.fit k d hd pid hpid p hold

end Settlements

/-! ## Payments -/

section Payments

variable {s : Network Amount} {now : Time}

theorem WF.withPayment (h : s.WF) {req : InitiatePaymentRequest Amount}
    {scheme : Scheme} {cycleID : CycleID} {cycle : ClearingCycle Amount}
    {debtor : Participant Amount} {acct : Deposit.Account Amount} (hnow : 0 < now.ns)
    (hi : s.Initiates now req scheme cycleID cycle debtor acct) :
    (s.withPayment now req scheme cycleID cycle debtor acct.glAccount).WF where
  banks := (h.banks.posted hi.debtor_exists.bank hi.accepts
    (Ledger.declared_transfer _ _ _)).congr rfl rfl rfl rfl
    (Nat.le_succ _)
  records := h.records.withPayment hi
  cycles := h.cycles.withPayment h.records hi
  legs := h.legs.withPayment h.banks h.records hnow hi
  positions := h.positions.withPayment h.records h.cycles hi
  fit := h.fit.withPayment h.records h.cycles hi

/-- The cycle of an accepted payment is open. -/
theorem WF.open_of_accepted (h : s.WF) {id : PaymentID} {p : Payment Amount}
    (hp : s.payments.lookup id = some p) (hst : p.status = .accepted) :
    ∃ c, s.cycles.lookup p.cycleID = some c ∧ c.status = .open := by
  obtain ⟨c, hc, hmem⟩ := h.cycles.mem_of_payment hp (by simp [hst])
  have hfits := h.fit _ c hc id hmem p hp
  rw [hst] at hfits
  refine ⟨c, hc, ?_⟩
  -- in a closed or settled cycle the payment would not be accepted any more
  cases hcs : c.status <;> simp [hcs, Fits] at hfits ⊢

theorem WF.withRejected (h : s.WF) {id : PaymentID} {p : Payment Amount}
    {reason : String} {debtor : Participant Amount} {txID : Ledger.TransactionID}
    {original : Transaction Amount} (hp : s.payments.lookup id = some p)
    (hst : p.status = .accepted) (hleg : p.debtorLegTx = some txID)
    (hb : s.participants.lookup p.debtor.participant = some debtor)
    (hstored : debtor.ledger.transactions.lookup txID = some original)
    (hposted : original.status ≠ .reversed) :
    (s.withRejected now id p reason debtor txID original).WF := by
  obtain ⟨c, hc, hopen⟩ := h.open_of_accepted hp hst
  have hid := h.records.payment_id id p hp
  have hledger := (h.banks.bank _ debtor hb).ledger
  have hreversed : (s.reversed now p.debtor.participant debtor txID original
      ("Reject payment " ++ p.id.val ++ ": " ++ reason)).Banks :=
    h.banks.setLedger hb (hledger.recordReversal hstored hposted)
      ((h.banks.bank _ debtor hb).declared.recordReversal hledger now _ hstored) rfl
  refine
    { banks := ?_
      records := h.records.withRejected hc hp hb
      cycles := h.cycles.withRejected h.fit hp hid hst
      legs := h.legs.withRejected h.banks h.records hc hp hst hleg hb hstored hposted
      positions := h.positions.withRejected hc hopen hp hb
      fit := h.fit.withRejected hc hp hid h.cycles }
  rw [withRejected_eq hc]
  exact hreversed.congr rfl rfl rfl rfl le_rfl

theorem WF.withRefund (h : s.WF) {id : PaymentID} {p : Payment Amount}
    {reason : String} {debtor : Participant Amount} {acct : Deposit.Account Amount}
    (hf : s.Refundable id p reason debtor acct) :
    (s.withRefund now p reason debtor acct.glAccount).WF :=
  h.of_books (h.banks.posted hf.debtor_exists.bank hf.accepts (Ledger.declared_transfer _ _ _))
    (h.legs.withRefund h.banks h.records hf) (.posted hf.debtor_exists.bank now _)
    rfl rfl rfl rfl le_rfl

theorem WF.withReturned (h : s.WF) {id : PaymentID} {p : Payment Amount}
    {reason : String} {debtor creditor : Participant Amount}
    {da ca : Deposit.Account Amount} (hf : s.Refundable id p reason debtor da)
    (hparty : (s.withRefund now p reason debtor da.glAccount).Party p.creditor
      creditor ca)
    (hacc : creditor.ledger.Accepts (returnCreditRequest p reason creditor ca.glAccount))
    (hcb : s.centralBank.Accepts (returnSettleRequest p debtor creditor)) :
    (s.withReturned now id p reason debtor creditor da.glAccount ca.glAccount).WF := by
  have hrefunded : (s.withRefund now p reason debtor da.glAccount).WF := h.withRefund hf
  let s₁ := s.withRefund now p reason debtor da.glAccount
  let creq := returnCreditRequest p reason creditor ca.glAccount
  let s₂ := s₁.posted now p.creditor.participant creditor creq
  let p' : Payment Amount := { p with status := .returned, rejectReason := reason }
  have hterms : p.SameTerms p' := rfl
  have hp : s₁.payments.lookup id = some p := hf.stored
  have hbanks₂ : s₂.Banks := hrefunded.banks.posted hparty.bank hacc
    (Ledger.declared_transfer _ _ _)
  have hcb₂ : s₂.centralBank.Accepts (returnSettleRequest p debtor creditor) := hcb
  have hg : s₁.Grows
      ((s₂.cbPosted now (returnSettleRequest p debtor creditor)).setPayment id p') :=
    .posted hparty.bank now creq
  refine ⟨?_, ?_⟩
  · refine hrefunded.toCore.relabel
      ((hbanks₂.cbPosted hcb₂ (Ledger.declared_transfer _ _ _)).congr rfl rfl rfl rfl le_rfl)
      (hrefunded.legs.clawedBack hrefunded.banks hrefunded.records hp hf.settled hparty
        hacc rfl hcb)
      hg (.insert hp hterms) ?_ rfl rfl rfl le_rfl
    intro k q q' hq hq'
    rcases Finmap.lookup_insert_eq_some.mp hq' with ⟨rfl, rfl⟩ | ⟨-, hold⟩
    · cases hp.symm.trans hq
      simp [hf.settled]
    · cases hq.symm.trans hold
      rfl
  · -- the cycle of the payment was settled, and stays so
    have hfit : (s.setPayment id p').StatusesFit := by
      refine h.fit.setPayment h.cycles hf.stored fun c hc => ?_
      have hfits := h.fit.of_payment h.cycles hf.stored (by simp [hf.settled]) hc
      rw [hf.settled] at hfits
      cases hcs : c.status <;> simp [hcs, Fits, p'] at hfits ⊢
    exact hfit.congr rfl rfl

end Payments

/-! ## Runs -/

section Runs

theorem Change.wf {s s' : Network Amount} {now : Time} {op : Op Amount}
    {failure : Option Err} (hc : Change now s op failure s') (h : s.WF)
    (hnow : 0 < now.ns) : s'.WF := by
  cases hc with
  | refused e => exact h
  | scheme sc => exact h.registerScheme sc
  | bank name acct p hnew subledger acctName hacct => exact h.withBank hnew hacct
  | register i b rop r hop hb hc => exact h.withDeposit hb hc
  | deposit i account amount description b a hpos hb ha hacc hcb =>
    exact (h.posted_keyless hb rfl hacc (Ledger.declared_transfer _ _ _)).cbPosted_keyless rfl hcb
      (Ledger.declared_transfer _ _ _)
  | mandated debtor creditor maxAmount m =>
    exact h.of_books (h.banks.congr rfl rfl rfl rfl (Nat.le_succ _))
      (h.legs.frame (.of_eq rfl) (fun _ _ => rfl) (fun _ => rfl) rfl fun _ hk => hk)
      (.of_eq rfl) rfl rfl rfl rfl (Nat.le_succ _)
  | revoked id m hm =>
    exact h.of_books (h.banks.congr rfl rfl rfl rfl le_rfl)
      (h.legs.frame (.of_eq rfl) (fun _ _ => rfl) (fun _ => rfl) rfl fun _ hk => hk)
      (.of_eq rfl) rfl rfl rfl rfl le_rfl
  | opened scheme hno =>
    exact
      { banks := h.banks.congr rfl rfl rfl rfl (Nat.le_succ _)
        records := h.records.withCycle now scheme
        cycles := h.cycles.withCycle h.records hno
        legs := h.legs.frame (.of_eq rfl) (fun _ _ => rfl) (fun _ => rfl) rfl
          fun _ hk => Finmap.mem_insert.mpr (.inr hk)
        positions := h.positions.withCycle h.records
        fit := h.fit.withCycle h.records }
  | closed id c hcyc hopen =>
    exact
      { banks := h.banks.congr rfl rfl rfl rfl le_rfl
        records := h.records.withClosed hcyc
        cycles := h.cycles.withClosed h.fit hcyc hopen
        legs := h.legs.withClosed (h.open_accepted id c hcyc hopen).2
        positions := h.positions.withClosed h.records
        fit := h.fit.withClosed h.cycles hcyc }
  | settle order₁ order₂ id r ho => exact ho.wf h
  | idDrawn req e =>
    exact h.of_books (h.banks.congr rfl rfl rfl rfl (Nat.le_succ _))
      (h.legs.frame (.of_eq rfl) (fun _ _ => rfl) (fun _ => rfl) rfl fun _ hk => hk)
      (.of_eq rfl) rfl rfl rfl rfl (Nat.le_succ _)
  | initiated req scheme cycleID cycle debtor acct hi => exact h.withPayment hnow hi
  | rejected id reason p debtor txID original hp hst hleg hb hstored hposted =>
    exact h.withRejected hp hst hleg hb hstored hposted
  | refunded id reason p debtor da hf e => exact h.withRefund hf
  | returned id reason p debtor creditor da ca hf hparty hacc hcb =>
    exact h.withReturned hf hparty hacc hcb

/-- One step of a run: an operation at a reading of the clock. A call that
fails is a step too. -/
def exec (step : Clock × Op Amount) (s : Network Amount) : Network Amount :=
  (call step.1.now step.2).final s

theorem exec_wf (step : Clock × Op Amount) (s : Network Amount) (h : s.WF) :
    (exec step s).WF :=
  (h.call_change step.1.now step.2).wf h step.1.set

/-- The network after a run of calls from `NewNetwork`. -/
def reached (start : Clock) (steps : List (Clock × Op Amount)) : Network Amount :=
  run exec (newNetwork Amount start.now) steps

theorem wf_reached (start : Clock) (steps : List (Clock × Op Amount)) :
    (reached start steps).WF :=
  run_invariant exec_wf (wf_newNetwork start.now) steps

end Runs

end Network

end CoreBanking.Payment
