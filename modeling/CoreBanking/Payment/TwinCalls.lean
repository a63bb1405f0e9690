import CoreBanking.Payment.Twins

/-!
# Calls on twins

Every operation of the network agrees on twins (`Twins.call`), if none of the keys under
which it comes to post in the ledger of a bank is left aside there. `Derives` lists these keys.
-/

namespace CoreBanking.Payment

open Ledger (Book Entry PostTransactionRequest Transaction transfer)
open Deposit (Register)

namespace Network

variable {Amount : Type} [AddCommGroup Amount] [LinearOrder Amount]
  {ignored : ParticipantID → String → Prop} {s t : Network Amount}

/-! ## The keys of an operation -/

/-- The keys under which a call comes to post in the ledgers of banks: all that it does
before the posting has succeeded. -/
inductive Derives (now : Time) (s : Network Amount) :
    Op Amount → ParticipantID → String → Prop
  | debit (req : InitiatePaymentRequest Amount) (scheme : Scheme) (cycleID : CycleID)
      (debtor : Participant Amount) (acct : Deposit.Account Amount)
      (hchecks : s.Checks now req scheme cycleID debtor acct) :
      Derives now s (.initiatePayment req) req.debtor.participant
        (PaymentID.debitKey ⟨ident "pay" (s.idCounter + 1)⟩)
  | mirror (order₁ order₂ : MapOrder ParticipantID Amount) (id : CycleID)
      (c : ClearingCycle Amount) (entries : List (Entry Amount)) (tx : Transaction Amount)
      (pre post : List (ParticipantID × Amount)) (i : ParticipantID) (net : Amount)
      (s₁ s₂ : Network Amount)
      (hc : s.cycles.lookup id = some c) (hclosed : c.status = .closed)
      (hentries : (order₁.toList c.netPositions).foldlM s.addSettlementEntry [] = .ok entries)
      (hposted : onCentralBank (Book.postTransaction now (settleRequest c entries)) s
        = .ok tx s₁)
      (hlist : order₂.toList c.netPositions = pre ++ (i, net) :: post)
      (hmirrored : pre.forM (mirrorPosition now c) s₁ = .ok ⟨⟩ s₂) (hne : net ≠ 0) :
      Derives now s (.settleCycle order₁ order₂ id) i (c.id.mirrorKey i)
  | credit (order₁ order₂ : MapOrder ParticipantID Amount) (id : CycleID)
      (c : ClearingCycle Amount) (txID : Option Ledger.TransactionID)
      (pre post : List PaymentID) (pid : PaymentID) (p : Payment Amount)
      (creditor : Participant Amount) (acct : Deposit.Account Amount) (s₁ s₂ : Network Amount)
      (hc : s.cycles.lookup id = some c) (hclosed : c.status = .closed)
      (hsettled : settlePositions now order₁ order₂ c s = .ok txID s₁)
      (hlist : c.paymentIDs = pre ++ pid :: post)
      (hcredited : pre.forM (postCreditorLeg now) s₁ = .ok ⟨⟩ s₂)
      (hp : s₂.payments.lookup pid = some p) (hparty : s₂.Party p.creditor creditor acct) :
      Derives now s (.settleCycle order₁ order₂ id) p.creditor.participant p.id.creditKey
  | refund (id : PaymentID) (reason : String) (p : Payment Amount)
      (debtor creditor : Participant Amount) (da ca : Deposit.Account Amount)
      (hp : s.payments.lookup id = some p)
      (hscheme : ∃ sc ∈ s.schemes.lookup p.scheme, sc.allowsReturn)
      (hsettled : p.status = .settled) (hdebtor : s.Party p.debtor debtor da)
      (hcreditor : s.Party p.creditor creditor ca) :
      Derives now s (.returnPayment id reason) p.debtor.participant p.id.returnDebitKey
  | clawback (id : PaymentID) (reason : String) (p : Payment Amount)
      (debtor creditor : Participant Amount) (da ca : Deposit.Account Amount)
      (hrefund : s.Refundable id p reason debtor da)
      (hcreditor : s.Party p.creditor creditor ca) :
      Derives now s (.returnPayment id reason) p.creditor.participant p.id.returnCreditKey

namespace Twins

/-! ## Participants -/

/-- A new bank is the same on both sides. -/
theorem addBank (h : Twins ignored s t) {p : Participant Amount} (hp : p.Chart)
    (hid : p.id = ⟨ident "bank" (s.idCounter + 1)⟩) :
    Twins ignored
      (({ s with idCounter := s.idCounter + 1 } : Network Amount).setParticipant p.id p)
      (({ t with idCounter := t.idCounter + 1 } : Network Amount).setParticipant p.id p) := by
  have hfresh : s.participants.lookup p.id = none := by
    rw [hid]
    exact h.ids.fresh (fun _ _ heq => ParticipantID.mk.inj heq) (Nat.lt_succ_self _)
  have hfresh' : t.participants.lookup p.id = none := (rel_eq_none_iff (h.banks _)).mp hfresh
  have hkeyed {u : Network Amount} (hu : u.participants.lookup p.id = none)
      {j : ParticipantID} {key : String} {txID : Ledger.TransactionID}
      (hkey : u.Keyed j key txID) :
      (({ u with idCounter := u.idCounter + 1 } : Network Amount).setParticipant p.id p).Keyed
        j key txID := by
    obtain ⟨b, hb, hindex⟩ := hkey
    exact ⟨b, (Finmap.lookup_insert_fresh hu).mpr (.inr hb), hindex⟩
  exact
    { same := by
        obtain ⟨banks, payments, rfl⟩ := h.exists_eq
        rfl
      keyless := h.keyless
      ids := by
        show KeysUpTo _ _ _ (s.participants.insert p.id p)
        rw [hid]
        exact h.ids.insert (Nat.le_succ _) le_rfl p
      banks := fun j => by
        rw [setParticipant_lookup, setParticipant_lookup]
        split
        · exact .some (hp.twins _)
        · exact h.banks j
      payments := fun k =>
        rel_mono (h.payments k) fun q q' hq => hq.mono (hkeyed hfresh) (hkeyed hfresh') }

theorem addParticipant (h : Twins ignored s t) (now : Time) (name : String) :
    Call.Agree (Twins ignored) (fun _ s _ t => Twins ignored s t)
      (Network.addParticipant now name s) (Network.addParticipant now name t) := by
  obtain ⟨customers, suspense, reserve, bank, hchart, hbank, -, -, hsuspense, hreserve, -⟩ :=
    bankChart_eq Amount now name
  have hsub : t.cbReserveSubledger = s.cbReserveSubledger := by rw [h.same]
  rw [Network.addParticipant, hchart]
  dsimp only
  rw [Call.get_bind, Call.get_bind, hsub]
  refine (h.onCentralBank _).bind ?_
  rintro _ s' acct t' - ⟨rfl, h', -, -⟩
  let p : Participant Amount :=
    { id := ⟨ident "bank" (s'.idCounter + 1)⟩
      name := name
      deposit := Deposit.newRegister bank
      customerSubledger := customers
      suspenseAccount := suspense
      reserveAccount := reserve
      settlementAccount := acct.id }
  have hp : p.Chart :=
    ⟨Register.wf_newRegister hbank, hsuspense, hreserve, fun id a ha => by cases ha⟩
  obtain ⟨banks, payments, rfl⟩ := h'.exists_eq
  exact .ok (h'.addBank hp rfl)

/-- `OpenCustomerAccount` on the deposit layer of a bank. -/
theorem openCustomerAccount (h : Twins ignored s t) (now : Time) (i : ParticipantID)
    (name : String) :
    Call.Agree (Twins ignored) (fun _ s _ t => Twins ignored s t)
      (call now (.openCustomerAccount i name) s) (call now (.openCustomerAccount i name) t) := by
  rw [call, Call.get_bind, Call.get_bind]
  refine .orThrow (h.banks i) h fun b b' hb hb' htwins => ?_
  have hsub : b'.customerSubledger = b.customerSubledger := by rw [htwins.same]
  have hlook : b'.deposit.book.subledgers.lookup b'.customerSubledger
      = b.deposit.book.subledgers.lookup b.customerSubledger := by
    rw [hsub]
    exact congrArg _ htwins.subledgers
  have hopen := Register.openAccount_eq b.deposit now b.customerSubledger name 0
  have hopen' := Register.openAccount_eq b'.deposit now b'.customerSubledger name 0
  rw [hlook] at hopen'
  cases hx : b.deposit.book.subledgers.lookup b.customerSubledger with
  | none =>
    rw [hx] at hopen hopen'
    have hs : onDeposit i (b.openCustomerAccount now name).discard s = .error _ s :=
      onDeposit_of_error hb (Call.discard_of_error hopen)
    have ht : onDeposit i (b'.openCustomerAccount now name).discard t = .error _ t :=
      onDeposit_of_error hb' (Call.discard_of_error hopen')
    rw [hs, ht]
    exact .error h
  | some sl =>
    rw [hx] at hopen hopen'
    have hs : onDeposit i (b.openCustomerAccount now name).discard s = .ok () _ :=
      onDeposit_of_ok hb (Call.discard_of_ok hopen)
    have ht : onDeposit i (b'.openCustomerAccount now name).discard t = .ok () _ :=
      onDeposit_of_ok hb' (Call.discard_of_ok hopen')
    rw [hs, ht, hsub]
    exact .ok (h.setParticipant hb hb' (htwins.openAccount ..) (.of_eq rfl) (.of_eq rfl))

/-! ## Deposits and mandates -/

theorem deposit (h : Twins ignored s t) (now : Time) (i : ParticipantID)
    (account : Deposit.AccountID) (amount : Amount) (description : String) :
    Call.Agree (Twins ignored) (fun _ s _ t => Twins ignored s t)
      (Network.deposit now i account amount description s)
      (Network.deposit now i account amount description t) := by
  rw [Network.deposit]
  refine .require Iff.rfl h fun hpos => ?_
  rw [Call.get_bind, Call.get_bind]
  refine .orThrow (h.banks i) h fun b b' hb hb' htwins => ?_
  refine (h.glAccount hb hb' account).bind ?_
  rintro gl _ gl' _ - ⟨rfl, rfl, hgl, hgl'⟩
  have hname : b'.name = b.name := by rw [htwins.same]
  have hsettlement : b'.settlementAccount = b.settlementAccount := by rw [htwins.same]
  have hassets : t.cbAssets = s.cbAssets := by rw [h.same]
  rw [hname, hsettlement, hassets]
  refine .bind (h.post (h.keyless i) (accountOf_bank hb .reserve) hgl
    (accountOf_bank hb' .reserve) hgl' rfl rfl rfl rfl now) ?_
  rintro tx s₁ tx' t₁ - hposted
  refine .bind (hposted.twins.onCentralBank _) ?_
  rintro _ s₂ _ t₂ - ⟨-, h₂, -, -⟩
  exact .ok h₂

theorem createMandate (h : Twins ignored s t) (now : Time) (debtor creditor : PartyRef)
    (maxAmount : Amount) :
    Call.Agree (Twins ignored) (fun _ s _ t => Twins ignored s t)
      (Network.createMandate now debtor creditor maxAmount s)
      (Network.createMandate now debtor creditor maxAmount t) := by
  rw [Network.createMandate, Call.get_bind, Call.get_bind]
  refine .ofExcept (h.checkParty_eq debtor).symm h fun _ _ => ?_
  refine .ofExcept (h.checkParty_eq creditor).symm h fun _ _ => ?_
  obtain ⟨banks, payments, rfl⟩ := h.exists_eq
  exact .ok (h.congr rfl rfl rfl rfl rfl (Nat.le_succ _))

theorem revokeMandate (h : Twins ignored s t) (id : MandateID) :
    Call.Agree (Twins ignored) (fun _ s _ t => Twins ignored s t)
      (Network.revokeMandate id s) (Network.revokeMandate id t) := by
  rw [Network.revokeMandate, Call.get_bind, Call.get_bind]
  obtain ⟨banks, payments, rfl⟩ := h.exists_eq
  refine .orThrow_same h fun m hm => ?_
  exact .ok (h.congr rfl rfl rfl rfl rfl le_rfl)

/-! ## Clearing cycles -/

theorem openCycleFor (h : Twins ignored s t) (now : Time) (scheme : SchemeID) :
    Call.Agree (Twins ignored) (fun _ s _ t => Twins ignored s t)
      (Network.openCycleFor now scheme s) (Network.openCycleFor now scheme t) := by
  rw [Network.openCycleFor, Call.get_bind, Call.get_bind]
  obtain ⟨banks, payments, rfl⟩ := h.exists_eq
  refine .orThrow_same h fun sc hsc => ?_
  refine .require Iff.rfl h fun hno => ?_
  exact .ok (h.congr rfl rfl rfl rfl rfl (Nat.le_succ _))

/-- A payment moves along an edge of its lifecycle on both sides, or on neither. -/
theorem transition {α : Type} (h : Twins ignored s t) {p p' : Payment Amount}
    (hp : SamePayment ignored s t p p') (target : PaymentStatus)
    {f g : Payment Amount → Call (Network Amount) Err α}
    {Q : α → Network Amount → α → Network Amount → Prop}
    (hrest : SamePayment ignored s t { p with status := target } { p' with status := target } →
      Call.Agree (Twins ignored) Q (f { p with status := target } s)
        (g { p' with status := target } t)) :
    Call.Agree (Twins ignored) Q ((Network.transition p target >>= f) s)
      ((Network.transition p' target >>= g) t) := by
  have hsplit : ∀ (q : Payment Amount) (k : Payment Amount → Call (Network Amount) Err α),
      (Network.transition q target >>= k)
        = (require (target ∈ allowed q.status) Err.invalidStateTransition >>= fun _ =>
            k { q with status := target }) := by
    intro q k
    rw [Network.transition, bind_assoc]
    simp only [pure_bind]
  obtain ⟨leg, leg', rfl⟩ := hp.exists_eq
  rw [hsplit, hsplit]
  exact .require Iff.rfl h fun _ => hrest (hp.update rfl rfl rfl rfl rfl)

/-- One step of the loop of `CloseCycle`. -/
theorem clearPayment (h : Twins ignored s t) (net : GoMap ParticipantID Amount)
    (pid : PaymentID) :
    Call.Agree (Twins ignored) (fun net s net' t => net' = net ∧ Twins ignored s t)
      (Network.clearPayment net pid s) (Network.clearPayment net pid t) := by
  rw [Network.clearPayment, Call.get_bind, Call.get_bind]
  refine .orThrow (h.payments pid) h fun p p' hp hp' hsame => ?_
  obtain ⟨leg, leg', rfl⟩ := hsame.exists_eq
  exact h.transition hsame .cleared fun hcleared => .ok ⟨rfl, h.setPayment hcleared pid⟩

theorem closeCycle (h : Twins ignored s t) (now : Time) (id : CycleID) :
    Call.Agree (Twins ignored) (fun _ s _ t => Twins ignored s t)
      (Network.closeCycle now id s) (Network.closeCycle now id t) := by
  rw [Network.closeCycle, Call.get_bind, Call.get_bind]
  have hcycles : t.cycles = s.cycles := by rw [h.same]
  rw [hcycles]
  refine .orThrow_same h fun c hc => ?_
  refine .require Iff.rfl h fun hopen => ?_
  have hloop : Call.Agree (Twins ignored) (fun net s net' t => net' = net ∧ Twins ignored s t)
      (c.paymentIDs.foldlM Network.clearPayment ∅ s)
      (c.paymentIDs.foldlM Network.clearPayment ∅ t) := by
    refine .foldlM ?_ ⟨rfl, h⟩
    rintro pid - net s _ t ⟨rfl, h⟩
    exact h.clearPayment _ pid
  refine .bind hloop ?_
  rintro _ s' net t' - ⟨rfl, h'⟩
  obtain ⟨banks, payments, rfl⟩ := h'.exists_eq
  exact .ok (h'.congr rfl rfl rfl rfl rfl le_rfl)

/-! ## Payments -/

theorem checkPayment (h : Twins ignored s t) (now : Time)
    (req : InitiatePaymentRequest Amount) :
    Call.Agree (Twins ignored)
      (fun c s' c' t' => Twins ignored s' t' ∧ c'.payment = c.payment ∧
        s'.accountOf req.debtor.participant (.customer req.debtor.account) = some c.debtorGL ∧
        s'.accountOf req.debtor.participant .suspense = some c.suspense ∧
        t'.accountOf req.debtor.participant (.customer req.debtor.account) = some c'.debtorGL ∧
        t'.accountOf req.debtor.participant .suspense = some c'.suspense)
      (Network.checkPayment now req s) (Network.checkPayment now req t) := by
  have hschemes : t.schemes = s.schemes := by rw [h.same]
  have hindex : t.endToEndIndex = s.endToEndIndex := by rw [h.same]
  have hopen : t.openCycle = s.openCycle := by rw [h.same]
  have hcounter : t.idCounter = s.idCounter := by rw [h.same]
  rw [Network.checkPayment, Call.get_bind, Call.get_bind, hschemes, hindex, hopen]
  refine .orThrow_same h fun scheme hscheme => ?_
  refine .require Iff.rfl h fun hpos => ?_
  refine .ofExcept (h.checkParty_eq req.debtor).symm h fun _ _ => ?_
  refine .ofExcept (h.checkParty_eq req.creditor).symm h fun _ _ => ?_
  refine .require Iff.rfl h fun hend => ?_
  refine .orThrow_same h fun cycleID hcycle => ?_
  rw [nextID_bind, nextID_bind, Call.get_bind, Call.get_bind, hcounter]
  -- an id is drawn on both sides
  have h' : Twins ignored ({ s with idCounter := s.idCounter + 1 } : Network Amount)
      ({ t with idCounter := s.idCounter + 1 } : Network Amount) := by
    obtain ⟨banks, payments, rfl⟩ := h.exists_eq
    exact h.congr rfl rfl rfl rfl rfl (Nat.le_succ _)
  refine .ofExcept (h'.validate_eq scheme now _).symm h' fun _ _ => ?_
  refine .orThrow (h'.banks _) h' fun b b' hb hb' htwins => ?_
  refine .bind (h'.glAccount hb hb' _) ?_
  rintro gl _ gl' _ - ⟨rfl, rfl, hgl, hgl'⟩
  exact .ok ⟨h', rfl, hgl, accountOf_bank hb .suspense, hgl', accountOf_bank hb' .suspense⟩

theorem initiatePayment (h : Twins ignored s t) (now : Time)
    (req : InitiatePaymentRequest Amount)
    (hvisible : ∀ i key, Derives now s (.initiatePayment req) i key → ¬ignored i key) :
    Call.Agree (Twins ignored) (fun _ s _ t => Twins ignored s t)
      (Network.initiatePayment now req s) (Network.initiatePayment now req t) := by
  rw [initiatePayment_eq]
  refine .bind (h.checkPayment now req) ?_
  rintro c s₁ c' t₁ hok ⟨h₁, hpayment, hsource, htarget, hsource', htarget'⟩
  have hkey : ¬ignored c.payment.debtor.participant c.payment.id.debitKey ∧
      c.payment.debtor = req.debtor := by
    rcases checkPayment_cases s now req with ⟨e, he⟩ | ⟨e, he⟩ | ⟨sc, cid, b, a, hchecks, heq⟩
    · cases he.symm.trans hok
    · cases he.symm.trans hok
    · cases heq.symm.trans hok
      exact ⟨hvisible _ _ (.debit req sc cid b a hchecks), rfl⟩
  obtain ⟨hkey, hdebtor⟩ := hkey
  rw [postPayment, postPayment, hpayment]
  rw [← hdebtor] at hsource htarget hsource' htarget'
  refine .bind (h₁.post hkey hsource htarget hsource' htarget' rfl rfl rfl rfl now) ?_
  rintro tx s₂ tx' t₂ - hposted
  have h₂ := hposted.twins
  have hne : c.payment.id.debitKey ≠ "" := joinColon_ne_empty _ _
  have hsame : SamePayment ignored s₂ t₂ { c.payment with debtorLegTx := some tx.id }
      { c.payment with debtorLegTx := some tx'.id } :=
    ⟨rfl, ⟨tx.id, rfl, hposted.keyed hne⟩, ⟨tx'.id, rfl, hposted.keyed' hne⟩, hkey⟩
  refine h₂.transition hsame .accepted fun haccepted => ?_
  have hcycles : t₂.cycles = s₂.cycles := by rw [h₂.same]
  rw [Call.get_bind, Call.get_bind, hcycles]
  refine .orThrow_same h₂ fun cycle hcycle => ?_
  have h₃ := h₂.setPayment haccepted c.payment.id
  refine .ok (h₃.congr rfl rfl rfl rfl ?_ le_rfl)
  obtain ⟨banks, payments, rfl⟩ := h₂.exists_eq
  rfl

/-- A payment is dropped from its cycle. -/
theorem removeFromCycle (h : Twins ignored s t) {p p' : Payment Amount}
    (hid : p'.id = p.id) (hcycle : p'.cycleID = p.cycleID) :
    Twins ignored (s.removeFromCycle p) (t.removeFromCycle p') := by
  obtain ⟨banks, payments, rfl⟩ := h.exists_eq
  rw [Network.removeFromCycle, Network.removeFromCycle, hid, hcycle]
  cases s.cycles.lookup p.cycleID with
  | none => exact h
  | some c => exact h.congr rfl rfl rfl rfl rfl le_rfl

theorem rejectPayment (h : Twins ignored s t) (now : Time) (id : PaymentID)
    (reason : String) :
    Call.Agree (Twins ignored) (fun _ s _ t => Twins ignored s t)
      (Network.rejectPayment now id reason s) (Network.rejectPayment now id reason t) := by
  rw [Network.rejectPayment, Call.get_bind, Call.get_bind]
  refine .orThrow (h.payments id) h fun p p' hp hp' hsame => ?_
  have hstatus : p'.status = p.status := by rw [hsame.same]
  refine .require (by rw [hstatus]) h fun hopen => ?_
  refine .bind (h.reverse hsame now reason) ?_
  rintro _ s₁ _ t₁ - ⟨h₁, hpay, hpay'⟩
  rw [Call.modify_bind, Call.modify_bind]
  have hsame₁ : SamePayment ignored s₁ t₁ p p' := h₁.samePayment (hpay ▸ hp) (hpay' ▸ hp')
  have h₂ : Twins ignored (s₁.removeFromCycle p) (t₁.removeFromCycle p') :=
    h₁.removeFromCycle (by rw [hsame.same]) (by rw [hsame.same])
  have hsame₂ : SamePayment ignored (s₁.removeFromCycle p) (t₁.removeFromCycle p') p p' :=
    hsame₁.mono (.congr (s₁.books_removeFromCycle p).1)
      (.congr (t₁.books_removeFromCycle p').1)
  refine h₂.transition hsame₂ .rejected fun hrejected => ?_
  have hlast : SamePayment ignored (s₁.removeFromCycle p) (t₁.removeFromCycle p')
      { p with status := .rejected, rejectReason := reason }
      { p' with status := .rejected, rejectReason := reason } :=
    hrejected.update (by rw [hsame.same]) rfl rfl rfl rfl
  exact .ok (h₂.setPayment hlast id)

theorem returnPayment (h : Twins ignored s t) (now : Time) (id : PaymentID)
    (reason : String)
    (hvisible : ∀ i key, Derives now s (.returnPayment id reason) i key → ¬ignored i key) :
    Call.Agree (Twins ignored) (fun _ s _ t => Twins ignored s t)
      (Network.returnPayment now id reason s) (Network.returnPayment now id reason t) := by
  have hschemes : t.schemes = s.schemes := by rw [h.same]
  rw [Network.returnPayment, Call.get_bind, Call.get_bind, hschemes]
  refine .orThrow (h.payments id) h fun p p' hp hp' hsame => ?_
  obtain ⟨leg, leg', rfl⟩ := hsame.exists_eq
  refine .require Iff.rfl h fun hallowed => ?_
  refine .require Iff.rfl h fun hsettled => ?_
  refine .orThrow (h.banks _) h fun b b' hb hb' htwins => ?_
  refine .orThrow (h.banks _) h fun c c' hc hc' htwins' => ?_
  refine .bind (h.glAccount hb hb' _) ?_
  rintro debtorGL _ debtorGL' _ - ⟨rfl, rfl, hdebtorGL, hdebtorGL'⟩
  refine .bind (h.glAccount hc hc' _) ?_
  rintro creditorGL _ creditorGL' _ - ⟨rfl, rfl, hcreditorGL, hcreditorGL'⟩
  obtain ⟨da, hdebtor, rfl⟩ := party_of_accountOf hb hdebtorGL
  obtain ⟨ca, hcreditor, rfl⟩ := party_of_accountOf hc hcreditorGL
  have hrefund := hvisible _ _
    (.refund id reason p b c da ca hp hallowed hsettled hdebtor hcreditor)
  refine .bind (h.post hrefund (accountOf_bank hb .reserve) hdebtorGL
    (accountOf_bank hb' .reserve) hdebtorGL' rfl rfl rfl rfl now) ?_
  rintro tx s₁ tx' t₁ hok hrefunded
  have haccepts : b.ledger.Accepts (returnDebitRequest p reason b da.glAccount) := by
    by_contra hno
    obtain ⟨e, he, -⟩ := (onLedger_post now hb _).2 hno
    cases he.symm.trans hok
  have hclawback := hvisible _ _ (.clawback id reason p b c da ca
    ⟨hp, hallowed, hsettled, hdebtor, haccepts⟩ hcreditor)
  refine .bind (hrefunded.twins.post hclawback (hrefunded.kept hcreditorGL)
    (hrefunded.kept (accountOf_bank hc .reserve)) (hrefunded.kept' hcreditorGL')
    (hrefunded.kept' (accountOf_bank hc' .reserve)) rfl rfl rfl rfl now) ?_
  rintro tx s₂ tx' t₂ - hclawed
  have hsettlement : b'.settlementAccount = b.settlementAccount := by rw [htwins.same]
  have hsettlement' : c'.settlementAccount = c.settlementAccount := by rw [htwins'.same]
  rw [hsettlement, hsettlement']
  refine .bind (hclawed.twins.onCentralBank _) ?_
  rintro _ s₃ _ t₃ - ⟨-, h₃, hpay, hpay'⟩
  have hkept : s₃.payments = s.payments := by rw [hpay, hclawed.payments, hrefunded.payments]
  have hkept' : t₃.payments = t.payments := by rw [hpay', hclawed.payments', hrefunded.payments']
  have hsame₃ := h₃.samePayment (hkept.symm ▸ hp) (hkept'.symm ▸ hp')
  refine h₃.transition hsame₃ .returned fun hreturned => ?_
  refine .ok (h₃.setPayment ?_ id)
  exact hreturned.update rfl rfl rfl rfl rfl

/-! ## Settlement -/

/-- The legs at the central bank are the same. -/
theorem addSettlementEntry_eq (h : Twins ignored s t) :
    t.addSettlementEntry = s.addSettlementEntry := by
  funext entries d
  rw [addSettlementEntry, addSettlementEntry]
  cases hb : s.participants.lookup d.1 with
  | none => rw [(rel_eq_none_iff (h.banks _)).mp hb]
  | some b =>
    obtain ⟨b', hb', htwins⟩ := h.bank hb
    have hsettlement : b'.settlementAccount = b.settlementAccount := by rw [htwins.same]
    rw [hb']
    dsimp only
    rw [hsettlement]

/-- One step of the loop that mirrors the net positions. -/
theorem mirrorPosition (h : Twins ignored s t) (now : Time) {c : ClearingCycle Amount}
    {d : ParticipantID × Amount} (hvisible : d.2 ≠ 0 → ¬ignored d.1 (c.id.mirrorKey d.1)) :
    Call.Agree (Twins ignored) (fun _ s _ t => Twins ignored s t)
      (Network.mirrorPosition now c d s) (Network.mirrorPosition now c d t) := by
  rw [Network.mirrorPosition]
  by_cases hzero : d.2 = 0
  · rw [if_pos hzero]
    exact .ok h
  rw [if_neg hzero, Call.get_bind, Call.get_bind]
  refine .orThrow (h.banks _) h fun b b' hb hb' htwins => ?_
  have hkey := hvisible hzero
  by_cases hpos : 0 < d.2
  · have hentries (p : Participant Amount) :
        mirrorEntries p d.2 = transfer p.reserveAccount p.suspenseAccount d.2 := if_pos hpos
    rw [hentries, hentries]
    refine .bind (h.post hkey (accountOf_bank hb .reserve) (accountOf_bank hb .suspense)
      (accountOf_bank hb' .reserve) (accountOf_bank hb' .suspense) rfl rfl rfl rfl now) ?_
    rintro tx s' tx' t' - hposted
    exact .ok hposted.twins
  · have hentries (p : Participant Amount) :
        mirrorEntries p d.2 = transfer p.suspenseAccount p.reserveAccount (-d.2) := if_neg hpos
    rw [hentries, hentries]
    refine .bind (h.post hkey (accountOf_bank hb .suspense) (accountOf_bank hb .reserve)
      (accountOf_bank hb' .suspense) (accountOf_bank hb' .reserve) rfl rfl rfl rfl now) ?_
    rintro tx s' tx' t' - hposted
    exact .ok hposted.twins

theorem settlePositions (h : Twins ignored s t) (now : Time)
    (order₁ order₂ : MapOrder ParticipantID Amount) {id : CycleID} {c : ClearingCycle Amount}
    (hc : s.cycles.lookup id = some c) (hclosed : c.status = .closed)
    (hvisible : ∀ i key, Derives now s (.settleCycle order₁ order₂ id) i key →
      ¬ignored i key) :
    Call.Agree (Twins ignored) (fun tx s tx' t => tx' = tx ∧ Twins ignored s t)
      (Network.settlePositions now order₁ order₂ c s)
      (Network.settlePositions now order₁ order₂ c t) := by
  rw [Network.settlePositions, Call.get_bind, Call.get_bind, h.addSettlementEntry_eq]
  refine .ofExcept rfl h fun entries hentries => ?_
  by_cases hempty : entries = []
  · rw [if_pos hempty]
    exact .ok ⟨rfl, h⟩
  rw [if_neg hempty]
  refine .bind (h.onCentralBank _) ?_
  rintro _ s₁ tx t₁ hposted ⟨rfl, h₁, -, -⟩
  have hloop : Call.Agree (Twins ignored) (fun _ s _ t => Twins ignored s t)
      ((order₂.toList c.netPositions).forM (Network.mirrorPosition now c) s₁)
      ((order₂.toList c.netPositions).forM (Network.mirrorPosition now c) t₁) := by
    refine .forM (fun pre d post u v hlist hmirrored huv => ?_) h₁
    refine huv.mirrorPosition now fun hne => hvisible _ _ ?_
    exact .mirror order₁ order₂ id c entries tx pre post d.1 d.2 s₁ u hc hclosed hentries
      hposted hlist hmirrored hne
  exact .bind hloop fun _ s₂ _ t₂ _ h₂ => .ok ⟨rfl, h₂⟩

/-- One step of the loop that posts the creditor legs. -/
theorem postCreditorLeg (h : Twins ignored s t) (now : Time) (pid : PaymentID)
    (hvisible : ∀ p creditor acct, s.payments.lookup pid = some p →
      s.Party p.creditor creditor acct → ¬ignored p.creditor.participant p.id.creditKey) :
    Call.Agree (Twins ignored) (fun _ s _ t => Twins ignored s t)
      (Network.postCreditorLeg now pid s) (Network.postCreditorLeg now pid t) := by
  rw [Network.postCreditorLeg, Call.get_bind, Call.get_bind]
  refine .orThrow (h.payments pid) h fun p p' hp hp' hsame => ?_
  obtain ⟨leg, leg', rfl⟩ := hsame.exists_eq
  refine .orThrow (h.banks _) h fun c c' hc hc' htwins => ?_
  refine .bind (h.glAccount hc hc' _) ?_
  rintro gl _ gl' _ - ⟨rfl, rfl, hgl, hgl'⟩
  obtain ⟨acct, hparty, rfl⟩ := party_of_accountOf hc hgl
  refine .bind (h.post (hvisible p c acct hp hparty) (accountOf_bank hc .suspense) hgl
    (accountOf_bank hc' .suspense) hgl' rfl rfl rfl rfl now) ?_
  rintro tx s₁ tx' t₁ - hposted
  have h₁ := hposted.twins
  have hp₁ : s₁.payments.lookup pid = some p := hposted.payments ▸ hp
  have hsame₁ := h₁.samePayment hp₁ (hposted.payments' ▸ hp')
  have hleg : SamePayment ignored s₁ t₁ { p with creditorLegTx := some tx.id }
      { p with debtorLegTx := leg, creditorLegTx := some tx'.id } :=
    hsame₁.update rfl rfl rfl rfl rfl
  -- the leg is recorded before the transition
  have h₂ := h₁.setPayment hleg pid
  have hleg₂ : SamePayment ignored (s₁.setPayment pid { p with creditorLegTx := some tx.id })
      (t₁.setPayment pid { p with debtorLegTx := leg, creditorLegTx := some tx'.id })
      { p with creditorLegTx := some tx.id }
      { p with debtorLegTx := leg, creditorLegTx := some tx'.id } :=
    hleg.mono (.congr rfl) (.congr rfl)
  rw [Call.modify_bind, Call.modify_bind]
  exact h₂.transition hleg₂ .settled fun hsettled => .ok (h₂.setPayment hsettled pid)

theorem settleCycle (h : Twins ignored s t) (now : Time)
    (order₁ order₂ : MapOrder ParticipantID Amount) (id : CycleID)
    (hvisible : ∀ i key, Derives now s (.settleCycle order₁ order₂ id) i key →
      ¬ignored i key) :
    Call.Agree (Twins ignored) (fun _ s _ t => Twins ignored s t)
      (Network.settleCycle now order₁ order₂ id s)
      (Network.settleCycle now order₁ order₂ id t) := by
  have hcycles : t.cycles = s.cycles := by rw [h.same]
  rw [Network.settleCycle, Call.get_bind, Call.get_bind, hcycles]
  refine .orThrow_same h fun c hc => ?_
  refine .require Iff.rfl h fun hclosed => ?_
  refine .bind (h.settlePositions now order₁ order₂ hc hclosed hvisible) ?_
  rintro _ s₁ tx t₁ hsettled ⟨rfl, h₁⟩
  have hloop : Call.Agree (Twins ignored) (fun _ s _ t => Twins ignored s t)
      (c.paymentIDs.forM (Network.postCreditorLeg now) s₁)
      (c.paymentIDs.forM (Network.postCreditorLeg now) t₁) := by
    refine .forM (fun pre pid post u v hlist hcredited huv => ?_) h₁
    refine huv.postCreditorLeg now pid fun p creditor acct hp hparty => hvisible _ _ ?_
    exact .credit order₁ order₂ id c tx pre post pid p creditor acct s₁ u hc hclosed hsettled
      hlist hcredited hp hparty
  refine .bind hloop fun _ s₂ _ t₂ _ h₂ => ?_
  rw [nextID_bind, nextID_bind]
  obtain ⟨banks, payments, rfl⟩ := h₂.exists_eq
  exact .ok (h₂.congr rfl rfl rfl rfl rfl (Nat.le_succ _))

/-! ## All operations -/

theorem registerScheme (h : Twins ignored s t) (sc : Scheme) :
    Twins ignored (s.registerScheme sc) (t.registerScheme sc) := by
  obtain ⟨banks, payments, rfl⟩ := h.exists_eq
  exact h.congr rfl rfl rfl rfl rfl le_rfl

/-- A call on the network agrees on twins, if no key that it comes to post under is left aside.
Calls on the deposit layer of a bank are not among these: a capture may go to an account of
a client. -/
theorem call (h : Twins ignored s t) (now : Time) {op : Op Amount}
    (hop : ∀ i rop, op ≠ .register i rop)
    (hvisible : ∀ i key, Derives now s op i key → ¬ignored i key) :
    Call.Agree (Twins ignored) (fun _ s _ t => Twins ignored s t)
      (Network.call now op s) (Network.call now op t) := by
  have hdrop : ∀ {α : Type} {x y : Call (Network Amount) Err α},
      Call.Agree (Twins ignored) (fun _ s _ t => Twins ignored s t) (x s) (y t) →
      Call.Agree (Twins ignored) (fun _ s _ t => Twins ignored s t)
        (x.discard s) (y.discard t) :=
    fun hxy => hxy.discard fun _ _ _ _ h' => h'
  cases op with
  | registerScheme sc => exact .ok (h.registerScheme sc)
  | addParticipant name => exact hdrop (h.addParticipant now name)
  | openCustomerAccount i name => exact h.openCustomerAccount now i name
  | register i rop => exact absurd rfl (hop i rop)
  | deposit i account amount description => exact h.deposit now i account amount description
  | createMandate debtor creditor maxAmount =>
    exact hdrop (h.createMandate now debtor creditor maxAmount)
  | revokeMandate id => exact h.revokeMandate id
  | openCycle scheme => exact hdrop (h.openCycleFor now scheme)
  | closeCycle id => exact hdrop (h.closeCycle now id)
  | settleCycle order₁ order₂ id => exact hdrop (h.settleCycle now order₁ order₂ id hvisible)
  | initiatePayment req => exact hdrop (h.initiatePayment now req hvisible)
  | rejectPayment id reason => exact hdrop (h.rejectPayment now id reason)
  | returnPayment id reason => exact hdrop (h.returnPayment now id reason hvisible)

end Twins

end Network

end CoreBanking.Payment
