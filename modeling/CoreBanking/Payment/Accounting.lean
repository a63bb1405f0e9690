import CoreBanking.Payment.Holdings

/-!
# What payments and deposits account for

At any moment a payment has moved a certain amount between places, its share of
the holdings; which places these are depends on its status only
(`Payment.share`). What a network holds beyond the shares of its payments,
`Network.surplus`, is changed by deposits and by nothing else:
`Change.surplus` says so for every call in which no posting of a settlement or
a return is refused, and `surplus_run` for runs of such calls.

In the middle of a settlement the surplus is off by the net positions that the
creditor legs have not used up yet (`surplus_settlePositions`,
`surplus_withCreditorLeg`).
-/

namespace CoreBanking.Payment

set_option linter.dupNamespace false

open Ledger (Book Entry PostTransactionRequest Transaction transfer)
open Deposit (Register)

variable {Amount : Type} [AddCommGroup Amount]

/-! ## Shares -/

/-- More reserves for bank `i`, in its own ledger and at the central bank. -/
def reserves (i : ParticipantID) (amount : Amount) : Place → Amount :=
  credit (.centralBank i) amount - credit (.bank i .reserve) amount

/-- What a net position of bank `i` moves: reserves, and its suspense. -/
def interbank (i : ParticipantID) (amount : Amount) : Place → Amount :=
  credit (.bank i .suspense) amount + reserves i amount

/-- What a payment has moved. -/
def Payment.share (p : Payment Amount) : Place → Amount :=
  match p.status with
  | .initiated => 0
  | .accepted | .cleared =>
    credit (.bank p.debtor.participant .suspense) p.amount
      - credit p.debtor.place p.amount
  | .settled =>
    credit p.creditor.place p.amount - credit p.debtor.place p.amount
      + (reserves p.creditor.participant p.amount
        - reserves p.debtor.participant p.amount)
  | .rejected => 0
  | .returned => 0

/-- What a payment contributes to the net positions of its banks. -/
def Payment.netting (p : Payment Amount) : Place → Amount :=
  interbank p.creditor.participant p.amount - interbank p.debtor.participant p.amount

theorem Payment.SameTerms.netting {p p' : Payment Amount} (h : p.SameTerms p') :
    p'.netting = p.netting := by
  rw [h]
  rfl

/-- A deposit that was made. -/
structure Receipt (Amount : Type) where
  participant : ParticipantID
  account : Deposit.AccountID
  amount : Amount

/-- What a deposit moves: the customer has more, and so has the bank. -/
def Receipt.share (r : Receipt Amount) : Place → Amount :=
  credit (.bank r.participant (.customer r.account)) r.amount
    + reserves r.participant r.amount

/-- The bank whose reserves or suspense are at a place. -/
def Place.interbankOf : Place → Option ParticipantID
  | .bank _ (.customer _) => none
  | .bank i .suspense => some i
  | .bank i .reserve => some i
  | .centralBank i => some i

/-! ## Net positions -/

theorem interbank_apply (i : ParticipantID) (amount : Amount) (place : Place) :
    interbank i amount place = if place.interbankOf = some i then amount else 0 := by
  cases place with
  | centralBank j => simp [interbank, reserves, Place.interbankOf, eq_comm]
  | bank j role =>
    by_cases hj : i = j
    · subst hj
      cases role <;> simp [interbank, reserves, credit_bank, Role.credited, Role.normal,
        Place.interbankOf]
    · cases role <;> simp [interbank, reserves, credit_bank, Place.interbankOf, hj,
        Ne.symm hj]

theorem interbank_zero (i : ParticipantID) : interbank i (0 : Amount) = 0 := by
  funext place
  rw [interbank_apply, ite_self]
  rfl

/-- What the payments with the given ids contribute to the net positions. -/
def nettingOf (payments : GoMap PaymentID (Payment Amount)) (ids : List PaymentID) :
    Place → Amount :=
  (ids.map fun pid => ((payments.lookup pid).map Payment.netting).getD 0).sum

theorem nettingOf_cons (payments : GoMap PaymentID (Payment Amount)) (pid : PaymentID)
    (ids : List PaymentID) : nettingOf payments (pid :: ids)
      = ((payments.lookup pid).map Payment.netting).getD 0 + nettingOf payments ids := by
  rw [nettingOf, nettingOf, List.map_cons, List.sum_cons]

theorem nettingOf_relabel {m m' : GoMap PaymentID (Payment Amount)}
    (h : Relabels m m') (ids : List PaymentID) : nettingOf m' ids = nettingOf m ids := by
  rw [nettingOf, nettingOf]
  refine congrArg List.sum (List.map_congr_left fun pid _ => ?_)
  rcases h pid with ⟨hm, hm'⟩ | ⟨p, p', hm, hm', hterms⟩
  · rw [hm, hm']
  · rw [hm, hm', Option.map_some, Option.map_some, hterms.netting]

/-- Where the interbank money of bank `i` is, its payments contribute their net
amounts. -/
theorem nettingOf_apply (payments : GoMap PaymentID (Payment Amount))
    (ids : List PaymentID) (place : Place) : nettingOf payments ids place
      = match place.interbankOf with
        | none => 0
        | some i => netOf payments ids i := by
  induction ids with
  | nil =>
    rw [nettingOf]
    cases place.interbankOf <;> rfl
  | cons pid ids ih =>
    rw [nettingOf_cons, Pi.add_apply, ih]
    cases hplace : place.interbankOf with
    | none =>
      cases payments.lookup pid with
      | none => simp
      | some p => simp [Payment.netting, interbank_apply, hplace]
    | some i =>
      dsimp only
      rw [netOf, netOf, List.map_cons, List.sum_cons]
      cases payments.lookup pid with
      | none => simp
      | some p =>
        simp [Payment.netting, Payment.netFor, interbank_apply, hplace, eq_comm]

/-- The net positions move what the payments contribute to them. -/
theorem sum_interbank {net : GoMap ParticipantID Amount}
    {payments : GoMap PaymentID (Payment Amount)} {ids : List PaymentID}
    (h : ∀ i, position net i = netOf payments ids i) :
    net.sum interbank = nettingOf payments ids := by
  funext place
  rw [nettingOf_apply, Finmap.sum_apply]
  simp only [interbank_apply]
  cases hplace : place.interbankOf with
  | none => exact Finmap.sum_eq_zero fun _ _ _ => rfl
  | some i =>
    dsimp only
    rw [← h i, position, ← Finmap.sum_ite_key]
    simp [eq_comm]

namespace Network

/-- What all payments have moved. -/
def shares (s : Network Amount) : Place → Amount :=
  s.payments.sum fun _ p => p.share

/-- What the network holds beyond what its payments have moved. -/
def surplus (s : Network Amount) : Place → Amount := s.holdings - s.shares

/-- Overwriting a payment trades its old share for the new one. -/
theorem shares_setPayment {s : Network Amount} {pid : PaymentID} {p : Payment Amount}
    (hp : s.payments.lookup pid = some p) (p' : Payment Amount) :
    (s.setPayment pid p').shares = s.shares - p.share + p'.share :=
  Finmap.sum_update p' hp _

/-! ## The course of a settlement -/

section Settlement

variable [LinearOrder Amount] {s : Network Amount} {now : Time}
  {order₁ order₂ : MapOrder ParticipantID Amount} {c : ClearingCycle Amount}

/-- A mirror moves suspense and reserve of a bank. -/
theorem holdings_withMirror (h : s.Banks) (now : Time) {d : ParticipantID × Amount}
    (hm : s.MirrorAccepted c d) : (s.withMirror now c d).Banks ∧
      (s.withMirror now c d).holdings = s.holdings
        + (credit (.bank d.1 .suspense) d.2 - credit (.bank d.1 .reserve) d.2) := by
  rcases withMirror_cases now hm with ⟨hzero, heq⟩ | ⟨b, -, hb, hacc, heq⟩
  · rw [heq, hzero, credit_zero, credit_zero, sub_zero, add_zero]
    exact ⟨h, rfl⟩
  · rw [heq]
    refine ⟨h.posted hb hacc (mirrorRequest_declared _ _ _ _), ?_⟩
    by_cases hpos : 0 < d.2
    · exact holdings_posted h hb .reserve .suspense rfl rfl (if_pos hpos)
    · refine (holdings_posted h hb .suspense .reserve rfl rfl (if_neg hpos)).trans ?_
      rw [credit_neg, credit_neg]
      abel

/-- The mirrors of several positions. -/
theorem holdings_mirrors (h : s.Banks) {l : List (ParticipantID × Amount)}
    (hmirrors : Along (withMirror now c) (MirrorAccepted c) s l) :
    (run (withMirror now c) s l).holdings = s.holdings
      + (l.map fun d =>
        credit (.bank d.1 .suspense) d.2 - credit (.bank d.1 .reserve) d.2).sum := by
  induction l generalizing s with
  | nil => exact (add_zero _).symm
  | cons d l ih =>
    obtain ⟨hbanks, hholdings⟩ := holdings_withMirror h now hmirrors.1
    rw [run, ih hbanks hmirrors.2, hholdings, List.map_cons, List.sum_cons, add_assoc]

/-- The posting at the central bank moves the positions between the banks. -/
theorem holdings_cbSettled (h : s.Banks)
    (hkeys : ∀ i v, c.netPositions.lookup i = some v → i ∈ s.participants)
    {req : PostTransactionRequest Amount} (hreq : req
      = settleRequest c (s.settlementEntries (order₁.toList c.netPositions))) :
    (s.cbPosted now req).holdings
      = s.holdings + c.netPositions.sum fun i v => credit (.centralBank i) v := by
  have hmem : ∀ d ∈ order₁.toList c.netPositions, d.1 ∈ s.participants :=
    fun d hd => hkeys d.1 d.2 (order₁.mem_toList.mp hd)
  have hentries : req.entries = s.settlementEntries (order₁.toList c.netPositions) := by
    rw [hreq]
    rfl
  rw [holdings_cbPosted h, hentries, cbEffect_settlementEntries h hmem,
    order₁.sum_toList c.netPositions fun i v => credit (.centralBank i) v]

/-- Settling the positions moves them. -/
theorem holdings_settlePositions (h : s.Banks)
    (hkeys : ∀ i v, c.netPositions.lookup i = some v → i ∈ s.participants)
    {tx : Option Ledger.TransactionID} {t : Network Amount}
    (hp : PositionsSettled now order₁ order₂ c s (.ok tx t)) :
    t.holdings = s.holdings + c.netPositions.sum interbank := by
  cases hp with
  | nothing hentries =>
    -- all positions are zero
    have hzero : (c.netPositions.sum interbank : Place → Amount) = 0 := by
      refine Finmap.sum_eq_zero fun i v hv => ?_
      obtain ⟨b, hb⟩ := Finmap.mem_iff.mp (hkeys i v hv)
      have hv0 : v = 0 := by
        by_contra hne
        obtain ⟨e, he, -⟩ := exists_settlementEntry (order₁.mem_toList.mpr hv) hne hb
        rw [hentries] at he
        cases he
      rw [hv0, interbank_zero]
    rw [hzero, add_zero]
  | settled req hreq hacc hmirrors =>
    have hsum : (c.netPositions.sum interbank : Place → Amount)
        = (c.netPositions.sum fun i v => credit (.centralBank i) v)
          + c.netPositions.sum fun i v =>
            credit (.bank i .suspense) v - credit (.bank i .reserve) v := by
      rw [← Finmap.sum_add]
      refine Finmap.sum_congr fun i v _ => ?_
      rw [interbank, reserves]
      abel
    rw [holdings_mirrors (h.cbSettled hreq hacc) hmirrors, holdings_cbSettled h hkeys hreq,
      order₂.sum_toList c.netPositions fun i v =>
        credit (.bank i .suspense) v - credit (.bank i .reserve) v, hsum, add_assoc]

theorem surplus_settlePositions (h : s.Banks)
    (hkeys : ∀ i v, c.netPositions.lookup i = some v → i ∈ s.participants)
    {tx : Option Ledger.TransactionID} {t : Network Amount}
    (hp : PositionsSettled now order₁ order₂ c s (.ok tx t)) :
    t.surplus = s.surplus + c.netPositions.sum interbank := by
  have hshares : t.shares = s.shares := by
    obtain ⟨banks, cb, rfl⟩ := hp.frame
    rfl
  rw [surplus, surplus, hshares, holdings_settlePositions h hkeys hp]
  abel

/-- A creditor leg moves the amount from the suspense to the creditor. -/
theorem holdings_withCreditorLeg (h : s.Banks) {pid : PaymentID} {p : Payment Amount}
    {creditor : Participant Amount} {acct : Deposit.Account Amount}
    (hc : s.Creditable pid p creditor acct) :
    (s.withCreditorLeg now pid).holdings = s.holdings + (credit p.creditor.place p.amount
      - credit (.bank p.creditor.participant .suspense) p.amount) := by
  have hparty := hc.creditor_exists
  have haccount : creditor.accountOf (.customer p.creditor.account)
      = some acct.glAccount := Participant.accountOf_customer hparty.account
  rw [withCreditorLeg_eq hc.stored hparty]
  exact holdings_posted h hparty.bank .suspense _ rfl haccount rfl

/-- A creditor leg uses up what the payment contributed to the positions. -/
theorem surplus_withCreditorLeg (h : s.Banks) {pid : PaymentID} {p : Payment Amount}
    {creditor : Participant Amount} {acct : Deposit.Account Amount}
    (hc : s.Creditable pid p creditor acct) :
    (s.withCreditorLeg now pid).surplus = s.surplus - p.netting := by
  let s₁ := s.posted now p.creditor.participant creditor
    (creditRequest p creditor acct.glAccount)
  have hp : s₁.payments.lookup pid = some p := hc.stored
  have hshares : (s.withCreditorLeg now pid).shares = s.shares - p.share
      + (creditedPayment now p creditor acct.glAccount).share := by
    rw [withCreditorLeg_eq hc.stored hc.creditor_exists]
    exact shares_setPayment hp _
  have hold : p.share = credit (.bank p.debtor.participant .suspense) p.amount
      - credit p.debtor.place p.amount := by
    rw [Payment.share, hc.cleared]
  have hnew : (creditedPayment now p creditor acct.glAccount).share
      = credit p.creditor.place p.amount - credit p.debtor.place p.amount
        + (reserves p.creditor.participant p.amount
          - reserves p.debtor.participant p.amount) := rfl
  rw [surplus, holdings_withCreditorLeg h hc, hshares, hold, hnew, surplus,
    Payment.netting, interbank, interbank]
  abel

/-- The creditor legs of a cycle use up its positions. -/
theorem surplus_creditors (h : s.Banks) {ids : List PaymentID}
    (hlegs : Along (Network.withCreditorLeg now) CreditorPaid s ids) :
    (run (Network.withCreditorLeg now) s ids).surplus
      = s.surplus - nettingOf s.payments ids := by
  induction ids generalizing s with
  | nil => exact (sub_zero _).symm
  | cons pid ids ih =>
    obtain ⟨⟨hcore, p, creditor, acct, hc⟩, hlegs'⟩ := hlegs
    have hrelabel : Relabels s.payments (s.withCreditorLeg now pid).payments := by
      have hterms : p.SameTerms (creditedPayment now p creditor acct.glAccount) := rfl
      rw [withCreditorLeg_eq hc.stored hc.creditor_exists]
      exact .insert hc.stored hterms
    rw [run, ih (hcore.withCreditorLeg hc).banks hlegs', surplus_withCreditorLeg h hc,
      nettingOf_relabel hrelabel, nettingOf_cons, hc.stored, Option.map_some,
      Option.getD_some, sub_sub]

end Settlement

/-! ## Calls -/

omit [AddCommGroup Amount] in
/-- The operation turns a hold into a posting. -/
def Op.captures : Op Amount → Bool
  | .register _ (.captureHold ..) => true
  | _ => false

omit [AddCommGroup Amount] in
/-- The operation makes postings that may be refused after others were made. -/
def Op.mayStop : Op Amount → Bool
  | .settleCycle .. => true
  | .returnPayment .. => true
  | _ => false

instance (failure : Option Err) : Decidable (∀ e, failure ≠ some (.ledger e)) :=
  decidable_of_iff (∀ e ∈ failure, e.ofLedger = none) <| by
    cases failure with
    | none => simp
    | some e => cases e <;> simp [Err.ofLedger]

/-- The step captures no hold, and if it settles a cycle or returns a payment,
no posting of it is refused. -/
def Undisturbed [LinearOrder Amount] (s : Network Amount) (step : Clock × Op Amount) :
    Prop :=
  step.2.captures = false ∧ (step.2.mayStop →
    ∀ e, Call.failure (call step.1.now step.2 s) ≠ some (.ledger e))

instance [LinearOrder Amount] (s : Network Amount) (step : Clock × Op Amount) :
    Decidable (s.Undisturbed step) :=
  inferInstanceAs (Decidable (_ ∧ _))

/-- The deposit that a call makes, by how it ends. -/
def Op.receipt : Op Amount → Option Err → List (Receipt Amount)
  | .deposit i account amount _, none => [⟨i, account, amount⟩]
  | _, _ => []

/-- The deposits made in a run. -/
def receipts [LinearOrder Amount] (s : Network Amount) :
    List (Clock × Op Amount) → List (Receipt Amount)
  | [] => []
  | step :: steps =>
    step.2.receipt (Call.failure (call step.1.now step.2 s))
      ++ receipts (exec step s) steps

section Calls

variable [LinearOrder Amount] {s s' : Network Amount} {now : Time}

omit [LinearOrder Amount] in
/-- Marking accepted payments as cleared does not change their shares. -/
theorem shares_markCleared {ids : List PaymentID}
    {payments : GoMap PaymentID (Payment Amount)}
    (h : ∀ pid ∈ ids, ∃ p, payments.lookup pid = some p ∧ p.status = .accepted) :
    ((run markCleared payments ids).sum fun _ p => p.share)
      = payments.sum fun _ p => p.share := by
  refine Finmap.sum_eq_of_lookup fun k => ?_
  rw [lookup_markCleared]
  cases hp : payments.lookup k with
  | none => rfl
  | some p =>
    rw [Option.map_some, Option.map_some, Option.map_some]
    split
    · next hk =>
      obtain ⟨q, hq, hst⟩ := h k hk
      cases hp.symm.trans hq
      rw [Payment.share, Payment.share, hst]
    · rfl

/-- A settlement that goes through moves what its payments are to move. -/
theorem surplus_settled (h : s.WF) {id : CycleID} {c : ClearingCycle Amount}
    {order₁ order₂ : MapOrder ParticipantID Amount} (hc : s.cycles.lookup id = some c)
    (hclosed : c.status = .closed) {tx : Option Ledger.TransactionID}
    {t : Network Amount} (hpositions : PositionsSettled now order₁ order₂ c s (.ok tx t))
    (ht : t.Core) (hlegs : Along (withCreditorLeg now) CreditorPaid t c.paymentIDs) :
    (run (withCreditorLeg now) t c.paymentIDs).surplus = s.surplus := by
  have hkeys : ∀ i v, c.netPositions.lookup i = some v → i ∈ s.participants :=
    fun i _ hv => h.positions.keys id c hc i (Finmap.mem_of_lookup_eq_some hv)
  have hnetting : c.netPositions.sum interbank = nettingOf s.payments c.paymentIDs :=
    sum_interbank (h.positions.netting id c hc (by simp [hclosed]))
  have hpayments : t.payments = s.payments := by
    obtain ⟨banks, cb, rfl⟩ := hpositions.frame
    rfl
  rw [surplus_creditors ht.banks hlegs, surplus_settlePositions h.banks hkeys hpositions,
    hnetting, hpayments, add_sub_cancel_right]

/-- Unless a posting is refused, a settlement keeps the surplus. -/
theorem SettleOutcome.surplus {order₁ order₂ : MapOrder ParticipantID Amount}
    {id : CycleID} {r : EStateM.Result Err (Network Amount) (Settlement Amount)}
    (ho : SettleOutcome now order₁ order₂ id s r) (h : s.WF)
    (hposted : ∀ e, Call.failure r ≠ some (.ledger e)) :
    (Call.state r).surplus = s.surplus := by
  cases ho with
  | notClosed => rfl
  | refused => rfl
  | stuck c hc hclosed req hreq hacc pre post d hlist hmirrors b hbank hnet hrefused e =>
    exact absurd rfl (hposted e)
  | settled c hc hclosed tx t u hpositions ht hlegs hu =>
    subst hu
    exact surplus_settled h hc hclosed hpositions ht hlegs

theorem surplus_withBank (h : s.WF) {acct : Ledger.Account} {p : Participant Amount}
    (hnew : s.NewBank acct p) : (s.withBank now acct p).surplus = s.surplus := by
  rw [surplus, holdings_withBank h.banks hnew]
  rfl

/-- Only a capture posts in the deposit layer. -/
theorem surplus_withDeposit (h : s.WF) {i : ParticipantID} {b : Participant Amount}
    {rop : Register.Op Amount} {r : Register Amount}
    (hb : s.participants.lookup i = some b) (hc : Register.Change now b.deposit rop r)
    (hop : ∀ id counterparty amount description,
      rop ≠ .captureHold id counterparty amount description) :
    (s.setParticipant i (b.withDeposit r)).surplus = s.surplus := by
  have hgrows := hc.grows (h.banks.bank i b hb).deposit
  rw [surplus, holdings_withDeposit h.banks hb hgrows (hc.transactions_eq hop)]
  rfl

/-- A deposit credits the customer, out of the reserve. -/
theorem holdings_deposit (h : s.Banks) {i : ParticipantID} {account : Deposit.AccountID}
    {b : Participant Amount} {a : Deposit.Account Amount}
    (hb : s.participants.lookup i = some b)
    (ha : b.deposit.accounts.lookup account = some a) (amount : Amount)
    (description : String) :
    (s.posted now i b (depositRequest b a.glAccount amount description)).holdings
      = s.holdings
        + (credit (.bank i (.customer account)) amount - credit (.bank i .reserve) amount) :=
  have haccount : b.accountOf (.customer account) = some a.glAccount :=
    Participant.accountOf_customer ha
  holdings_posted h hb .reserve _ rfl haccount rfl

/-- A deposit is the only change of the surplus. -/
theorem surplus_deposit (h : s.WF) {i : ParticipantID} {account : Deposit.AccountID}
    {amount : Amount} {description : String} {b : Participant Amount}
    {a : Deposit.Account Amount} (hb : s.participants.lookup i = some b)
    (ha : b.deposit.accounts.lookup account = some a)
    (hacc : b.ledger.Accepts (depositRequest b a.glAccount amount description)) :
    ((s.posted now i b (depositRequest b a.glAccount amount description)).cbPosted now
      (s.reserveCreditRequest b amount)).surplus
        = s.surplus + Receipt.share ⟨i, account, amount⟩ := by
  let s₁ := s.posted now i b (depositRequest b a.glAccount amount description)
  have hbanks₁ : s₁.Banks := h.banks.posted hb hacc (Ledger.declared_transfer _ _ _)
  have hb₁ : s₁.participants.lookup i = some (b.withLedger _) := Finmap.lookup_insert _
  have hissue : s₁.cbEffect (s.reserveCreditRequest b amount).entries
      = credit (.centralBank i) amount := cbEffect_issue hbanks₁ hb₁ amount
  rw [surplus, holdings_cbPosted hbanks₁, hissue,
    holdings_deposit h.banks hb ha amount description, surplus, Receipt.share, reserves]
  show _ - s.shares = _
  abel

/-- Closing a cycle moves nothing. -/
theorem surplus_withClosed (h : s.WF) {id : CycleID} {c : ClearingCycle Amount}
    (hc : s.cycles.lookup id = some c) (hopen : c.status = .open) :
    (s.withClosed now id c).surplus = s.surplus := by
  have hshares : (s.withClosed now id c).shares = s.shares :=
    shares_markCleared (h.open_accepted id c hc hopen).2
  rw [surplus, hshares]
  rfl

/-- Initiating a payment moves the amount into the suspense. -/
theorem holdings_withPayment (h : s.Banks) {req : InitiatePaymentRequest Amount}
    {scheme : Scheme} {cycleID : CycleID} {cycle : ClearingCycle Amount}
    {debtor : Participant Amount} {acct : Deposit.Account Amount}
    (hi : s.Initiates now req scheme cycleID cycle debtor acct) :
    (s.withPayment now req scheme cycleID cycle debtor acct.glAccount).holdings = s.holdings
      + (credit (.bank req.debtor.participant .suspense) req.amount
        - credit req.debtor.place req.amount) :=
  have haccount : debtor.accountOf (.customer req.debtor.account) = some acct.glAccount :=
    Participant.accountOf_customer hi.debtor_exists.account
  holdings_posted h hi.debtor_exists.bank _ .suspense haccount rfl rfl

/-- An accepted payment has moved the amount into the suspense. -/
theorem surplus_withPayment (h : s.WF) {req : InitiatePaymentRequest Amount}
    {scheme : Scheme} {cycleID : CycleID} {cycle : ClearingCycle Amount}
    {debtor : Participant Amount} {acct : Deposit.Account Amount}
    (hi : s.Initiates now req scheme cycleID cycle debtor acct) :
    (s.withPayment now req scheme cycleID cycle debtor acct.glAccount).surplus
      = s.surplus := by
  let p := s.acceptedPayment now req scheme cycleID debtor acct.glAccount
  let s' := s.withPayment now req scheme cycleID cycle debtor acct.glAccount
  have hshares : s'.shares = p.share + s.shares :=
    Finmap.sum_insert p h.records.fresh_payment _
  have hshare : p.share = credit (.bank req.debtor.participant .suspense) req.amount
      - credit req.debtor.place req.amount := rfl
  show s'.surplus = _
  rw [surplus, holdings_withPayment h.banks hi, hshares, hshare, surplus]
  abel

/-- Rejecting a payment moves it back. -/
theorem holdings_withRejected (h : s.WF) {id : PaymentID} {p : Payment Amount}
    {debtor : Participant Amount} {txID : Ledger.TransactionID}
    {original : Transaction Amount} (hp : s.payments.lookup id = some p)
    (hst : p.status = .accepted) (hleg : p.debtorLegTx = some txID)
    (hb : s.participants.lookup p.debtor.participant = some debtor)
    (hstored : debtor.ledger.transactions.lookup txID = some original) (reason : String) :
    (s.withRejected now id p reason debtor txID original).holdings = s.holdings
      - (credit (.bank p.debtor.participant .suspense) p.amount
        - credit p.debtor.place p.amount) := by
  obtain ⟨c, hc, -⟩ := h.open_of_accepted hp hst
  obtain ⟨a, hparty, hmoves⟩ := h.legs.debtor_moved h.banks hp hleg hb hstored
  have haccount : debtor.accountOf (.customer p.debtor.account) = some a.glAccount :=
    Participant.accountOf_customer hparty.account
  rw [withRejected_eq hc]
  exact holdings_reversed h.banks hb _ .suspense haccount rfl hmoves hstored
    ("Reject payment " ++ p.id.val ++ ": " ++ reason)

/-- Rejecting a payment takes back what it has moved. -/
theorem surplus_withRejected (h : s.WF) {id : PaymentID} {p : Payment Amount}
    {reason : String} {debtor : Participant Amount} {txID : Ledger.TransactionID}
    {original : Transaction Amount} (hp : s.payments.lookup id = some p)
    (hst : p.status = .accepted) (hleg : p.debtorLegTx = some txID)
    (hb : s.participants.lookup p.debtor.participant = some debtor)
    (hstored : debtor.ledger.transactions.lookup txID = some original) :
    (s.withRejected now id p reason debtor txID original).surplus = s.surplus := by
  obtain ⟨c, hc, -⟩ := h.open_of_accepted hp hst
  have hshares : (s.withRejected now id p reason debtor txID original).shares
      = s.shares - p.share
        + Payment.share { p with status := .rejected, rejectReason := reason } := by
    rw [withRejected_eq hc]
    exact shares_setPayment (s := s) hp _
  have hold : p.share = credit (.bank p.debtor.participant .suspense) p.amount
      - credit p.debtor.place p.amount := by
    rw [Payment.share, hst]
  have hnew : Payment.share { p with status := .rejected, rejectReason := reason } = 0 :=
    rfl
  rw [surplus, holdings_withRejected h hp hst hleg hb hstored reason, hshares, hold, hnew,
    surplus]
  abel

/-- A return takes back what the payment has moved. -/
theorem surplus_withReturned (h : s.WF) {id : PaymentID} {p : Payment Amount}
    {reason : String} {debtor creditor : Participant Amount}
    {da ca : Deposit.Account Amount} (hf : s.Refundable id p reason debtor da)
    (hparty : (s.withRefund now p reason debtor da.glAccount).Party p.creditor
      creditor ca)
    (hacc : creditor.ledger.Accepts (returnCreditRequest p reason creditor ca.glAccount)) :
    (s.withReturned now id p reason debtor creditor da.glAccount ca.glAccount).surplus
      = s.surplus := by
  let s₁ := s.withRefund now p reason debtor da.glAccount
  let s₂ := s₁.posted now p.creditor.participant creditor
    (returnCreditRequest p reason creditor ca.glAccount)
  let s₃ := s₂.cbPosted now (returnSettleRequest p debtor creditor)
  have hbanks₁ : s₁.Banks := h.banks.posted hf.debtor_exists.bank hf.accepts
    (Ledger.declared_transfer _ _ _)
  have hbanks₂ : s₂.Banks := hbanks₁.posted hparty.bank hacc (Ledger.declared_transfer _ _ _)
  have hdebtor : debtor.accountOf (.customer p.debtor.account) = some da.glAccount :=
    Participant.accountOf_customer hf.debtor_exists.account
  have hcreditor : creditor.accountOf (.customer p.creditor.account)
      = some ca.glAccount := Participant.accountOf_customer hparty.account
  have hrefund : s₁.holdings = s.holdings + (credit p.debtor.place p.amount
      - credit (.bank p.debtor.participant .reserve) p.amount) :=
    holdings_posted h.banks hf.debtor_exists.bank .reserve _ rfl hdebtor rfl
  have hclaw : s₂.holdings = s₁.holdings
      + (credit (.bank p.creditor.participant .reserve) p.amount
        - credit p.creditor.place p.amount) :=
    holdings_posted hbanks₁ hparty.bank _ .reserve hcreditor rfl rfl
  -- the debtor's bank after both postings, which may be the creditor's
  have hgrows : s.Grows s₂ :=
    Grows.trans (.posted hf.debtor_exists.bank now _) (.posted hparty.bank now _)
  obtain ⟨d, hd, hgrow⟩ := hgrows _ debtor hf.debtor_exists.bank
  have hc₂ : s₂.participants.lookup p.creditor.participant
      = some (creditor.withLedger _) := Finmap.lookup_insert _
  have hsettle : s₂.cbEffect (returnSettleRequest p debtor creditor).entries
      = credit (.centralBank p.debtor.participant) p.amount
        - credit (.centralBank p.creditor.participant) p.amount := by
    rw [returnSettleRequest, ← hgrow.settlement]
    exact cbEffect_transfer hbanks₂ hc₂ hd p.amount
  have hp : s₃.payments.lookup id = some p := hf.stored
  have hshares := shares_setPayment hp { p with status := .returned, rejectReason := reason }
  have hold : p.share = credit p.creditor.place p.amount - credit p.debtor.place p.amount
      + (reserves p.creditor.participant p.amount
        - reserves p.debtor.participant p.amount) := by
    rw [Payment.share, hf.settled]
  have hnew : Payment.share { p with status := .returned, rejectReason := reason } = 0 :=
    rfl
  show s₃.holdings - (s₃.setPayment id _).shares = _
  rw [holdings_cbPosted hbanks₂, hsettle, hclaw, hrefund, hshares, hold, hnew, surplus,
    show s₃.shares = s.shares from rfl, reserves, reserves]
  abel

/-- A call in which no posting of a settlement or a return is refused changes
the surplus by the deposit it makes. -/
theorem Change.surplus {step : Clock × Op Amount}
    (hc : Changes step.1.now s step.2) (h : s.WF) (hstep : s.Undisturbed step) :
    (exec step s).surplus = s.surplus + ((step.2.receipt
      (Call.failure (call step.1.now step.2 s))).map Receipt.share).sum := by
  obtain ⟨clock, op⟩ := step
  rw [Undisturbed] at hstep
  show Network.surplus (Call.state (call clock.now op s)) = _
  dsimp only at hc hstep ⊢
  rw [Changes] at hc
  generalize Call.failure (call clock.now op s) = failure at hc hstep ⊢
  generalize Call.state (call clock.now op s) = s' at hc ⊢
  cases hc with
  | refused _ e => cases op <;> exact (add_zero _).symm
  | scheme sc => exact (add_zero _).symm
  | bank name acct p hnew =>
    exact (surplus_withBank h hnew).trans (add_zero _).symm
  | register i b rop r hop hb hc =>
    have hno : ∀ id counterparty amount description,
        rop ≠ .captureHold id counterparty amount description := by
      rintro id counterparty amount description rfl
      cases hop
      exact absurd hstep.1 (by simp [Op.captures])
    have hsurplus := surplus_withDeposit h hb hc hno
    cases hop <;> exact hsurplus.trans (add_zero _).symm
  | deposit i account amount description b a hpos hb ha hacc hcb =>
    rw [surplus_deposit h hb ha hacc]
    simp [Op.receipt]
  | mandated => exact (add_zero _).symm
  | revoked => exact (add_zero _).symm
  | opened => exact (add_zero _).symm
  | closed id c hcyc hopen =>
    exact (surplus_withClosed h hcyc hopen).trans (add_zero _).symm
  | settle order₁ order₂ id r ho =>
    exact (ho.surplus h (hstep.2 rfl)).trans (add_zero _).symm
  | idDrawn => exact (add_zero _).symm
  | initiated req scheme cycleID cycle debtor acct hi =>
    exact (surplus_withPayment h hi).trans (add_zero _).symm
  | rejected id reason p debtor txID original hp hst hleg hb hstored hposted =>
    exact (surplus_withRejected h hp hst hleg hb hstored).trans (add_zero _).symm
  | refunded id reason p debtor da hf e => exact absurd rfl (hstep.2 rfl e)
  | returned id reason p debtor creditor da ca hf hparty hacc hcb =>
    exact (surplus_withReturned h hf hparty hacc).trans (add_zero _).symm

/-- The surplus after a run is what was deposited in it. -/
theorem surplus_run (h : s.WF) {steps : List (Clock × Op Amount)}
    (hsteps : Along exec Undisturbed s steps) :
    (run exec s steps).surplus
      = s.surplus + ((receipts s steps).map Receipt.share).sum := by
  induction steps generalizing s with
  | nil => exact (add_zero _).symm
  | cons step steps ih =>
    have hstep := Change.surplus (h.call_change step.1.now step.2) h hsteps.1
    rw [run, ih (exec_wf step s h) hsteps.2, hstep, receipts, List.map_append,
      List.sum_append, add_assoc]

end Calls

end Network

end CoreBanking.Payment
