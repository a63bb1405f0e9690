import CoreBanking.Payment.Balances
import CoreBanking.Payment.Lifecycle
import Mathlib.Algebra.Order.Group.Int

/-!
# A closed cycle can be settled

The code never compares a net position with the reserve that has to cover it.
While no customer account may go below zero and no payment is returned, it need
not (`Covered`):

- the suspense of a bank holds what its customers have pending, so it covers the
  net position of the bank in every closed cycle (`neg_netOf_le`);
- what a bank owes its customers and its suspense is all on reserve, by the
  trial balance of its ledger (`Participant.WF.suspense_le_reserve`);
- so no posting of a settlement is refused (`Covered.settleCycle_ok`).

Every call that `Op.prudent` admits keeps a network covered (`exec_covered`).
-/

namespace CoreBanking.Payment

set_option linter.dupNamespace false

open Ledger (Book PostTransactionRequest Transaction)
open Deposit (Register)

variable {Amount : Type} [AddCommGroup Amount]

/-! ## Overdraft limits -/

namespace Network

/-- No deposit account of the network has an overdraft limit. -/
def NoLimits (s : Network Amount) : Prop :=
  ∀ i b, s.participants.lookup i = some b →
    ∀ id a, b.deposit.accounts.lookup id = some a → a.overdraftLimit = 0

namespace NoLimits

variable {s : Network Amount} {i : ParticipantID} {b : Participant Amount}
  {now : Time}

theorem setParticipant (h : s.NoLimits)
    (hb : ∀ id a, b.deposit.accounts.lookup id = some a → a.overdraftLimit = 0) :
    (s.setParticipant i b).NoLimits := by
  intro j c hc
  rw [setParticipant_lookup] at hc
  split at hc
  · cases hc
    exact hb
  · exact h j c hc

/-- Postings open no deposit account. -/
theorem posted (h : s.NoLimits) (hb : s.participants.lookup i = some b)
    (req : PostTransactionRequest Amount) : (s.posted now i b req).NoLimits :=
  h.setParticipant (h i b hb)

theorem settled [LinearOrder Amount] (h : s.NoLimits) {c : ClearingCycle Amount}
    {order₁ order₂ : MapOrder ParticipantID Amount} {tx : Option Ledger.TransactionID}
    {t : Network Amount} (hp : PositionsSettled now order₁ order₂ c s (.ok tx t))
    (hlegs : Along (withCreditorLeg now) CreditorPaid t c.paymentIDs) :
    (run (withCreditorLeg now) t c.paymentIDs).NoLimits := by
  have ht : t.NoLimits := by
    cases hp with
    | nothing => exact h
    | settled req hreq hacc hmirrors =>
      have hcb : (s.cbPosted now req).NoLimits := h
      refine hmirrors.invariant (fun d u hu hmirror => ?_) hcb
      rcases withMirror_cases now hmirror with ⟨-, heq⟩ | ⟨b, -, hb, -, heq⟩
      · rw [heq]
        exact hu
      · rw [heq]
        exact hu.posted hb _
  refine hlegs.invariant (fun pid u hu hpaid => ?_) ht
  obtain ⟨-, p, creditor, acct, hc⟩ := hpaid
  rw [withCreditorLeg_eq hc.stored hc.creditor_exists]
  exact hu.posted hc.creditor_exists.bank _

end NoLimits

end Network

variable [LinearOrder Amount] [IsOrderedAddMonoid Amount]

/-! ## One bank -/

/-- A bank that no customer owes anything to has its suspense on reserve. -/
theorem Participant.WF.suspense_le_reserve {b : Participant Amount} (h : b.WF)
    (hcustomers : ∀ id, 0 ≤ b.balanceOf (.customer id)) :
    b.balanceOf .suspense ≤ b.balanceOf .reserve := by
  obtain ⟨reserve, hreserve, hreserveType⟩ := h.reserve
  obtain ⟨suspense, hsuspense, hsuspenseType⟩ := h.suspense
  -- the reserve is the only asset of a bank
  have hassets : b.ledger.totalBalance [.asset, .expense]
      = b.ledger.balance b.reserveAccount := by
    rw [Book.totalBalance, Finmap.sum_eq_single hreserve,
      if_pos (by simp [hreserveType])]
    intro a acct ha hne
    rcases h.types a acct ha with htype | ⟨-, heq⟩
    · exact if_neg (by simp [htype])
    · exact absurd heq hne
  have hsingle : b.ledger.balance b.suspenseAccount = b.ledger.accounts.sum fun a _ =>
      if a = b.suspenseAccount then b.ledger.balance a else 0 := by
    rw [Finmap.sum_eq_single hsuspense, if_pos rfl]
    exact fun a _ _ hne => if_neg hne
  -- and the suspense one of its liabilities, none of which is negative
  have hliabilities : b.ledger.balance b.suspenseAccount
      ≤ b.ledger.totalBalance [.liability, .equity, .revenue] := by
    rw [hsingle, Book.totalBalance]
    refine Finmap.sum_le_sum fun a acct ha => ?_
    obtain ⟨role, hrole⟩ := h.roles a (Finmap.mem_of_lookup_eq_some ha)
    cases role with
    | suspense =>
      cases hrole
      cases ha.symm.trans hsuspense
      rw [if_pos rfl, if_pos (by simp [hsuspenseType])]
    | reserve =>
      cases hrole
      cases ha.symm.trans hreserve
      rw [if_neg h.chart.suspense_ne_reserve.symm, if_neg (by simp [hreserveType])]
    | customer id =>
      have hbalance := hcustomers id
      rw [balanceOf_of_account hrole] at hbalance
      obtain ⟨d, hd, rfl⟩ := Option.map_eq_some_iff.mp hrole
      obtain ⟨g, hg, htype⟩ := h.deposit.gl id d hd
      cases ha.symm.trans hg
      rwa [if_neg (h.gl_ne_suspense id d hd), if_pos (by simp [htype])]
  -- the books balance
  rw [← h.ledger.trialBalance h.declared, hassets] at hliabilities
  exact hliabilities

/-! ## Net positions -/

/-- What a bank has to pay on balance is at most what it has to pay. -/
theorem Payment.neg_netFor_le {p : Payment Amount} (hpos : 0 ≤ p.amount)
    (i : ParticipantID) :
    -p.netFor i ≤ if p.debtor.participant = i then p.amount else 0 := by
  rw [netFor, neg_sub, sub_le_self_iff]
  split
  · exact hpos
  · exact le_rfl

namespace Network

/-- What a bank has to pay on balance for some pending payments is at most what
its customers have pending. -/
theorem neg_netOf_le {s : Network Amount}
    (hpos : ∀ k p, s.payments.lookup k = some p → 0 < p.amount) {ids : List PaymentID}
    (hnodup : ids.Nodup)
    (hids : ∀ pid ∈ ids, ∃ p, s.payments.lookup pid = some p ∧ p.status = .cleared)
    (i : ParticipantID) :
    -netOf s.payments ids i ≤ s.paymentsFromBank i [.accepted, .cleared] := by
  let pending (_ : PaymentID) (p : Payment Amount) : Amount :=
    if p.debtor.participant = i ∧ p.status ∈ [PaymentStatus.accepted, .cleared]
    then p.amount else 0
  have hmem : ∀ pid ∈ ids, pid ∈ s.payments := by
    intro pid hpid
    obtain ⟨p, hp, -⟩ := hids pid hpid
    exact Finmap.mem_of_lookup_eq_some hp
  have hnonneg : ∀ k p, s.payments.lookup k = some p → 0 ≤ pending k p := by
    intro k p hp
    dsimp only [pending]
    split
    · exact (hpos k p hp).le
    · exact le_rfl
  refine le_trans ?_ (Finmap.sum_list_le_sum s.payments pending hnodup hmem hnonneg)
  rw [neg_le_iff_add_nonneg', netOf, ← List.sum_map_add]
  refine List.sum_nonneg fun x hx => ?_
  obtain ⟨pid, hpid, rfl⟩ := List.mem_map.mp hx
  obtain ⟨p, hp, hst⟩ := hids pid hpid
  have hle := p.neg_netFor_le (hpos pid p hp).le i
  rw [neg_le_iff_add_nonneg'] at hle
  rw [hp]
  show 0 ≤ p.netFor i + pending pid p
  simpa [pending, hst] using hle

/-! ## The invariant -/

/-- No account may be overdrawn or is, the suspense of each bank holds what its
customers have pending, and the central bank has settled no cycle that is not
recorded as settled. -/
structure Covered (s : Network Amount) : Prop where
  limits : s.NoLimits
  customers : ∀ i id, 0 ≤ s.holdings (.bank i (.customer id))
  suspense : ∀ i, s.surplus (.bank i .suspense) = 0
  unsettled : ∀ id c, s.cycles.lookup id = some c → c.status ≠ .settled →
    s.cbKeyed id.settleKey = none

namespace Covered

variable {s : Network Amount} {id : CycleID} {c : ClearingCycle Amount}

/-- The reserve of a net payer covers its position. -/
theorem reserve (hcov : s.Covered) (h : s.WF) (hc : s.cycles.lookup id = some c)
    (hclosed : c.status = .closed) {i : ParticipantID} {net : Amount}
    (hnet : c.netPositions.lookup i = some net) {b : Participant Amount}
    (hb : s.participants.lookup i = some b) :
    -net ≤ b.ledger.balance b.reserveAccount := by
  have hcleared : ∀ pid ∈ c.paymentIDs,
      ∃ p, s.payments.lookup pid = some p ∧ p.status = .cleared := by
    intro pid hpid
    obtain ⟨p, hp, hfits⟩ := h.members_fit hc hpid
    rw [hclosed] at hfits
    exact ⟨p, hp, hfits⟩
  have hposition : net = netOf s.payments c.paymentIDs i := by
    rw [← h.positions.netting id c hc (by simp [hclosed]), position, hnet]
    rfl
  -- the suspense is exactly what the customers have pending
  have hsuspense : s.shares (.bank i .suspense) = s.holdings (.bank i .suspense) :=
    (sub_eq_zero.mp (hcov.suspense i)).symm
  have hcustomers : ∀ id, 0 ≤ b.balanceOf (.customer id) := by
    intro id
    rw [← holdings_bank hb]
    exact hcov.customers i id
  calc -net = -netOf s.payments c.paymentIDs i := by rw [hposition]
    _ ≤ s.paymentsFromBank i [.accepted, .cleared] :=
      neg_netOf_le h.records.positive (h.cycles.nodup id c hc) hcleared i
    _ = b.balanceOf .suspense := by
      rw [← shares_suspense, hsuspense, holdings_bank hb]
    _ ≤ b.balanceOf .reserve := (h.banks.bank i b hb).suspense_le_reserve hcustomers
    _ = b.ledger.balance b.reserveAccount := Participant.balanceOf_of_account rfl

/-- The mirror of a position is accepted. -/
theorem mirrorAccepted (hcov : s.Covered) (h : s.WF)
    (hc : s.cycles.lookup id = some c) (hclosed : c.status = .closed)
    {i : ParticipantID} {net : Amount} (hnet : c.netPositions.lookup i = some net)
    (hne : net ≠ 0) {b : Participant Amount} (hb : s.participants.lookup i = some b) :
    b.ledger.Accepts (mirrorRequest c i b net) := by
  have hid := h.records.cycle_id id c hc
  have hunsettled : s.cbKeyed c.id.settleKey = none :=
    hid ▸ hcov.unsettled id c hc (by simp [hclosed])
  rw [mirror_accepts (h.banks.bank i b hb) hne (h.toCore.mirror_unused hc hunsettled hb)]
  exact .inr (hcov.reserve h hc hclosed hnet hb)

/-- The central bank does not refuse. -/
theorem not_refused (hcov : s.Covered) (h : s.WF) (hc : s.cycles.lookup id = some c)
    (hclosed : c.status = .closed) {now : Time}
    {order : MapOrder ParticipantID Amount} {e : Ledger.Err} :
    ¬SettlementRefused now order c s e := by
  intro hr
  obtain ⟨-, hused⟩ := hr.duplicate h.toCore hc
  exact hused (hcov.unsettled id c hc (by simp [hclosed]))

/-- So a settlement of a closed cycle goes through. -/
theorem outcome (hcov : s.Covered) (h : s.WF) {now : Time}
    {order₁ order₂ : MapOrder ParticipantID Amount}
    {r : EStateM.Result Err (Network Amount) (Settlement Amount)}
    (ho : SettleOutcome now order₁ order₂ id s r) :
    (∃ e, r = .error e s ∧ e.ofLedger = none ∧
      ∀ c, s.cycles.lookup id = some c → c.status ≠ .closed) ∨
    ∃ c tx t, s.cycles.lookup id = some c ∧ c.status = .closed ∧
      PositionsSettled now order₁ order₂ c s (.ok tx t) ∧ t.Core ∧
      Along (withCreditorLeg now) CreditorPaid t c.paymentIDs ∧
      r = .ok ((run (withCreditorLeg now) t c.paymentIDs).newSettlement now c tx)
        ((run (withCreditorLeg now) t c.paymentIDs).withSettlement id c
          ((run (withCreditorLeg now) t c.paymentIDs).newSettlement now c tx)) := by
  cases ho with
  | notClosed e he hno => exact .inl ⟨e, rfl, he, hno⟩
  | refused c hc hclosed e hr => exact absurd hr (hcov.not_refused h hc hclosed)
  | stuck c hc hclosed req hreq hacc pre post d hlist hmirrors b hb hne hrefused =>
    have hmem : d ∈ order₂.toList c.netPositions := by
      rw [hlist]
      exact List.mem_append_right _ List.mem_cons_self
    have hnet := order₂.mem_toList.mp hmem
    exact absurd (hcov.mirrorAccepted h hc hclosed hnet hne hb) hrefused
  | settled c hc hclosed tx t u hpositions ht hlegs hu =>
    subst hu
    exact .inr ⟨c, tx, t, hc, hclosed, hpositions, ht, hlegs, rfl⟩

end Covered

/-! ## Which calls keep it -/

omit [AddCommGroup Amount] [LinearOrder Amount] [IsOrderedAddMonoid Amount] in
/-- The operation neither returns a payment nor captures a hold, and opens a
deposit account only as `OpenCustomerAccount` does, without an overdraft. -/
def Op.prudent : Op Amount → Bool
  | .register _ (.openAccount ..) => false
  | .register _ (.captureHold ..) => false
  | .returnPayment .. => false
  | _ => true

section Steps

variable {s s' : Network Amount} {now : Time}

/-- In a covered network no posting of a prudent call is refused after others
were made. -/
theorem Covered.undisturbed (hcov : s.Covered) (h : s.WF) {step : Clock × Op Amount}
    (hstep : step.2.prudent) : s.Undisturbed step := by
  obtain ⟨clock, op⟩ := step
  constructor
  · cases op with
    | register i rop => cases rop <;> first | rfl | cases hstep
    | _ => rfl
  · intro hstop e hfailure
    cases op with
    | settleCycle order₁ order₂ id =>
      rw [call, Call.failure_discard] at hfailure
      rcases hcov.outcome h (h.settleCycle_outcome clock.now order₁ order₂ id) with
        ⟨e', he', hledger, -⟩ | ⟨c, tx, t, -, -, -, -, -, hok⟩
      · rw [he'] at hfailure
        cases hfailure
        cases hledger
      · rw [hok] at hfailure
        cases hfailure
    | returnPayment => cases hstep
    | _ => cases hstop

/-- A prudent call opens no account with an overdraft. -/
theorem Change.limits {op : Op Amount} {failure : Option Err}
    (hc : Change now s op failure s') (h : s.WF) (hcov : s.Covered)
    (hop : op.prudent) : s'.NoLimits := by
  have hlimits := hcov.limits
  cases hc with
  | refused => exact hlimits
  | scheme => exact hlimits
  | bank name acct p hnew =>
    refine hlimits.setParticipant (b := p) fun id a ha => ?_
    rw [hnew.accounts] at ha
    cases ha
  | register i b rop r honreg hb hc =>
    refine hlimits.setParticipant (hc.overdraftLimit ?_ (hlimits i b hb))
    rintro subledger name limit rfl
    cases honreg with
    | register => cases hop
    | customer => rfl
  | deposit i account amount description b a hpos hb =>
    exact hlimits.posted hb _
  | mandated => exact hlimits
  | revoked => exact hlimits
  | opened => exact hlimits
  | closed => exact hlimits
  | settle order₁ order₂ id r ho =>
    rcases hcov.outcome h ho with ⟨e, rfl, -, -⟩ | ⟨c, tx, t, -, -, hp, -, hlegs, rfl⟩
    · exact hlimits
    · exact hlimits.settled hp hlegs
  | idDrawn => exact hlimits
  | initiated req scheme cycleID cycle debtor acct hi =>
    exact hlimits.posted hi.debtor_exists.bank _
  | rejected id reason p debtor txID original hp hst hleg hb hstored =>
    obtain ⟨c, hcyc, -⟩ := h.open_of_accepted hp hst
    rw [withRejected_eq hcyc]
    exact hlimits.setParticipant (hlimits _ debtor hb)
  | refunded => cases hop
  | returned => cases hop

/-! ### Customers -/

omit [IsOrderedAddMonoid Amount] in
theorem credit_customer_nonneg {amount : Amount} (h : 0 ≤ amount) (i j : ParticipantID)
    (id account : Deposit.AccountID) :
    0 ≤ credit (.bank i (.customer id)) amount (.bank j (.customer account)) := by
  rw [credit_bank]
  split
  · exact h
  · exact le_rfl

/-- No customer loses by a settlement. -/
theorem settled_customers (h : s.WF) {id : CycleID} {c : ClearingCycle Amount}
    {order₁ order₂ : MapOrder ParticipantID Amount} (hc : s.cycles.lookup id = some c)
    {tx : Option Ledger.TransactionID} {t : Network Amount}
    (hp : PositionsSettled now order₁ order₂ c s (.ok tx t))
    (hlegs : Along (withCreditorLeg now) CreditorPaid t c.paymentIDs)
    (i : ParticipantID) (id : Deposit.AccountID) :
    s.holdings (.bank i (.customer id))
      ≤ (run (withCreditorLeg now) t c.paymentIDs).holdings (.bank i (.customer id)) := by
  have hkeys : ∀ i v, c.netPositions.lookup i = some v → i ∈ s.participants :=
    fun i _ hv => h.positions.keys _ c hc i (Finmap.mem_of_lookup_eq_some hv)
  -- the positions are settled between the banks
  have ht : t.holdings (.bank i (.customer id)) = s.holdings (.bank i (.customer id)) := by
    rw [holdings_settlePositions h.banks hkeys hp, Pi.add_apply, Finmap.sum_apply,
      Finmap.sum_eq_zero, add_zero]
    exact fun j v _ => interbank_apply j v _
  rw [← ht]
  -- and each creditor leg pays a customer
  let AtLeast (u : Network Amount) : Prop :=
    t.holdings (.bank i (.customer id)) ≤ u.holdings (.bank i (.customer id))
  have hstep : ∀ pid u, AtLeast u → CreditorPaid u pid →
      AtLeast (withCreditorLeg now pid u) := by
    rintro pid u hu ⟨hcore, p, creditor, acct, hcredit⟩
    refine le_trans hu ?_
    have hpos := (hcore.records.positive pid p hcredit.stored).le
    rw [holdings_withCreditorLeg hcore.banks hcredit, Pi.add_apply, Pi.sub_apply,
      credit_role_of_ne (by simp), sub_zero]
    exact le_add_of_nonneg_right (credit_customer_nonneg hpos _ i _ id)
  exact hlegs.invariant hstep le_rfl

/-- A payment is within the balance of the debtor. -/
theorem Initiates.covered {req : InitiatePaymentRequest Amount} {scheme : Scheme}
    {cycleID : CycleID} {cycle : ClearingCycle Amount} {debtor : Participant Amount}
    {acct : Deposit.Account Amount}
    (hi : s.Initiates now req scheme cycleID cycle debtor acct) (h : s.WF)
    (hlimits : s.NoLimits) :
    req.amount ≤ debtor.balanceOf (.customer req.debtor.account) := by
  have hcheck : debtor.deposit.checkWithdrawal now req.debtor.account req.amount = .ok () :=
    validate_checks hi.valid hi.debtor_exists.bank
  obtain ⟨a, ha, hle⟩ :=
    (h.banks.bank _ debtor hi.debtor_exists.bank).deposit.checkWithdrawal_covered hcheck
  rw [hlimits _ debtor hi.debtor_exists.bank _ a ha, add_zero] at hle
  have haccountOf : debtor.accountOf (.customer req.debtor.account) = some a.glAccount :=
    Participant.accountOf_customer ha
  rw [Participant.balanceOf_of_account haccountOf]
  exact hle

/-- After a prudent call no customer account is overdrawn. -/
theorem Change.customers {op : Op Amount} {failure : Option Err}
    (hc : Change now s op failure s') (h : s.WF) (hcov : s.Covered)
    (hop : op.prudent) (i : ParticipantID) (id : Deposit.AccountID) :
    0 ≤ s'.holdings (.bank i (.customer id)) := by
  have hcustomers := hcov.customers i id
  cases hc with
  | refused => exact hcustomers
  | scheme => exact hcustomers
  | bank name acct p hnew =>
    rw [holdings_withBank h.banks hnew]
    exact hcustomers
  | register j b rop r honreg hb hc =>
    -- a prudent call captures no hold
    have hno : ∀ id counterparty amount description,
        rop ≠ .captureHold id counterparty amount description := by
      rintro id counterparty amount description rfl
      cases honreg
      cases hop
    rw [holdings_withDeposit h.banks hb (hc.grows (h.banks.bank j b hb).deposit)
      (hc.transactions_eq hno)]
    exact hcustomers
  | deposit j account amount description b a hpos hb ha hacc hcb =>
    have hreserve : credit (.bank j .reserve) amount (.bank i (.customer id)) = 0 :=
      credit_role_of_ne (by simp) ..
    show 0 ≤ (s.posted now j b (depositRequest b a.glAccount amount description)).holdings
      (.bank i (.customer id))
    rw [holdings_deposit h.banks hb ha, Pi.add_apply, Pi.sub_apply, hreserve, sub_zero]
    exact add_nonneg hcustomers (credit_customer_nonneg hpos.le _ i _ id)
  | mandated => exact hcustomers
  | revoked => exact hcustomers
  | opened => exact hcustomers
  | closed => exact hcustomers
  | settle order₁ order₂ cid r ho =>
    rcases hcov.outcome h ho with ⟨e, rfl, -, -⟩ | ⟨c, tx, t, hcyc, -, hp, -, hlegs, rfl⟩
    · exact hcustomers
    · exact hcustomers.trans (settled_customers h hcyc hp hlegs i id)
  | idDrawn => exact hcustomers
  | initiated req scheme cycleID cycle debtor acct hi =>
    rw [holdings_withPayment h.banks hi, Pi.add_apply, Pi.sub_apply,
      credit_role_of_ne (by simp), zero_sub, PartyRef.place, credit_bank]
    split
    · next heq =>
      -- only the account of the debtor is debited, and the check has covered it
      obtain ⟨rfl, hrole⟩ := heq
      rw [← hrole, holdings_bank hi.debtor_exists.bank, ← sub_eq_add_neg]
      exact sub_nonneg.mpr (hi.covered h hcov.limits)
    · rw [neg_zero, add_zero]
      exact hcustomers
  | rejected pid reason p debtor txID original hp hst hleg hb hstored =>
    have hpos := (h.records.positive pid p hp).le
    rw [holdings_withRejected h hp hst hleg hb hstored, Pi.sub_apply, Pi.sub_apply,
      credit_role_of_ne (by simp), zero_sub, sub_neg_eq_add]
    exact add_nonneg hcustomers (credit_customer_nonneg hpos _ i _ id)
  | refunded => cases hop
  | returned => cases hop

/-! ### Unsettled cycles -/

omit [IsOrderedAddMonoid Amount] in
/-- A settlement uses the key of its own cycle only. -/
theorem settled_cbKeyed (h : s.Banks) {order₁ order₂ : MapOrder ParticipantID Amount}
    {c : ClearingCycle Amount} {tx : Option Ledger.TransactionID} {t : Network Amount}
    (hp : PositionsSettled now order₁ order₂ c s (.ok tx t)) (ids : List PaymentID)
    {key : String} (hne : key ≠ c.id.settleKey) :
    (run (withCreditorLeg now) t ids).cbKeyed key = s.cbKeyed key := by
  obtain ⟨banks, payments, hrun⟩ := run_withCreditorLeg_frame now ids t
  rw [hrun]
  show t.cbKeyed key = _
  cases hp with
  | nothing => rfl
  | settled req hreq hacc =>
    obtain ⟨banks, hbanks⟩ := run_withMirror_frame now c
      (order₂.toList c.netPositions) (s.cbPosted now req)
    rw [hbanks]
    have hkey : req.idempotencyKey = c.id.settleKey := hreq ▸ rfl
    exact (cbKeyed_cbPosted h hacc key).trans (if_neg fun hk => hne (hk.1.trans hkey))

/-- A prudent call settles at the central bank what it records as settled. -/
theorem Change.unsettled {op : Op Amount} {failure : Option Err}
    (hc : Change now s op failure s') (h : s.WF) (hcov : s.Covered)
    (hop : op.prudent) {id : CycleID} {c' : ClearingCycle Amount}
    (hc' : s'.cycles.lookup id = some c') (hst : c'.status ≠ .settled) :
    s'.cbKeyed id.settleKey = none := by
  have hunsettled := hcov.unsettled id
  -- the cycle was there before, and not settled
  have hold : ∀ {c}, s.cycles.lookup id = some c → c.status = c'.status →
      s.cbKeyed id.settleKey = none :=
    fun hlook heq => hunsettled _ hlook (heq ▸ hst)
  cases hc with
  | refused => exact hold hc' rfl
  | scheme => exact hold hc' rfl
  | bank => exact hold hc' rfl
  | register => exact hold hc' rfl
  | deposit j account amount description b a hpos hb ha hacc hcb =>
    refine (cbKeyed_cbPosted
      (h.banks.posted hb hacc (Ledger.declared_transfer _ _ _)) hcb _).trans ?_
    -- a funding posts without a key
    rw [if_neg fun hk => hk.2 hk.1]
    exact hold hc' rfl
  | mandated => exact hold hc' rfl
  | revoked => exact hold hc' rfl
  | opened scheme =>
    rcases (Finmap.lookup_insert_fresh h.records.fresh_cycle).mp hc' with
      ⟨rfl, -⟩ | hlook
    · -- the key of a cycle names a number that was drawn, and this one is new
      exact h.legs.keys.unsettled h.records (colonFree_ident (by decide) _)
        (Finmap.lookup_eq_none.mp h.records.fresh_cycle)
    · exact hold hlook rfl
  | closed cid c hcyc hopen =>
    rcases Finmap.lookup_insert_eq_some.mp hc' with ⟨rfl, -⟩ | ⟨-, hlook⟩
    · exact hunsettled c hcyc (by simp [hopen])
    · exact hold hlook rfl
  | settle order₁ order₂ cid r ho =>
    rcases hcov.outcome h ho with ⟨e, rfl, -, -⟩ | ⟨c, tx, t, hcyc, -, hp, -, hlegs, rfl⟩
    · exact hold hc' rfl
    · have hcycles : (run (withCreditorLeg now) t c.paymentIDs).cycles = s.cycles := by
        obtain ⟨banks, payments, hrun⟩ := run_withCreditorLeg_frame now c.paymentIDs t
        obtain ⟨banks', cb, rfl⟩ := hp.frame
        rw [hrun]
      rcases Finmap.lookup_insert_eq_some.mp hc' with ⟨rfl, rfl⟩ | ⟨hne, hlook⟩
      · exact absurd rfl hst
      · rw [hcycles] at hlook
        have hkey : id.settleKey ≠ c.id.settleKey := by
          rw [h.records.cycle_id cid c hcyc]
          intro heq
          -- two keys are the same only for the same cycle: ids have no colon
          have hfree := h.records.cycle_colonFree (Finmap.mem_of_lookup_eq_some hlook)
          have hfree' := h.records.cycle_colonFree (Finmap.mem_of_lookup_eq_some hcyc)
          exact hne (congrArg CycleID.mk ((joinColon_inj hfree hfree').mp heq).1)
        exact (settled_cbKeyed h.banks hp c.paymentIDs hkey).trans (hold hlook rfl)
  | idDrawn => exact hold hc' rfl
  | initiated req scheme cycleID cycle debtor acct hi =>
    rcases Finmap.lookup_insert_eq_some.mp hc' with ⟨rfl, rfl⟩ | ⟨-, hlook⟩
    · exact hold hi.cycle_stored rfl
    · exact hold hlook rfl
  | rejected pid reason p debtor txID original hp hst =>
    obtain ⟨c, hcyc, -⟩ := h.open_of_accepted hp hst
    rw [withRejected_eq hcyc] at hc' ⊢
    rcases Finmap.lookup_insert_eq_some.mp hc' with ⟨rfl, rfl⟩ | ⟨-, hlook⟩
    · exact hold hcyc rfl
    · exact hold hlook rfl
  | refunded => cases hop
  | returned => cases hop

/-! ### Runs -/

/-- A prudent call keeps a network covered. -/
theorem exec_covered {step : Clock × Op Amount} (h : s.WF) (hcov : s.Covered)
    (hstep : step.2.prudent) : (exec step s).Covered where
  limits := (h.call_change step.1.now step.2).limits h hcov hstep
  customers := (h.call_change step.1.now step.2).customers h hcov hstep
  suspense i := by
    have hsurplus := Change.surplus (h.call_change step.1.now step.2) h
      (hcov.undisturbed h hstep)
    rw [hsurplus, Pi.add_apply, receipts_suspense, add_zero]
    exact hcov.suspense i
  unsettled _ _ hc' hst :=
    (h.call_change step.1.now step.2).unsettled h hcov hstep hc' hst

omit [IsOrderedAddMonoid Amount] in
/-- A new network has no bank and no cycle. -/
theorem covered_newNetwork (now : Time) : (newNetwork Amount now).Covered := by
  have hbanks : (newNetwork Amount now).participants = ∅ := by
    rw [newNetwork]
    split <;> rfl
  have hcycles : (newNetwork Amount now).cycles = ∅ := by
    rw [newNetwork]
    split <;> rfl
  refine ⟨?_, ?_, ?_, ?_⟩
  · -- limits
    intro i b hb
    rw [hbanks] at hb
    cases hb
  · -- customers
    intro i id
    simp [holdings, hbanks]
  · -- suspense
    intro i
    rw [surplus_newNetwork]
    rfl
  · -- unsettled
    intro id c hc
    rw [hcycles] at hc
    cases hc

/-- Runs of prudent calls reach covered networks. -/
theorem covered_reached (start : Clock) {steps : List (Clock × Op Amount)}
    (hsteps : ∀ step ∈ steps, step.2.prudent) : (reached start steps).Covered := by
  have hstep : ∀ step (s : Network Amount), s.WF → s.Covered → step.2.prudent →
      (exec step s).Covered := fun step s h hcov hprudent => exec_covered h hcov hprudent
  exact Along.invariant_of exec_wf hstep (wf_newNetwork start.now)
    (covered_newNetwork start.now) (.of_forall hsteps _)

/-- In a covered network a closed cycle can be settled, and its payments are. -/
theorem Covered.settleCycle_ok (hcov : s.Covered) (h : s.WF) {id : CycleID}
    {c : ClearingCycle Amount} (hc : s.cycles.lookup id = some c)
    (hclosed : c.status = .closed) (now : Time)
    (order₁ order₂ : MapOrder ParticipantID Amount) :
    ∃ st s', settleCycle now order₁ order₂ id s = .ok st s' ∧
      ∀ pid ∈ c.paymentIDs, s.statusOf pid = some .cleared ∧
        s'.statusOf pid = some .settled := by
  rcases hcov.outcome h (h.settleCycle_outcome now order₁ order₂ id) with
    ⟨e, -, -, hno⟩ | ⟨d, tx, t, hd, -, hp, -, hlegs, hok⟩
  · exact absurd hclosed (hno c hc)
  cases hc.symm.trans hd
  refine ⟨_, _, hok, fun pid hpid => ?_⟩
  obtain ⟨p, hstored, hfits⟩ := h.members_fit hc hpid
  rw [hclosed] at hfits
  have hst : p.status = .cleared := hfits
  obtain ⟨q, q', -, -, hq', hsettled⟩ :=
    (lookup_run_withCreditorLeg (h.cycles.nodup id c hc) hlegs pid).2 hpid
  constructor
  · rw [statusOf, hstored, Option.map_some, hst]
  · show (((run (withCreditorLeg now) t c.paymentIDs).payments.lookup pid).map _) = _
    rw [hq', Option.map_some, hsettled]

end Steps

/-! ## Every closed cycle -/

/-- What the ledgers have ready for the settlement of a cycle. -/
structure Settleable (s : Network Amount) (order : MapOrder ParticipantID Amount)
    (c : ClearingCycle Amount) : Prop where
  /-- The reserve of each bank covers what the bank has to pay on balance. -/
  reserves : ∀ i net, c.netPositions.lookup i = some net →
    ∃ b reserve, s.participants.lookup i = some b ∧
      b.ledger.bookBalance b.reserveAccount = .ok reserve ∧ -net ≤ reserve
  /-- No key of the settlement is in use. -/
  settleKey : s.centralBank.idempotencyIndex.lookup c.id.settleKey = none
  mirrorKey : ∀ i b, s.participants.lookup i = some b →
    b.ledger.idempotencyIndex.lookup (c.id.mirrorKey i) = none
  creditKey : ∀ pid ∈ c.paymentIDs, ∃ p b, s.payments.lookup pid = some p ∧
    s.participants.lookup p.creditor.participant = some b ∧
      b.ledger.idempotencyIndex.lookup p.id.creditKey = none
  /-- The transaction at the central bank balances. -/
  balanced : ∃ entries, (order.toList c.netPositions).foldlM s.addSettlementEntry []
    = .ok entries ∧ Ledger.ValidateBalance entries

theorem Covered.settleable {s : Network Amount} (hcov : s.Covered) (h : s.WF)
    {id : CycleID} {c : ClearingCycle Amount} (hc : s.cycles.lookup id = some c)
    (hclosed : c.status = .closed) (order : MapOrder ParticipantID Amount) :
    s.Settleable order c := by
  have hid := h.records.cycle_id id c hc
  have hunsettled : s.cbKeyed c.id.settleKey = none :=
    hid ▸ hcov.unsettled id c hc (by simp [hclosed])
  have hkeys : ∀ i net, c.netPositions.lookup i = some net → i ∈ s.participants :=
    fun i _ hnet => h.positions.keys id c hc i (Finmap.mem_of_lookup_eq_some hnet)
  refine ⟨?_, ?_, ?_, ?_, ?_⟩
  · -- reserves
    intro i net hnet
    obtain ⟨b, hb⟩ := Finmap.mem_iff.mp (hkeys i net hnet)
    obtain ⟨acct, hacct, -⟩ := (h.banks.bank i b hb).reserve
    exact ⟨b, _, hb, Book.bookBalance_of_lookup hacct, hcov.reserve h hc hclosed hnet hb⟩
  · -- settleKey
    exact h.banks.centralBank.keyed_eq_none.mp hunsettled
  · -- mirrorKey
    exact fun i b hb => h.toCore.mirror_unused hc hunsettled hb
  · -- creditKey: a cleared payment is not paid yet
    intro pid hpid
    obtain ⟨p, hp, hfits⟩ := h.members_fit hc hpid
    rw [hclosed] at hfits
    have hst : p.status = .cleared := hfits
    obtain ⟨creditor, acct, hparty⟩ := h.records.creditor pid p hp
    have hunpaid := (h.legs.legs pid p hp).unpaid (by simp [hst, PaymentStatus.Paid])
    rw [keyed_of_bank hparty.bank,
      (h.banks.bank _ creditor hparty.bank).ledger.keyed_eq_none] at hunpaid
    exact ⟨p, creditor, hp, hparty.bank, hunpaid⟩
  · -- balanced
    refine ⟨_, foldlM_addSettlementEntry ?_ [], h.toCore.settle_balanced hc order⟩
    exact fun d hd => hkeys d.1 d.2 (order.mem_toList.mp hd)

/-- **Settlement cannot fail**: after a run of prudent calls every closed cycle
can be settled, and settling it moves its payments from cleared to settled. -/
theorem settleCycle_succeeds (start : Clock) (steps : List (Clock × Op ℤ))
    (hsteps : ∀ step ∈ steps, step.2.prudent) (id : CycleID) (c : ClearingCycle ℤ)
    (hc : (reached start steps).cycles.lookup id = some c) (hclosed : c.status = .closed)
    (now : Time) (order₁ order₂ : MapOrder ParticipantID ℤ) :
    (reached start steps).Settleable order₁ c ∧
      ∃ st s', settleCycle now order₁ order₂ id (reached start steps) = .ok st s' ∧
        ∀ pid ∈ c.paymentIDs, (reached start steps).statusOf pid = some .cleared ∧
          s'.statusOf pid = some .settled := by
  have h : (reached start steps).WF := wf_reached start steps
  have hcov : (reached start steps).Covered := covered_reached start hsteps
  exact ⟨hcov.settleable h hc hclosed order₁,
    hcov.settleCycle_ok h hc hclosed now order₁ order₂⟩

/-- The first cycle of a busy day, once it is closed. -/
theorem settleCycle_busyDay : ∃ st s', settleCycle noon.now .byKey .byKey ⟨"cyc_3"⟩
    (reached noon (busyDay.take 12)) = .ok st s' ∧
      s'.statusOf ⟨"pay_4"⟩ = some .settled := by
  obtain ⟨c, hc⟩ := Option.isSome_iff_exists.mp (show
    ((reached noon (busyDay.take 12)).cycles.lookup ⟨"cyc_3"⟩).isSome by decide +kernel)
  have hstatus : ((reached noon (busyDay.take 12)).cycles.lookup ⟨"cyc_3"⟩).map (·.status)
      = some .closed := by decide +kernel
  have hmembers : ((reached noon (busyDay.take 12)).cycles.lookup ⟨"cyc_3"⟩).map
      (·.paymentIDs) = some [⟨"pay_4"⟩, ⟨"pay_5"⟩] := by decide +kernel
  rw [hc, Option.map_some, Option.some.injEq] at hstatus hmembers
  obtain ⟨-, st, s', hok, hpayments⟩ := settleCycle_succeeds noon (busyDay.take 12)
    (by decide) ⟨"cyc_3"⟩ c hc hstatus noon.now .byKey .byKey
  exact ⟨st, s', hok, (hpayments _ (hmembers ▸ List.mem_cons_self)).2⟩

end Network

end CoreBanking.Payment
