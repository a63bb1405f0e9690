import CoreBanking.Payment.Invariant

/-!
# The lifecycle of a payment

Every call moves each stored payment along at most one edge of its lifecycle
(`Change.evolves`), and stores new payments as accepted. So the statuses that a
payment takes over a run are a path in the lifecycle (`statusHistory_path`).
-/

namespace CoreBanking.Payment

namespace Network

variable {Amount : Type}

/-- What one call may do to what is stored under the id of a payment. -/
inductive Evolves : Option (Payment Amount) → Option (Payment Amount) → Prop
  | kept (o : Option (Payment Amount)) : Evolves o o
  | accepted (p : Payment Amount) (h : p.status = .accepted) : Evolves none (some p)
  | moved (p p' : Payment Amount) (hterms : p.SameTerms p')
      (hedge : p'.status ∈ allowed p.status) : Evolves (some p) (some p')

/-- A stored payment keeps its terms. -/
theorem Evolves.sameTerms {p p' : Payment Amount} (h : Evolves (some p) (some p')) :
    p.SameTerms p' := by
  cases h with
  | kept => exact .refl p
  | moved _ _ hterms => exact hterms

/-- Overwriting a payment by one in the next status. -/
theorem Evolves.insert {m : GoMap PaymentID (Payment Amount)} {id : PaymentID}
    {p p' : Payment Amount} (hp : m.lookup id = some p) (hterms : p.SameTerms p')
    (hedge : p'.status ∈ allowed p.status) (k : PaymentID) :
    Evolves (m.lookup k) ((m.insert id p').lookup k) := by
  rw [Finmap.lookup_insert_ite]
  split
  · next heq =>
    rw [heq, hp]
    exact .moved p p' hterms hedge
  · exact .kept _

variable [AddCommGroup Amount] [LinearOrder Amount]

/-- A settlement moves the payments of its cycle from cleared to settled. -/
theorem SettleOutcome.evolves {s : Network Amount} {now : Time}
    {order₁ order₂ : MapOrder ParticipantID Amount} {id : CycleID}
    {r : EStateM.Result Err (Network Amount) (Settlement Amount)}
    (ho : SettleOutcome now order₁ order₂ id s r) (h : s.WF) (k : PaymentID) :
    Evolves (s.payments.lookup k) ((Call.state r).payments.lookup k) := by
  cases ho with
  | notClosed => exact .kept _
  | refused => exact .kept _
  | stuck c hc hclosed req hreq hacc pre =>
    obtain ⟨banks, hbanks⟩ := run_withMirror_frame now c pre (s.cbPosted now req)
    rw [Call.state_error, hbanks]
    exact .kept _
  | settled c hc hclosed tx t u hpositions ht hlegs hu =>
    obtain ⟨banks, cb, rfl⟩ := hpositions.frame
    subst hu
    have hpay := lookup_run_withCreditorLeg (h.cycles.nodup id c hc) hlegs k
    show Evolves _ ((run (withCreditorLeg now) _ c.paymentIDs).payments.lookup k)
    by_cases hk : k ∈ c.paymentIDs
    · obtain ⟨p, p', hp, hterms, hp', hst'⟩ := hpay.2 hk
      obtain ⟨q, hq, hfits⟩ := h.members_fit hc hk
      cases hp.symm.trans hq
      rw [hclosed] at hfits
      have hst : p.status = .cleared := hfits
      rw [hp, hp']
      refine .moved p p' hterms ?_
      rw [hst, hst']
      decide
    · rw [hpay.1 hk]
      exact .kept _

/-- A call moves each payment along at most one edge of its lifecycle. -/
theorem Change.evolves {s s' : Network Amount} {now : Time} {op : Op Amount}
    {failure : Option Err} (hc : Change now s op failure s') (h : s.WF)
    (k : PaymentID) : Evolves (s.payments.lookup k) (s'.payments.lookup k) := by
  cases hc with
  | refused => exact .kept _
  | scheme => exact .kept _
  | bank => exact .kept _
  | register => exact .kept _
  | deposit => exact .kept _
  | mandated => exact .kept _
  | revoked => exact .kept _
  | opened => exact .kept _
  | closed id c hcyc hopen =>
    show Evolves _ ((run markCleared s.payments c.paymentIDs).lookup k)
    rw [lookup_markCleared]
    cases hp : s.payments.lookup k with
    | none => exact .kept _
    | some p =>
      rw [Option.map_some]
      split
      · next hk =>
        -- the payments of an open cycle are accepted
        obtain ⟨q, hq, hst⟩ := (h.open_accepted id c hcyc hopen).2 k hk
        cases hp.symm.trans hq
        have hterms : p.SameTerms { p with status := .cleared } := rfl
        refine .moved p _ hterms ?_
        show PaymentStatus.cleared ∈ allowed p.status
        rw [hst]
        decide
      · exact .kept _
  | settle order₁ order₂ id r ho => exact ho.evolves h k
  | idDrawn => exact .kept _
  | initiated req scheme cycleID cycle debtor acct hi =>
    let p := s.acceptedPayment now req scheme cycleID debtor acct.glAccount
    have hfresh : s.payments.lookup p.id = none := h.records.fresh_payment
    show Evolves _ ((s.payments.insert p.id p).lookup k)
    rw [Finmap.lookup_insert_ite]
    split
    · next heq =>
      rw [heq, hfresh]
      exact .accepted p rfl
    · exact .kept _
  | rejected id reason p debtor txID original hp hst hleg hb hstored hposted =>
    -- a payment that is rejected was accepted: none is stored before it is
    obtain ⟨c, hcyc, -⟩ := h.open_of_accepted hp hst
    have hterms : p.SameTerms { p with status := .rejected, rejectReason := reason } :=
      rfl
    rw [withRejected_eq hcyc]
    refine .insert hp hterms ?_ k
    show PaymentStatus.rejected ∈ allowed p.status
    rw [hst]
    decide
  | refunded => exact .kept _
  | returned id reason p debtor creditor da ca hf hparty hacc hcb =>
    have hterms : p.SameTerms { p with status := .returned, rejectReason := reason } :=
      rfl
    refine .insert hf.stored hterms ?_ k
    show PaymentStatus.returned ∈ allowed p.status
    rw [hf.settled]
    decide

/-! ## Status histories -/

omit [AddCommGroup Amount] [LinearOrder Amount] in
/-- The status of a payment, if it is stored. -/
def statusOf (s : Network Amount) (pid : PaymentID) : Option PaymentStatus :=
  (s.payments.lookup pid).map (·.status)

/-- The statuses that a payment takes over a run, from the state before the run
on, each listed once for the time the payment spends in it. -/
def statusHistory (pid : PaymentID) (s : Network Amount) :
    List (Clock × Op Amount) → List PaymentStatus
  | [] => (s.statusOf pid).toList
  | step :: steps =>
    if (exec step s).statusOf pid = s.statusOf pid
    then statusHistory pid (exec step s) steps
    else (s.statusOf pid).toList ++ statusHistory pid (exec step s) steps

/-- The list follows the edges of the lifecycle. -/
def IsPath (l : List PaymentStatus) : Prop :=
  l.IsChain fun st st' => st' ∈ allowed st

section Status

omit [AddCommGroup Amount] [LinearOrder Amount]

variable {o o' : Option (Payment Amount)} {st : PaymentStatus}

/-- A new payment is accepted. -/
theorem Evolves.status_new (h : Evolves o o') (hnone : o.map (·.status) = none)
    (hnew : o'.map (·.status) = some st) : st = .accepted := by
  cases h with
  | kept => cases hnone.symm.trans hnew
  | accepted p hst =>
    rw [Option.map_some, hst] at hnew
    exact (Option.some.inj hnew).symm
  | moved p p' => cases hnone

/-- A status changes along an edge. -/
theorem Evolves.status_moved (h : Evolves o o') (hst : o.map (·.status) = some st)
    (hne : o'.map (·.status) ≠ o.map (·.status)) :
    ∃ st', o'.map (·.status) = some st' ∧ st' ∈ allowed st := by
  cases h with
  | kept => exact absurd rfl hne
  | accepted p => cases hst
  | moved p p' hterms hedge =>
    cases hst
    exact ⟨p'.status, rfl, hedge⟩

end Status

/-- The history of a payment is a path that starts at its present status, or,
if it is not stored yet, at `Accepted`. -/
theorem statusHistory_path {pid : PaymentID} {s : Network Amount} (h : s.WF)
    (steps : List (Clock × Op Amount)) :
    (s.statusOf pid = none → statusHistory pid s steps = [] ∨
      ∃ l, statusHistory pid s steps = .accepted :: l ∧ IsPath (.accepted :: l)) ∧
    ∀ st, s.statusOf pid = some st →
      ∃ l, statusHistory pid s steps = st :: l ∧ IsPath (st :: l) := by
  -- on the calls of the run, from any state that keeps the invariant
  induction steps generalizing s with
  | nil =>
    constructor
    · intro hnone
      rw [statusHistory, hnone]
      exact .inl rfl
    · intro st hst
      rw [statusHistory, hst]
      exact ⟨[], rfl, List.isChain_singleton st⟩
  | cons step steps ih =>
    obtain ⟨ihnone, ihsome⟩ := ih (exec_wf step s h)
    have hev : Evolves (s.payments.lookup pid) ((exec step s).payments.lookup pid) :=
      (h.call_change step.1.now step.2).evolves h pid
    rw [statusHistory]
    split
    · next heq =>
      -- no new status: the history of the rest
      rw [heq] at ihnone ihsome
      exact ⟨ihnone, ihsome⟩
    · next hne =>
      constructor
      · intro hnone
        rw [hnone, Option.toList_none, List.nil_append]
        cases hnew : (exec step s).statusOf pid with
        | none => exact ihnone hnew
        | some st =>
          obtain rfl := hev.status_new hnone hnew
          exact .inr (ihsome _ hnew)
      · intro st hst
        obtain ⟨st', hnew, hedge⟩ := hev.status_moved hst hne
        obtain ⟨l, hl, hpath⟩ := ihsome st' hnew
        refine ⟨st' :: l, ?_, List.isChain_cons_cons.mpr ⟨hedge, hpath⟩⟩
        rw [hst, hl]
        rfl

/-- The paths of the lifecycle from `Accepted`. -/
theorem path_accepted {l : List PaymentStatus} (h : IsPath (.accepted :: l)) :
    .accepted :: l <+: [.accepted, .cleared, .settled, .returned] ∨
      .accepted :: l = [.accepted, .rejected] := by
  cases l with
  | nil => exact .inl (by decide)
  | cons a l =>
    obtain ⟨ha, h⟩ := List.isChain_cons_cons.mp h
    -- the one choice is the first: after it the path has no branches
    rcases List.mem_cons.mp ha with rfl | ha
    · cases l with
      | nil => exact .inl (by decide)
      | cons b l =>
        obtain ⟨hb, h⟩ := List.isChain_cons_cons.mp h
        cases List.mem_singleton.mp hb
        cases l with
        | nil => exact .inl (by decide)
        | cons c l =>
          obtain ⟨hc, h⟩ := List.isChain_cons_cons.mp h
          cases List.mem_singleton.mp hc
          cases l with
          | nil => exact .inl (by decide)
          | cons d l => cases (List.isChain_cons_cons.mp h).1
    · cases List.mem_singleton.mp ha
      cases l with
      | nil => exact .inr rfl
      | cons b l => cases (List.isChain_cons_cons.mp h).1

end Network

end CoreBanking.Payment
