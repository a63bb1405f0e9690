import CoreBanking.Payment.Movements
import CoreBanking.Payment.Persistence

/-!
# End-to-end ids

`InitiatePayment` looks its end-to-end id up before anything else can go wrong,
and records it after everything has gone well. So the index lists the stored
payments (`indexed_reached`), and only an accepted payment uses up its id.

- `Submissible`: the conditions for a payment that do not concern its id;
- `endToEnd_once`: an id is free until a payment is accepted under it, and taken
  from then on.
-/

namespace CoreBanking.Payment

namespace Network

variable {Amount : Type} [AddCommGroup Amount] [LinearOrder Amount]
  {s s' : Network Amount} {now : Time}

/-! ## The index -/

/-- Apart from an accepted payment, a call keeps the index and the terms of the payments. -/
theorem Change.index_kept {op : Op Amount} {failure : Option Err}
    (hc : Change now s op failure s') (h : s.WF)
    (hno : ∀ req, op = .initiatePayment req → failure ≠ none) :
    s'.endToEndIndex = s.endToEndIndex ∧ Relabels s.payments s'.payments := by
  constructor
  · cases hc with
    | initiated req => exact absurd rfl (hno req rfl)
    | settle order₁ order₂ id r ho =>
      obtain ⟨banks, cb, payments, cycles, settlements, n, -, hr⟩ := ho.frame
      rw [hr]
    | rejected id reason p debtor txID original hp hst =>
      obtain ⟨c, hcyc, -⟩ := h.open_of_accepted hp hst
      rw [withRejected_eq hcyc]
      rfl
    | _ => rfl
  · intro pid
    have hev := hc.evolves h pid
    cases hp : s.payments.lookup pid with
    | none =>
      cases hp' : s'.payments.lookup pid with
      | none => exact .inl ⟨rfl, rfl⟩
      | some p =>
        obtain ⟨req, -, -, -, -, -, hok, hop, -⟩ := hc.payment_new h hp hp'
        exact absurd hok (hno req hop)
    | some p =>
      rw [hp] at hev
      cases hp' : s'.payments.lookup pid with
      | none =>
        rw [hp'] at hev
        cases hev
      | some p' =>
        rw [hp'] at hev
        exact .inr ⟨p, p', rfl, rfl, hev.sameTerms⟩

/-- The index lists the stored payments that have an end-to-end id. -/
def Indexed (s : Network Amount) : Prop :=
  ∀ key id, s.endToEndIndex.lookup key = some id ↔
    key ≠ "" ∧ ∃ p, s.payments.lookup id = some p ∧ p.endToEndID = key

omit [AddCommGroup Amount] [LinearOrder Amount] in
/-- Payments keep their end-to-end ids. -/
theorem Indexed.relabel (hx : s.Indexed) (hindex : s'.endToEndIndex = s.endToEndIndex)
    (hpay : Relabels s.payments s'.payments) : s'.Indexed := by
  intro key id
  rw [hindex, hx key id]
  refine and_congr_right fun _ => ⟨?_, ?_⟩
  · rintro ⟨p, hp, rfl⟩
    obtain ⟨p', hp', hterms⟩ := hpay.kept hp
    exact ⟨p', hp', by rw [hterms]⟩
  · rintro ⟨p', hp', rfl⟩
    obtain ⟨p, hp, hterms⟩ := hpay.origin hp'
    exact ⟨p, hp, by rw [hterms]⟩

/-- A new payment is listed under its end-to-end id, which was free. -/
theorem Indexed.withPayment (hx : s.Indexed) (h : s.WF) {req : InitiatePaymentRequest Amount}
    {scheme : Scheme} {cycleID : CycleID} {cycle : ClearingCycle Amount}
    {debtor : Participant Amount} {acct : Deposit.Account Amount}
    (hi : s.Initiates now req scheme cycleID cycle debtor acct) :
    (s.withPayment now req scheme cycleID cycle debtor acct.glAccount).Indexed := by
  intro key id
  have hfresh := h.records.fresh_payment
  -- the payments of the new state
  have hpay : ∀ p, (s.withPayment now req scheme cycleID cycle debtor
      acct.glAccount).payments.lookup id = some p ↔ (id = ⟨ident "pay" (s.idCounter + 1)⟩ ∧
        p = s.acceptedPayment now req scheme cycleID debtor acct.glAccount) ∨
      s.payments.lookup id = some p := fun p => Finmap.lookup_insert_fresh hfresh
  have hold := hx key id
  by_cases hkey : req.endToEndID = ""
  · have hindex : (s.withPayment now req scheme cycleID cycle debtor
        acct.glAccount).endToEndIndex = s.endToEndIndex := if_pos hkey
    rw [hindex, hold]
    refine and_congr_right fun hne => ⟨?_, ?_⟩
    · rintro ⟨p, hp, hid⟩
      exact ⟨p, (hpay p).mpr (.inr hp), hid⟩
    · rintro ⟨p, hp, hid⟩
      rcases (hpay p).mp hp with ⟨-, rfl⟩ | hp
      · exact absurd (hid.symm.trans hkey) hne
      · exact ⟨p, hp, hid⟩
  · have hindex : (s.withPayment now req scheme cycleID cycle debtor
        acct.glAccount).endToEndIndex
          = s.endToEndIndex.insert req.endToEndID ⟨ident "pay" (s.idCounter + 1)⟩ :=
      if_neg hkey
    have hfree := hi.endToEnd.resolve_left hkey
    rw [hindex, Finmap.lookup_insert_fresh hfree, hold]
    constructor
    · rintro (⟨rfl, rfl⟩ | ⟨hne, p, hp, hid⟩)
      · exact ⟨hkey, _, (hpay _).mpr (.inl ⟨rfl, rfl⟩), rfl⟩
      · exact ⟨hne, p, (hpay p).mpr (.inr hp), hid⟩
    · rintro ⟨hne, p, hp, hid⟩
      rcases (hpay p).mp hp with ⟨rfl, rfl⟩ | hp
      · exact .inl ⟨hid.symm, rfl⟩
      · exact .inr ⟨hne, p, hp, hid⟩

/-- What a step does to the index: at most it adds the id of a payment that is accepted. -/
theorem WF.index_step (h : s.WF) (step : Clock × Op Amount) :
    ((exec step s).endToEndIndex = s.endToEndIndex ∧
      Relabels s.payments (exec step s).payments) ∨
    ∃ req scheme cycleID cycle debtor acct, step.2 = .initiatePayment req ∧
      s.Initiates step.1.now req scheme cycleID cycle debtor acct ∧
      exec step s
        = s.withPayment step.1.now req scheme cycleID cycle debtor acct.glAccount := by
  obtain ⟨clock, op⟩ := step
  have hc := h.call_change clock.now op
  by_cases hno : ∀ req, op = .initiatePayment req →
      Call.failure (call clock.now op s) ≠ none
  · exact .inl (hc.index_kept h hno)
  right
  push Not at hno
  obtain ⟨req, rfl, hok⟩ := hno
  rw [Changes, hok] at hc
  obtain ⟨scheme, cycleID, cycle, debtor, acct, hi⟩ := hc.initiates
  refine ⟨req, scheme, cycleID, cycle, debtor, acct, rfl, hi, ?_⟩
  exact Call.final_of_ok (Call.discard_of_ok hi.initiatePayment_ok)

theorem Indexed.exec (hx : s.Indexed) (h : s.WF) (step : Clock × Op Amount) :
    (exec step s).Indexed := by
  rcases h.index_step step with ⟨hindex, hpay⟩ |
    ⟨req, scheme, cycleID, cycle, debtor, acct, -, hi, hs'⟩
  · exact hx.relabel hindex hpay
  · rw [hs']
    exact hx.withPayment h hi

omit [AddCommGroup Amount] [LinearOrder Amount] in
theorem endToEndIndex_newNetwork (now : Time) : (newNetwork Amount now).endToEndIndex = ∅ := by
  rw [newNetwork]
  split <;> rfl

theorem indexed_reached (start : Clock) (steps : List (Clock × Op Amount)) :
    (reached start steps).Indexed := by
  have hinit : (newNetwork Amount start.now).Indexed := by
    intro key id
    rw [endToEndIndex_newNetwork, payments_newNetwork]
    simp
  exact run_invariant_of exec_wf (fun step s h hx => hx.exec h step)
    (wf_newNetwork start.now) hinit steps

/-- The payments of the index are listed under their own ids. -/
theorem Indexed.lookup_iff (hx : s.Indexed) (h : s.Records) {key : String} {id : PaymentID} :
    s.endToEndIndex.lookup key = some id ↔
      key ≠ "" ∧ ∃ pid p, s.payments.lookup pid = some p ∧ p.endToEndID = key ∧ p.id = id := by
  rw [hx key id]
  refine and_congr_right fun _ => ⟨?_, ?_⟩
  · rintro ⟨p, hp, hkey⟩
    exact ⟨id, p, hp, hkey, h.payment_id id p hp⟩
  · rintro ⟨pid, p, hp, hkey, hid⟩
    rw [← hid, h.payment_id pid p hp]
    exact ⟨p, hp, hkey⟩

omit [AddCommGroup Amount] [LinearOrder Amount] in
/-- No two payments share an end-to-end id. -/
theorem Indexed.unique (hx : s.Indexed) {pid pid' : PaymentID} {p p' : Payment Amount}
    (hp : s.payments.lookup pid = some p) (hp' : s.payments.lookup pid' = some p')
    (hne : p.endToEndID ≠ "") (hsame : p.endToEndID = p'.endToEndID) : pid = pid' := by
  have hpid := (hx p.endToEndID pid).mpr ⟨hne, p, hp, rfl⟩
  have hpid' := (hx p.endToEndID pid').mpr ⟨hne, p', hp', hsame.symm⟩
  exact Option.some.inj (hpid.symm.trans hpid')

/-- An end-to-end id that is in use stays in use. -/
theorem WF.index_persists (h : s.WF) {key : String} (hkey : key ∈ s.endToEndIndex)
    (steps : List (Clock × Op Amount)) : key ∈ (run Network.exec s steps).endToEndIndex := by
  have hstep : ∀ (step : Clock × Op Amount) s, s.WF → key ∈ s.endToEndIndex →
      key ∈ (exec step s).endToEndIndex := by
    intro step s h hkey
    rcases h.index_step step with ⟨hindex, -⟩ |
      ⟨req, scheme, cycleID, cycle, debtor, acct, -, hi, hs'⟩
    · rw [hindex]
      exact hkey
    · rw [hs', Network.withPayment]
      dsimp only
      split
      · exact hkey
      · exact Finmap.mem_insert.mpr (.inr hkey)
  exact run_invariant_of exec_wf hstep h hkey steps

/-! ## Attempts -/

/-- The request meets every condition for a payment, its end-to-end id aside: it would be
accepted if no id were in use. -/
def Submissible (s : Network Amount) (now : Time) (req : InitiatePaymentRequest Amount) :
    Prop :=
  ∃ scheme cycleID cycle debtor acct, Initiates { s with endToEndIndex := ∅ } now req scheme
    cycleID cycle debtor acct

theorem submissible_iff {req : InitiatePaymentRequest Amount} : s.Submissible now req ∧
      (req.endToEndID = "" ∨ s.endToEndIndex.lookup req.endToEndID = none) ↔
    ∃ scheme cycleID cycle debtor acct,
      s.Initiates now req scheme cycleID cycle debtor acct := by
  -- the validation of a scheme does not read the index
  have hvalid : ∀ (scheme : Scheme) (cycleID : CycleID),
      scheme.validate { s with endToEndIndex := ∅, idCounter := s.idCounter + 1 } now
          (s.initialPayment now req scheme cycleID)
        = scheme.validate { s with idCounter := s.idCounter + 1 } now
          (s.initialPayment now req scheme cycleID) := by
    intro scheme cycleID
    cases scheme <;> rfl
  constructor
  · rintro ⟨⟨scheme, cycleID, cycle, debtor, acct, hi⟩, hfree⟩
    obtain ⟨creditor, ca, hcreditor⟩ := hi.creditor_exists
    exact ⟨scheme, cycleID, cycle, debtor, acct, hi.scheme_known, hi.positive,
      ⟨hi.debtor_exists.bank, hi.debtor_exists.account⟩,
      ⟨creditor, ca, hcreditor.bank, hcreditor.account⟩, hfree, hi.cycle_open,
      hi.cycle_stored, (hvalid scheme cycleID).symm.trans hi.valid, hi.accepts⟩
  · rintro ⟨scheme, cycleID, cycle, debtor, acct, hi⟩
    obtain ⟨creditor, ca, hcreditor⟩ := hi.creditor_exists
    exact ⟨⟨scheme, cycleID, cycle, debtor, acct, hi.scheme_known, hi.positive,
      ⟨hi.debtor_exists.bank, hi.debtor_exists.account⟩,
      ⟨creditor, ca, hcreditor.bank, hcreditor.account⟩, .inr (Finmap.lookup_empty _),
      hi.cycle_open, hi.cycle_stored, (hvalid scheme cycleID).trans hi.valid, hi.accepts⟩,
      hi.endToEnd⟩

/-- An attempt is accepted exactly if its end-to-end id is free and it meets the other
conditions. If not, it keeps the index and the payments. -/
theorem WF.initiatePayment_iff (h : s.WF) (now : Time) (req : InitiatePaymentRequest Amount) :
    ((∃ p t, initiatePayment now req s = .ok p t) ↔ s.Submissible now req ∧
      (req.endToEndID = "" ∨ s.endToEndIndex.lookup req.endToEndID = none)) ∧
    ∀ e t, initiatePayment now req s = .error e t →
      t.endToEndIndex = s.endToEndIndex ∧ t.payments = s.payments := by
  rw [submissible_iff]
  refine ⟨⟨?_, ?_⟩, ?_⟩
  · rintro ⟨p, t, hok⟩
    rcases initiatePayment_cases h.cycles.open_stored now req with
      ⟨e, he⟩ | ⟨e, he⟩ | ⟨scheme, cycleID, cycle, debtor, acct, hi, -⟩
    · cases hok.symm.trans he
    · cases hok.symm.trans he
    · exact ⟨scheme, cycleID, cycle, debtor, acct, hi⟩
  · rintro ⟨scheme, cycleID, cycle, debtor, acct, hi⟩
    exact ⟨_, _, hi.initiatePayment_ok⟩
  · intro e t hfail
    rcases initiatePayment_cases h.cycles.open_stored now req with
      ⟨e', he⟩ | ⟨e', he⟩ | ⟨scheme, cycleID, cycle, debtor, acct, -, hok⟩
    · cases hfail.symm.trans he
      exact ⟨rfl, rfl⟩
    · cases hfail.symm.trans he
      exact ⟨rfl, rfl⟩
    · cases hfail.symm.trans hok

/-- An attempt under an id in use fails before anything is written. -/
theorem initiatePayment_duplicate {req : InitiatePaymentRequest Amount}
    (hkey : req.endToEndID ≠ "") (hused : req.endToEndID ∈ s.endToEndIndex) :
    ∃ e, initiatePayment now req s = .error e s := by
  rw [initiatePayment_eq]
  suffices hcheck : ∃ e, checkPayment now req s = .error e s by
    obtain ⟨e, he⟩ := hcheck
    exact ⟨e, Call.bind_of_error he _⟩
  rw [checkPayment, Call.get_bind]
  have hdup : ¬(req.endToEndID = "" ∨ s.endToEndIndex.lookup req.endToEndID = none) := by
    rintro (hempty | hnone)
    · exact hkey hempty
    · exact Finmap.lookup_eq_none.mp hnone hused
  cases s.schemes.lookup req.scheme with
  | none => exact ⟨_, rfl⟩
  | some scheme =>
    rw [orThrow_some_bind]
    by_cases hpos : 0 < req.amount
    swap
    · exact ⟨_, require_bind_of_not hpos ..⟩
    rw [require_bind_of hpos]
    cases s.checkParty req.debtor with
    | error e => exact ⟨e, rfl⟩
    | ok _ =>
      rw [Call.ofExcept_ok_bind]
      cases s.checkParty req.creditor with
      | error e => exact ⟨e, rfl⟩
      | ok _ => exact ⟨_, require_bind_of_not hdup ..⟩

/-- After an accepted attempt its id is in use. -/
theorem WF.index_used (h : s.WF) {req : InitiatePaymentRequest Amount} {p : Payment Amount}
    {t : Network Amount} (hok : initiatePayment now req s = .ok p t)
    (hne : req.endToEndID ≠ "") : req.endToEndID ∈ t.endToEndIndex := by
  rcases initiatePayment_cases h.cycles.open_stored now req with
    ⟨e, he⟩ | ⟨e, he⟩ | ⟨scheme, cycleID, cycle, debtor, acct, -, hok'⟩
  · cases hok.symm.trans he
  · cases hok.symm.trans he
  · cases hok.symm.trans hok'
    rw [Network.withPayment, if_neg hne]
    exact Finmap.mem_insert.mpr (.inl rfl)

/-- So from an accepted attempt on, all others under its id fail. -/
theorem initiatePayment_refused_after (start : Clock) (pre post : List (Clock × Op Amount))
    (clock : Clock) {req req' : InitiatePaymentRequest Amount} {p : Payment Amount}
    {t : Network Amount} (hok : initiatePayment clock.now req (reached start pre) = .ok p t)
    (hne : req.endToEndID ≠ "") (hsame : req'.endToEndID = req.endToEndID) (later : Time) :
    let s := reached start (pre ++ (clock, .initiatePayment req) :: post)
    ∃ e, initiatePayment later req' s = .error e s := by
  have ht : exec (clock, .initiatePayment req) (reached start pre) = t :=
    Call.final_of_ok (Call.discard_of_ok hok)
  have hused := (wf_reached start pre).index_used hok hne
  have hwf : t.WF := ht ▸ exec_wf _ _ (wf_reached start pre)
  have hrun : reached start (pre ++ (clock, .initiatePayment req) :: post)
      = run exec t post := by
    rw [reached, run_append, ← ht]
    rfl
  rw [← hsame] at hne hused
  rw [hrun]
  exact initiatePayment_duplicate hne (hwf.index_persists hused post)

/-- An id under which every attempt has failed is free. -/
theorem index_free (start : Clock) {steps : List (Clock × Op Amount)} {key : String}
    (hfailed : ∀ pre clock req post, steps = pre ++ (clock, .initiatePayment req) :: post →
      req.endToEndID = key →
        ∃ e t, initiatePayment clock.now req (reached start pre) = .error e t) :
    (reached start steps).endToEndIndex.lookup key = none := by
  let Failing (s : Network Amount) (step : Clock × Op Amount) : Prop :=
    ∀ req, step.2 = .initiatePayment req → req.endToEndID = key →
      ∃ e t, initiatePayment step.1.now req s = .error e t
  have halong : Along exec Failing (newNetwork Amount start.now) steps := by
    rw [along_iff_split]
    rintro pre ⟨clock, op⟩ post hsteps req rfl hreq
    exact hfailed pre clock req post hsteps hreq
  have hstep : ∀ (step : Clock × Op Amount) s, s.WF → s.endToEndIndex.lookup key = none →
      Failing s step → (exec step s).endToEndIndex.lookup key = none := by
    intro step s h hfree hfail
    rcases h.index_step step with ⟨hindex, -⟩ |
      ⟨req, scheme, cycleID, cycle, debtor, acct, hop, hi, hs'⟩
    · rw [hindex]
      exact hfree
    · have hne : req.endToEndID ≠ key := by
        intro hreq
        obtain ⟨e, t, he⟩ := hfail req hop hreq
        cases he.symm.trans hi.initiatePayment_ok
      rw [hs', Network.withPayment]
      dsimp only
      split
      · exact hfree
      · exact (Finmap.lookup_insert_of_ne _ hne.symm).trans hfree
  have hinit : (newNetwork Amount start.now).endToEndIndex.lookup key = none := by
    rw [endToEndIndex_newNetwork]
    exact Finmap.lookup_empty _
  exact Along.invariant_of exec_wf hstep (wf_newNetwork start.now) hinit halong

/-- **An end-to-end id is consumed exactly once.** The index lists the stored payments that
have an id, and no two of them share one. An attempt that fails keeps the index and the
payments. While all attempts under an id have failed, the next one is accepted exactly if it
meets the other conditions; after one was accepted, all later ones fail without effect. -/
theorem endToEnd_once (start : Clock) (steps : List (Clock × Op Amount)) :
    (∀ key id, (reached start steps).endToEndIndex.lookup key = some id ↔
      key ≠ "" ∧ ∃ pid p, (reached start steps).payments.lookup pid = some p ∧
        p.endToEndID = key ∧ p.id = id) ∧
    (∀ pid pid' p p', (reached start steps).payments.lookup pid = some p →
      (reached start steps).payments.lookup pid' = some p' → p.endToEndID ≠ "" →
        p.endToEndID = p'.endToEndID → pid = pid') ∧
    (∀ (clock : Clock) req e t,
      initiatePayment clock.now req (reached start steps) = .error e t →
        t.endToEndIndex = (reached start steps).endToEndIndex ∧
          t.payments = (reached start steps).payments) ∧
    (∀ key, (∀ pre clock req post, steps = pre ++ (clock, .initiatePayment req) :: post →
        req.endToEndID = key →
          ∃ e t, initiatePayment clock.now req (reached start pre) = .error e t) →
      ∀ (clock : Clock) req, req.endToEndID = key →
        ((∃ p t, initiatePayment clock.now req (reached start steps) = .ok p t) ↔
          (reached start steps).Submissible clock.now req)) ∧
    ∀ pre clock req post p t (later : Clock) req',
      steps = pre ++ (clock, .initiatePayment req) :: post →
      initiatePayment clock.now req (reached start pre) = .ok p t → req.endToEndID ≠ "" →
      req'.endToEndID = req.endToEndID →
        ∃ e, initiatePayment later.now req' (reached start steps)
          = .error e (reached start steps) := by
  have h := wf_reached start steps
  have hx := indexed_reached start steps
  refine ⟨fun key id => hx.lookup_iff h.records, ?_, ?_, ?_, ?_⟩
  · exact fun pid pid' p p' hp hp' hne hsame => hx.unique hp hp' hne hsame
  · intro clock req
    exact (h.initiatePayment_iff clock.now req).2
  · intro key hfailed clock req hreq
    have hfree := index_free start hfailed
    rw [← hreq] at hfree
    rw [(h.initiatePayment_iff clock.now req).1]
    exact and_iff_left (.inr hfree)
  · rintro pre clock req post p t later req' rfl hok hne hsame
    exact initiatePayment_refused_after start pre post clock hok hne hsame later.now

end Network

end CoreBanking.Payment
