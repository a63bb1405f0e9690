import CoreBanking.Payment.Balances
import CoreBanking.Payment.Persistence

/-!
# Mandates

Only `CreateMandate` and `RevokeMandate` write mandates, so a mandate keeps the terms it
was created with, and stays revoked once it is (`run_mandate`). A direct debit is checked
against its mandate, but a mandate with a negative limit passes for one without a limit.

- `mandate_exceeded`: a direct debit of 100 under a mandate with limit -5;
- `direct_debits_authorised`: an accepted direct debit is within the limit of its mandate
  exactly if the limit is not negative, and everything else that a mandate stands for
  holds in any case.
-/

namespace CoreBanking.Payment

open Ledger (Book)

/-- The amount is within the limit of the mandate, where 0 stands for no limit. -/
def Mandate.Allows {Amount : Type} [Zero Amount] [LE Amount] (m : Mandate Amount)
    (amount : Amount) : Prop :=
  m.maxAmount = 0 ∨ amount ≤ m.maxAmount

namespace Network

variable {Amount : Type}

/-! ## The life of a mandate -/

section Life

variable [AddCommGroup Amount] [LinearOrder Amount] {s s' : Network Amount} {now : Time}

/-- What one call may do to what is stored under the id of a mandate. -/
inductive MandateStep (now : Time) (s : Network Amount) (op : Op Amount) (id : MandateID)
    (s' : Network Amount) : Prop
  | kept (hsame : s'.mandates.lookup id = s.mandates.lookup id)
  | created (debtor creditor : PartyRef) (maxAmount : Amount)
      (hop : op = .createMandate debtor creditor maxAmount)
      (hid : id = (s.newMandate now debtor creditor maxAmount).id)
      (hdrawn : s'.idCounter = s.idCounter + 1)
      (hnew : s'.mandates.lookup id = some (s.newMandate now debtor creditor maxAmount))
  | revoked (m : Mandate Amount) (hop : op = .revokeMandate id)
      (hm : s.mandates.lookup id = some m)
      (hnew : s'.mandates.lookup id = some { m with status := .revoked })

/-- Other calls do not write mandates. -/
theorem Change.mandates_eq {op : Op Amount} {failure : Option Err}
    (hc : Change now s op failure s') (h : s.WF)
    (hcreate : ∀ debtor creditor maxAmount, op ≠ .createMandate debtor creditor maxAmount)
    (hrevoke : ∀ id, op ≠ .revokeMandate id) : s'.mandates = s.mandates := by
  cases hc with
  | mandated debtor creditor maxAmount => exact absurd rfl (hcreate debtor creditor maxAmount)
  | revoked id => exact absurd rfl (hrevoke id)
  | settle order₁ order₂ cid r ho =>
    obtain ⟨banks, cb, payments, cycles, settlements, n, -, hr⟩ := ho.frame
    rw [hr]
  | rejected pid reason p debtor txID original hp hst =>
    obtain ⟨c, hcyc, -⟩ := h.open_of_accepted hp hst
    rw [withRejected_eq hcyc]
    rfl
  | _ => rfl

theorem WF.mandateStep (h : s.WF) (step : Clock × Op Amount) (id : MandateID) :
    MandateStep step.1.now s step.2 id (exec step s) := by
  obtain ⟨clock, op⟩ := step
  by_cases hcreate : ∃ debtor creditor maxAmount, op = .createMandate debtor creditor maxAmount
  · obtain ⟨debtor, creditor, maxAmount, rfl⟩ := hcreate
    rcases createMandate_cases clock.now debtor creditor maxAmount s with ⟨e, he⟩ | hok
    · have hsame : exec (clock, .createMandate debtor creditor maxAmount) s = s :=
        Call.final_of_error (Call.discard_of_error he)
      rw [hsame]
      exact .kept rfl
    · have hexec : exec (clock, .createMandate debtor creditor maxAmount) s
          = s.withMandate (s.newMandate clock.now debtor creditor maxAmount) :=
        Call.final_of_ok (Call.discard_of_ok hok)
      rw [hexec]
      by_cases hid : id = (s.newMandate clock.now debtor creditor maxAmount).id
      · refine .created debtor creditor maxAmount rfl hid rfl ?_
        rw [hid]
        exact Finmap.lookup_insert _
      · exact .kept (Finmap.lookup_insert_of_ne _ hid)
  by_cases hrevoke : ∃ id', op = .revokeMandate id'
  · obtain ⟨id', rfl⟩ := hrevoke
    rcases revokeMandate_cases id' s with ⟨e, he⟩ | ⟨m, hm, hok⟩
    · have hsame : exec (clock, .revokeMandate id') s = s := Call.final_of_error he
      rw [hsame]
      exact .kept rfl
    · rw [show exec (clock, .revokeMandate id') s = _ from Call.final_of_ok hok]
      by_cases hid : id = id'
      · subst hid
        exact .revoked m rfl hm (Finmap.lookup_insert _)
      · exact .kept (Finmap.lookup_insert_of_ne _ hid)
  · refine .kept (congrArg _ ((h.call_change clock.now op).mandates_eq h ?_ ?_))
    · rintro debtor creditor maxAmount rfl
      exact hcreate ⟨_, _, _, rfl⟩
    · rintro id' rfl
      exact hrevoke ⟨_, rfl⟩

/-- Mandates are stored under ids that have been drawn, and schemes under their own. -/
structure Mandated (s : Network Amount) : Prop where
  ids : KeysUpTo MandateID.mk "mnd" s.idCounter s.mandates
  schemes : ∀ k sc, s.schemes.lookup k = some sc → sc.id = k

/-- Schemes change only by being registered. -/
theorem Change.schemes {op : Op Amount} {failure : Option Err}
    (hc : Change now s op failure s') (h : s.WF) :
    s'.schemes = s.schemes ∨ ∃ sc, s'.schemes = s.schemes.insert sc.id sc := by
  cases hc with
  | scheme sc => exact .inr ⟨sc, rfl⟩
  | settle order₁ order₂ cid r ho =>
    obtain ⟨banks, cb, payments, cycles, settlements, n, -, hr⟩ := ho.frame
    rw [hr]
    exact .inl rfl
  | rejected pid reason p debtor txID original hp hst =>
    obtain ⟨c, hcyc, -⟩ := h.open_of_accepted hp hst
    rw [withRejected_eq hcyc]
    exact .inl rfl
  | _ => exact .inl rfl

theorem Mandated.exec (hm : s.Mandated) (h : s.WF) (step : Clock × Op Amount) :
    (exec step s).Mandated where
  ids id hid := by
    have hc := h.call_change step.1.now step.2
    have hle : s.idCounter ≤ (Network.exec step s).idCounter := hc.idCounter_le h
    cases h.mandateStep step id with
    | kept hsame =>
      have hold : id ∈ s.mandates := by
        rw [← Finmap.lookup_isSome, ← hsame, Finmap.lookup_isSome]
        exact hid
      exact hm.ids.mono hle id hold
    | created debtor creditor maxAmount _ hnew hdrawn =>
      exact ⟨s.idCounter + 1, hdrawn.ge, hnew⟩
    | revoked m _ hold => exact hm.ids.mono hle id (Finmap.mem_of_lookup_eq_some hold)
  schemes k sc hk := by
    rcases (h.call_change step.1.now step.2).schemes h with hsame | ⟨sc', hins⟩
    · exact hm.schemes k sc (hsame ▸ hk)
    · have hk' : (s.schemes.insert sc'.id sc').lookup k = some sc := hins ▸ hk
      exact Finmap.forall_lookup_insert hm.schemes rfl k sc hk'

omit [AddCommGroup Amount] [LinearOrder Amount] in
theorem mandates_newNetwork (now : Time) : (newNetwork Amount now).mandates = ∅ := by
  rw [newNetwork]
  split <;> rfl

omit [AddCommGroup Amount] [LinearOrder Amount] in
theorem schemes_newNetwork (now : Time) : (newNetwork Amount now).schemes
    = ((∅ : GoMap SchemeID Scheme).insert Scheme.sct.id .sct).insert Scheme.sdd.id .sdd := by
  rw [newNetwork]
  split <;> rfl

omit [AddCommGroup Amount] [LinearOrder Amount] in
theorem mandated_newNetwork (now : Time) : (newNetwork Amount now).Mandated where
  ids := by
    rw [mandates_newNetwork]
    exact .empty
  schemes k sc hk := by
    rw [schemes_newNetwork] at hk
    rcases Finmap.lookup_insert_eq_some.mp hk with ⟨rfl, rfl⟩ | ⟨-, hk⟩
    · rfl
    · rcases Finmap.lookup_insert_eq_some.mp hk with ⟨rfl, rfl⟩ | ⟨-, hk⟩
      · rfl
      · cases hk

/-- A mandate keeps its terms, and stays revoked. -/
theorem Mandated.mandate_kept (hm : s.Mandated) (h : s.WF) (step : Clock × Op Amount)
    {id : MandateID} {m : Mandate Amount} (hid : s.mandates.lookup id = some m) :
    ∃ m', (Network.exec step s).mandates.lookup id = some m' ∧
      (m' = m ∨ m' = { m with status := .revoked }) := by
  cases h.mandateStep step id with
  | kept hsame => exact ⟨m, hsame.trans hid, .inl rfl⟩
  | created debtor creditor maxAmount hop hnew =>
    -- its id has not been drawn
    have hfresh := hm.ids.fresh (fun _ _ heq => by cases heq; rfl) (Nat.lt_succ_self _)
    rw [hnew] at hid
    exact absurd (hid.symm.trans hfresh) (by simp)
  | revoked m₀ hop hold hnew =>
    cases hid.symm.trans hold
    exact ⟨_, hnew, .inr rfl⟩

theorem mandated_reached (start : Clock) (steps : List (Clock × Op Amount)) :
    (reached start steps).Mandated := by
  exact run_invariant_of exec_wf (fun step s h hm => hm.exec h step)
    (wf_newNetwork start.now) (mandated_newNetwork start.now) steps

/-- Once a mandate is revoked, it stays so for the rest of a run. -/
theorem Mandated.revoked_kept (hm : s.Mandated) (h : s.WF) {id : MandateID}
    {m : Mandate Amount} (hid : s.mandates.lookup id = some m) (hrevoked : m.status = .revoked)
    (steps : List (Clock × Op Amount)) :
    ∃ m', (run Network.exec s steps).mandates.lookup id = some m' ∧ m'.status = .revoked := by
  let Inv (t : Network Amount) : Prop := (t.WF ∧ t.Mandated) ∧
    ∃ m', t.mandates.lookup id = some m' ∧ m'.status = .revoked
  have hstep : ∀ step t, Inv t → Inv (Network.exec step t) := by
    rintro step t ⟨⟨ht, hmt⟩, m', hid', hrevoked'⟩
    obtain ⟨m'', hid'', rfl | rfl⟩ := hmt.mandate_kept ht step hid'
    · exact ⟨⟨exec_wf step t ht, hmt.exec ht step⟩, _, hid'', hrevoked'⟩
    · exact ⟨⟨exec_wf step t ht, hmt.exec ht step⟩, _, hid'', rfl⟩
  have hinv : Inv (run Network.exec s steps) :=
    run_invariant hstep ⟨⟨h, hm⟩, m, hid, hrevoked⟩ steps
  exact hinv.2

end Life

/-! ## Direct debits -/

section DirectDebits

variable [AddCommGroup Amount] [LinearOrder Amount] {s t : Network Amount} {now : Time}

/-- What the mandate checks let through. -/
theorem validateMandate_ok {p : Payment Amount} (hok : validateMandate s p = .ok ()) :
    ∃ m, s.mandates.lookup p.mandateID = some m ∧ m.status ≠ .revoked ∧
      m.debtor = p.debtor ∧ m.creditor = p.creditor ∧
      ¬(0 < m.maxAmount ∧ m.maxAmount < p.amount) := by
  unfold validateMandate at hok
  split at hok
  · cases hok
  cases hm : s.mandates.lookup p.mandateID with
  | none => simp [hm] at hok
  | some m =>
    simp only [hm] at hok
    by_cases hrevoked : m.status = .revoked
    · simp [hrevoked] at hok
    by_cases hparties : m.debtor ≠ p.debtor ∨ m.creditor ≠ p.creditor
    · simp [hrevoked, hparties] at hok
    by_cases hlimit : 0 < m.maxAmount ∧ m.maxAmount < p.amount
    · rw [if_neg hrevoked, if_neg hparties, if_pos hlimit] at hok
      cases hok
    · rw [not_or, not_not, not_not] at hparties
      exact ⟨m, rfl, hrevoked, hparties.1, hparties.2, hlimit⟩

/-- An accepted direct debit names a mandate for its parties that is not revoked. It is
within the limit of the mandate exactly if the limit is not negative. -/
theorem WF.direct_debit (h : s.WF) (hm : s.Mandated) {req : InitiatePaymentRequest Amount}
    {p : Payment Amount} (hscheme : req.scheme = Scheme.sdd.id)
    (hok : initiatePayment now req s = .ok p t) :
    ∃ m, s.mandates.lookup req.mandateID = some m ∧ m.status ≠ .revoked ∧
      m.debtor = req.debtor ∧ m.creditor = req.creditor ∧
      (m.Allows req.amount ↔ 0 ≤ m.maxAmount) := by
  rcases initiatePayment_cases h.cycles.open_stored now req with
    ⟨e, he⟩ | ⟨e, he⟩ | ⟨scheme, cycleID, cycle, debtor, acct, hi, -⟩
  · rw [he] at hok
    cases hok
  · rw [he] at hok
    cases hok
  have hsdd : scheme = .sdd := by
    have hid := hm.schemes _ scheme hi.scheme_known
    rw [hscheme] at hid
    cases scheme with
    | sct => exact absurd hid (by decide)
    | sdd => rfl
  subst hsdd
  obtain ⟨⟨⟩, hmandate, -⟩ := Call.except_bind_eq_ok.mp hi.valid
  obtain ⟨m, hlook, hactive, hdebtor, hcreditor, hlimit⟩ := validateMandate_ok hmandate
  refine ⟨m, hlook, hactive, hdebtor, hcreditor, ?_⟩
  constructor
  · rintro (hzero | hle)
    · exact hzero.ge
    · exact hi.positive.le.trans hle
  · intro hnonneg
    rcases hnonneg.eq_or_lt with hzero | hpos
    · exact .inl hzero.symm
    · exact .inr (not_lt.mp fun hlt => hlimit ⟨hpos, hlt⟩)

/-- A direct debit under a revoked mandate is refused. -/
theorem WF.revoked_refused (h : s.WF) (hm : s.Mandated) {req : InitiatePaymentRequest Amount}
    {m : Mandate Amount} (hid : s.mandates.lookup req.mandateID = some m)
    (hrevoked : m.status = .revoked) (hscheme : req.scheme = Scheme.sdd.id) (now : Time) :
    ∃ e t, initiatePayment now req s = .error e t := by
  cases hcall : initiatePayment now req s with
  | error e t => exact ⟨e, t, rfl⟩
  | ok p t =>
    obtain ⟨m', hid', hactive, -⟩ := h.direct_debit hm hscheme hcall
    cases hid.symm.trans hid'
    exact absurd hrevoked hactive

omit [AddCommGroup Amount] [LinearOrder Amount] in
/-- After `RevokeMandate` has succeeded, the mandate is marked. -/
theorem revokeMandate_ok {id : MandateID} (hok : revokeMandate id s = .ok () t) :
    ∃ m, t.mandates.lookup id = some m ∧ m.status = .revoked := by
  rcases revokeMandate_cases id s with ⟨e, he⟩ | ⟨m, -, hok'⟩
  · rw [he] at hok
    cases hok
  · rw [hok'] at hok
    cases hok
    exact ⟨_, Finmap.lookup_insert _, rfl⟩

/-- Without a negative limit to begin with, there is never one. -/
theorem limits_nonneg (start : Clock) {steps : List (Clock × Op Amount)}
    (hlimits : ∀ step ∈ steps, ∀ debtor creditor maxAmount,
      step.2 = .createMandate debtor creditor maxAmount → 0 ≤ maxAmount) :
    ∀ id m, (reached start steps).mandates.lookup id = some m → 0 ≤ m.maxAmount := by
  let Inv (s : Network Amount) : Prop :=
    ∀ id m, s.mandates.lookup id = some m → 0 ≤ m.maxAmount
  have hstep : ∀ (step : Clock × Op Amount) s, s.WF → Inv s →
      (∀ debtor creditor maxAmount, step.2 = .createMandate debtor creditor maxAmount →
        0 ≤ maxAmount) → Inv (exec step s) := by
    intro step s h hnonneg hlimit id m hid
    cases h.mandateStep step id with
    | kept hsame => exact hnonneg id m (hsame.symm.trans hid)
    | created debtor creditor maxAmount hop _ _ hnew =>
      cases hnew.symm.trans hid
      exact hlimit debtor creditor maxAmount hop
    | revoked m₀ _ hold hnew =>
      cases hnew.symm.trans hid
      exact hnonneg id m₀ hold
  have hinit : Inv (newNetwork Amount start.now) := by
    intro id m hid
    rw [mandates_newNetwork] at hid
    cases hid
  exact Along.invariant_of exec_wf hstep (wf_newNetwork start.now) hinit
    (.of_forall hlimits _)

end DirectDebits

/-- **Accepted direct debits are authorised**, except that a limit only binds them if it is
not negative. In every run, an accepted direct debit names a mandate that exists, is not
revoked and is for its parties, and is within its limit exactly if that is not negative; so
all are within their limits if no mandate is created with a negative one. Once a mandate has
been revoked, every later direct debit under it is refused. -/
theorem direct_debits_authorised [AddCommGroup Amount] [LinearOrder Amount] (start : Clock)
    (steps : List (Clock × Op Amount)) :
    (∀ pre clock req post p t, steps = pre ++ (clock, .initiatePayment req) :: post →
      req.scheme = Scheme.sdd.id →
      initiatePayment clock.now req (reached start pre) = .ok p t →
        ∃ m, (reached start pre).mandates.lookup req.mandateID = some m ∧
          m.status ≠ .revoked ∧ m.debtor = req.debtor ∧ m.creditor = req.creditor ∧
          (m.Allows req.amount ↔ 0 ≤ m.maxAmount)) ∧
    ((∀ step ∈ steps, ∀ debtor creditor maxAmount,
        step.2 = .createMandate debtor creditor maxAmount → 0 ≤ maxAmount) →
      ∀ pre clock req post p t, steps = pre ++ (clock, .initiatePayment req) :: post →
        req.scheme = Scheme.sdd.id →
        initiatePayment clock.now req (reached start pre) = .ok p t →
          ∃ m, (reached start pre).mandates.lookup req.mandateID = some m ∧
            m.status ≠ .revoked ∧ m.debtor = req.debtor ∧ m.creditor = req.creditor ∧
            m.Allows req.amount) ∧
    ∀ pre clock id mid later req post t,
      steps = pre ++ (clock, .revokeMandate id) :: (mid ++ (later, .initiatePayment req) :: post) →
      revokeMandate id (reached start pre) = .ok () t →
      req.scheme = Scheme.sdd.id → req.mandateID = id →
        ∃ e u, initiatePayment later.now req
          (reached start (pre ++ (clock, .revokeMandate id) :: mid)) = .error e u := by
  refine ⟨?_, ?_, ?_⟩
  · rintro pre clock req post p t rfl hscheme hok
    exact (wf_reached start pre).direct_debit (mandated_reached start pre) hscheme hok
  · rintro hlimits pre clock req post p t rfl hscheme hok
    obtain ⟨m, hm, hactive, hdebtor, hcreditor, hiff⟩ :=
      (wf_reached start pre).direct_debit (mandated_reached start pre) hscheme hok
    have hnonneg := limits_nonneg start fun step hstep =>
      hlimits step (List.mem_append_left _ hstep)
    exact ⟨m, hm, hactive, hdebtor, hcreditor, hiff.mpr (hnonneg _ m hm)⟩
  · rintro pre clock id mid later req post t rfl hok hscheme rfl
    obtain ⟨m, hm, hrevoked⟩ := revokeMandate_ok hok
    have ht : exec (clock, .revokeMandate req.mandateID) (reached start pre) = t :=
      Call.final_of_ok hok
    have hwf : t.WF := ht ▸ exec_wf _ _ (wf_reached start pre)
    have hmandated : t.Mandated :=
      ht ▸ (mandated_reached start pre).exec (wf_reached start pre) _
    obtain ⟨m', hm', hrevoked'⟩ := hmandated.revoked_kept hwf hm hrevoked mid
    have hrun : reached start (pre ++ (clock, .revokeMandate req.mandateID) :: mid)
        = run exec t mid := by
      rw [reached, run_append, ← ht]
      rfl
    rw [← hrun] at hm'
    exact (wf_reached start _).revoked_refused (mandated_reached start _) hm' hrevoked' hscheme
      later.now

/-- Bob has signed a mandate for Alice. -/
def mandateDay (maxAmount : ℤ) : List (Clock × Op ℤ) :=
  let alice : PartyRef := { participant := ⟨"bank_1"⟩, account := ⟨"dep_1"⟩ }
  let bob : PartyRef := { participant := ⟨"bank_2"⟩, account := ⟨"dep_1"⟩ }
  [.addParticipant "A", .addParticipant "B",
    .openCustomerAccount alice.participant "Alice",
    .openCustomerAccount bob.participant "Bob",
    .deposit bob.participant bob.account 200 "cash",
    .openCycle Scheme.sdd.id, .createMandate bob alice maxAmount].map fun op => (noon, op)

/-- Alice collects 100 from Bob. -/
def collection : InitiatePaymentRequest ℤ where
  scheme := Scheme.sdd.id
  debtor := { participant := ⟨"bank_2"⟩, account := ⟨"dep_1"⟩ }
  creditor := { participant := ⟨"bank_1"⟩, account := ⟨"dep_1"⟩ }
  amount := 100
  mandateID := ⟨"mnd_4"⟩

/-- The collection is accepted under a mandate whose limit is -5. -/
theorem mandate_exceeded :
    ¬∀ (start : Clock) (steps : List (Clock × Op ℤ)) pre clock req post p t,
      steps = pre ++ (clock, .initiatePayment req) :: post → req.scheme = Scheme.sdd.id →
      initiatePayment clock.now req (reached start pre) = .ok p t →
        ∃ m, (reached start pre).mandates.lookup req.mandateID = some m ∧
          m.status ≠ .revoked ∧ m.debtor = req.debtor ∧ m.creditor = req.creditor ∧
          m.Allows req.amount := by
  intro h
  have hmandate : ((reached noon (mandateDay (-5))).mandates.lookup ⟨"mnd_4"⟩).map
      (·.maxAmount) = some (-5) := by
    decide +kernel
  cases hcall : initiatePayment noon.now collection (reached noon (mandateDay (-5))) with
  | error e t =>
    have hok : Call.failure (initiatePayment noon.now collection
        (reached noon (mandateDay (-5)))) = none := by
      decide +kernel
    rw [hcall] at hok
    cases hok
  | ok p t =>
    obtain ⟨m, hm, -, -, -, hallows⟩ := h noon _ (mandateDay (-5)) noon collection [] p t rfl rfl
      hcall
    have hlimit : m.maxAmount = -5 := by
      rw [show collection.mandateID = ⟨"mnd_4"⟩ from rfl] at hm
      rw [hm] at hmandate
      exact Option.some.inj hmandate
    rw [Mandate.Allows, hlimit] at hallows
    exact absurd hallows (by decide)

end Network

end CoreBanking.Payment
