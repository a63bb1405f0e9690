import CoreBanking.Payment.Cycles

/-!
# Net positions

The net position of a bank in a closed cycle is what the payments of the cycle
bring in for it minus what they take out (`Positions.netting`), and all
positions of a cycle together are zero (`Positions.total`). `CloseCycle`
computes them once; payments keep their amounts and parties, and only open
cycles change their payments, so they stay right.
-/

namespace CoreBanking.Payment

set_option linter.dupNamespace false

variable {Amount : Type} [AddCommGroup Amount]

/-- What a payment brings in for bank `i`, minus what it takes out. -/
def Payment.netFor (p : Payment Amount) (i : ParticipantID) : Amount :=
  (if p.creditor.participant = i then p.amount else 0)
    - if p.debtor.participant = i then p.amount else 0

theorem Payment.SameTerms.netFor {p p' : Payment Amount} (h : p.SameTerms p')
    (i : ParticipantID) : p'.netFor i = p.netFor i := by
  rw [h]
  rfl

/-- What the payments with the given ids bring in for bank `i`, minus what they
take out. -/
def netOf (payments : GoMap PaymentID (Payment Amount)) (ids : List PaymentID)
    (i : ParticipantID) : Amount :=
  (ids.map fun pid => ((payments.lookup pid).map (·.netFor i)).getD 0).sum

/-- The position of bank `i`, 0 if it has none. -/
def position (net : GoMap ParticipantID Amount) (i : ParticipantID) : Amount :=
  (net.lookup i).getD 0

theorem netOf_congr {m m' : GoMap PaymentID (Payment Amount)}
    {ids : List PaymentID} (h : ∀ pid ∈ ids, m'.lookup pid = m.lookup pid)
    (i : ParticipantID) : netOf m' ids i = netOf m ids i := by
  rw [netOf, netOf, List.map_congr_left fun pid hpid => by rw [h pid hpid]]

theorem netOf_relabel {m m' : GoMap PaymentID (Payment Amount)}
    (h : Relabels m m') (ids : List PaymentID) (i : ParticipantID) :
    netOf m' ids i = netOf m ids i := by
  rw [netOf, netOf]
  refine congrArg List.sum (List.map_congr_left fun pid _ => ?_)
  rcases h pid with ⟨hm, hm'⟩ | ⟨p, p', hm, hm', hterms⟩
  · rw [hm, hm']
  · rw [hm, hm', Option.map_some, Option.map_some, hterms.netFor]

namespace Network

/-! ## Netting -/

theorem position_addPosition (net : GoMap ParticipantID Amount)
    (i j : ParticipantID) (delta : Amount) :
    position (addPosition net j delta) i
      = position net i + if j = i then delta else 0 := by
  rw [position, addPosition, Finmap.lookup_insert_ite]
  by_cases h : i = j
  · subst h
    rw [if_pos rfl, if_pos rfl]
    rfl
  · rw [if_neg h, if_neg (Ne.symm h), add_zero]
    rfl

theorem sum_addPosition (net : GoMap ParticipantID Amount) (j : ParticipantID)
    (delta : Amount) :
    ((addPosition net j delta).sum fun _ v => v) = (net.sum fun _ v => v) + delta := by
  rw [addPosition]
  cases h : net.lookup j with
  | none =>
    rw [Finmap.sum_insert _ h, add_comm]
    simp
  | some v =>
    rw [Finmap.sum_update _ h, Option.getD_some]
    abel

theorem mem_addPosition {net : GoMap ParticipantID Amount} {i j : ParticipantID}
    {delta : Amount} (h : i ∈ addPosition net j delta) : i = j ∨ i ∈ net :=
  Finmap.mem_insert.mp h

theorem position_netPayment (net : GoMap ParticipantID Amount) (p : Payment Amount)
    (i : ParticipantID) :
    position (netPayment net p) i = position net i + p.netFor i := by
  rw [netPayment, position_addPosition, position_addPosition, Payment.netFor]
  split <;> split <;> abel

theorem sum_netPayment (net : GoMap ParticipantID Amount) (p : Payment Amount) :
    ((netPayment net p).sum fun _ v => v) = net.sum fun _ v => v := by
  rw [netPayment, sum_addPosition, sum_addPosition]
  abel

theorem position_netPayments (payments : GoMap PaymentID (Payment Amount))
    (net : GoMap ParticipantID Amount) (ids : List PaymentID) (i : ParticipantID) :
    position (netPayments payments net ids) i
      = position net i + netOf payments ids i := by
  induction ids generalizing net with
  | nil => simp [netPayments, netOf]
  | cons pid ids ih =>
    rw [netPayments, List.foldl_cons, ← netPayments, ih, netOf, netOf,
      List.map_cons, List.sum_cons]
    cases payments.lookup pid with
    | none => simp
    | some p =>
      rw [position_netPayment, Option.map_some, Option.getD_some, add_assoc]

theorem sum_netPayments (payments : GoMap PaymentID (Payment Amount))
    (net : GoMap ParticipantID Amount) (ids : List PaymentID) :
    ((netPayments payments net ids).sum fun _ v => v) = net.sum fun _ v => v := by
  induction ids generalizing net with
  | nil => rfl
  | cons pid ids ih =>
    rw [netPayments, List.foldl_cons, ← netPayments, ih]
    cases payments.lookup pid with
    | none => rfl
    | some p => exact sum_netPayment net p

/-- Only banks of the payments get a position. -/
theorem mem_netPayments {payments : GoMap PaymentID (Payment Amount)}
    {net : GoMap ParticipantID Amount} {ids : List PaymentID} {i : ParticipantID}
    (h : i ∈ netPayments payments net ids) :
    i ∈ net ∨ ∃ pid p, payments.lookup pid = some p ∧
      (i = p.debtor.participant ∨ i = p.creditor.participant) := by
  induction ids generalizing net with
  | nil => exact .inl h
  | cons pid ids ih =>
    rw [netPayments, List.foldl_cons, ← netPayments] at h
    rcases ih h with h | h
    · cases hp : payments.lookup pid with
      | none =>
        rw [hp] at h
        exact .inl h
      | some p =>
        rw [hp] at h
        rcases mem_addPosition h with rfl | h
        · exact .inr ⟨pid, p, hp, .inr rfl⟩
        · rcases mem_addPosition h with rfl | h
          · exact .inr ⟨pid, p, hp, .inl rfl⟩
          · exact .inl h
    · exact .inr h

/-! ## The invariant -/

/-- The net positions of every cycle. -/
structure Positions (s : Network Amount) : Prop where
  keys : ∀ id c, s.cycles.lookup id = some c →
    ∀ i ∈ c.netPositions, i ∈ s.participants
  netting : ∀ id c, s.cycles.lookup id = some c → c.status ≠ .open →
    ∀ i, position c.netPositions i = netOf s.payments c.paymentIDs i
  total : ∀ id c, s.cycles.lookup id = some c →
    (c.netPositions.sum fun _ v => v) = 0

namespace Positions

variable {s s' : Network Amount}

/-- Banks may grow and payments be relabeled. -/
theorem relabel (h : s.Positions) (hg : s.Grows s')
    (hpay : Relabels s.payments s'.payments) (hcyc : s'.cycles = s.cycles) :
    s'.Positions where
  keys id c hc i hi := hg.mem (h.keys id c (hcyc ▸ hc) i hi)
  netting id c hc hst i := by
    rw [netOf_relabel hpay]
    exact h.netting id c (hcyc ▸ hc) hst i
  total id c hc := h.total id c (hcyc ▸ hc)

/-- Where an open cycle is overwritten by an open one, its positions are not in
question yet. -/
theorem overwrite_open (h : s.Positions) (hg : s.Grows s') {id : CycleID}
    {c : ClearingCycle Amount} (hc : s.cycles.lookup id = some c)
    (c' : ClearingCycle Amount) (hnet : c'.netPositions = c.netPositions)
    (hopen : c'.status = .open)
    (hcyc : s'.cycles = s.cycles.insert id c')
    (hpay : ∀ k d, s.cycles.lookup k = some d → ∀ i,
      netOf s'.payments d.paymentIDs i = netOf s.payments d.paymentIDs i) :
    s'.Positions := by
  have hlook : ∀ {k d}, s'.cycles.lookup k = some d ↔
      (k = id ∧ d = c') ∨ (k ≠ id ∧ s.cycles.lookup k = some d) := by
    rw [hcyc]
    exact Finmap.lookup_insert_eq_some
  refine ⟨?_, ?_, ?_⟩
  · -- keys
    intro k d hd i hi
    rcases hlook.mp hd with ⟨-, rfl⟩ | ⟨-, hd⟩
    · exact hg.mem (h.keys id c hc i (hnet ▸ hi))
    · exact hg.mem (h.keys k d hd i hi)
  · -- netting: the overwritten cycle is open
    intro k d hd hst i
    rcases hlook.mp hd with ⟨-, rfl⟩ | ⟨-, hd⟩
    · exact absurd hopen hst
    · rw [hpay k d hd]
      exact h.netting k d hd hst i
  · -- total
    intro k d hd
    rcases hlook.mp hd with ⟨-, rfl⟩ | ⟨-, hd⟩
    · rw [hnet]
      exact h.total id c hc
    · exact h.total k d hd

theorem withCycle [LT Amount] (h : s.Positions) (hr : s.Records) {now : Time}
    {sc : SchemeID} : (s.withCycle (s.newCycle now sc)).Positions := by
  have hfresh : s.cycles.lookup (s.newCycle now sc).id = none := hr.fresh_cycle
  have hlook : ∀ {k c}, (s.withCycle (s.newCycle now sc)).cycles.lookup k = some c ↔
      (k = (s.newCycle now sc).id ∧ c = s.newCycle now sc) ∨
        s.cycles.lookup k = some c :=
    Finmap.lookup_insert_fresh hfresh
  refine ⟨?_, ?_, ?_⟩
  · -- keys
    intro k d hd i hi
    rcases hlook.mp hd with ⟨-, rfl⟩ | hd
    · exact absurd hi Finmap.notMem_empty
    · exact h.keys k d hd i hi
  · -- netting: an open cycle has no positions yet
    intro k d hd hst i
    rcases hlook.mp hd with ⟨-, rfl⟩ | hd
    · exact absurd rfl hst
    · exact h.netting k d hd hst i
  · -- total
    intro k d hd
    rcases hlook.mp hd with ⟨-, rfl⟩ | hd
    · rfl
    · exact h.total k d hd

/-- `CloseCycle` computes the positions. -/
theorem withClosed [LT Amount] (h : s.Positions) (hr : s.Records) {now : Time}
    {id : CycleID} {c : ClearingCycle Amount} :
    (s.withClosed now id c).Positions := by
  have hlook : ∀ {k d}, (s.withClosed now id c).cycles.lookup k = some d ↔
      (k = id ∧ d = s.closedCycle now c) ∨ (k ≠ id ∧ s.cycles.lookup k = some d) :=
    Finmap.lookup_insert_eq_some
  have hnet : ∀ ids i, netOf (s.withClosed now id c).payments ids i
      = netOf s.payments ids i :=
    netOf_relabel (.markCleared c.paymentIDs s.payments)
  refine ⟨?_, ?_, ?_⟩
  · -- keys: the positions name parties of stored payments
    intro k d hd i hi
    show i ∈ s.participants
    rcases hlook.mp hd with ⟨-, rfl⟩ | ⟨-, hd⟩
    · rcases mem_netPayments hi with hi | ⟨pid, p, hp, rfl | rfl⟩
      · exact absurd hi Finmap.notMem_empty
      · obtain ⟨b, a, hparty⟩ := hr.debtor pid p hp
        exact Finmap.mem_of_lookup_eq_some hparty.bank
      · obtain ⟨b, a, hparty⟩ := hr.creditor pid p hp
        exact Finmap.mem_of_lookup_eq_some hparty.bank
    · exact h.keys k d hd i hi
  · -- netting: as computed, for the cycle that is closed
    intro k d hd hst i
    rw [hnet]
    rcases hlook.mp hd with ⟨-, rfl⟩ | ⟨-, hd⟩
    · show position (netPayments s.payments ∅ c.paymentIDs) i = _
      rw [position_netPayments, position, Finmap.lookup_empty, Option.getD_none,
        zero_add]
      rfl
    · exact h.netting k d hd hst i
  · -- total
    intro k d hd
    rcases hlook.mp hd with ⟨-, rfl⟩ | ⟨-, hd⟩
    · show ((netPayments s.payments ∅ c.paymentIDs).sum fun _ v => v) = 0
      rw [sum_netPayments, Finmap.sum_empty]
    · exact h.total k d hd

theorem withSettlement (h : s.Positions) {id : CycleID} {c : ClearingCycle Amount}
    {st : Settlement Amount} (hc : s.cycles.lookup id = some c)
    (hclosed : c.status = .closed) : (s.withSettlement id c st).Positions := by
  have hlook : ∀ {k d}, (s.withSettlement id c st).cycles.lookup k = some d ↔
      (k = id ∧ d = { c with status := .settled, settlementID := some st.id }) ∨
        (k ≠ id ∧ s.cycles.lookup k = some d) :=
    Finmap.lookup_insert_eq_some
  have hne : c.status ≠ .open := by simp [hclosed]
  refine ⟨?_, ?_, ?_⟩
  · -- keys
    intro k d hd i hi
    rcases hlook.mp hd with ⟨-, rfl⟩ | ⟨-, hd⟩
    · exact h.keys id c hc i hi
    · exact h.keys k d hd i hi
  · -- netting
    intro k d hd hst i
    rcases hlook.mp hd with ⟨-, rfl⟩ | ⟨-, hd⟩
    · exact h.netting id c hc hne i
    · exact h.netting k d hd hst i
  · -- total
    intro k d hd
    rcases hlook.mp hd with ⟨-, rfl⟩ | ⟨-, hd⟩
    · exact h.total id c hc
    · exact h.total k d hd

theorem withPayment [LinearOrder Amount] (h : s.Positions) (hr : s.Records)
    (hcyc : s.Cycles) {now : Time} {req : InitiatePaymentRequest Amount}
    {scheme : Scheme} {cycleID : CycleID} {cycle : ClearingCycle Amount}
    {debtor : Participant Amount} {acct : Deposit.Account Amount}
    (hi : s.Initiates now req scheme cycleID cycle debtor acct) :
    (s.withPayment now req scheme cycleID cycle debtor acct.glAccount).Positions := by
  obtain ⟨c, hc, -, hopen⟩ := (hcyc.open_iff _ _).mp hi.cycle_open
  cases hi.cycle_stored.symm.trans hc
  refine h.overwrite_open (Grows.posted hi.debtor_exists.bank now _) hi.cycle_stored
    { cycle with paymentIDs := cycle.paymentIDs
      ++ [(s.acceptedPayment now req scheme cycleID debtor acct.glAccount).id] }
    rfl hopen rfl ?_
  intro k d hd i
  refine netOf_congr (fun pid hpid => Finmap.lookup_insert_of_ne _ ?_) i
  rintro rfl
  -- the new payment is in no cycle yet
  obtain ⟨q, hq, -⟩ := (hcyc.members k d hd _).mp hpid
  exact absurd (hr.fresh_payment.symm.trans hq) (by simp)

theorem withRejected [LT Amount] (h : s.Positions) {now : Time} {id : PaymentID}
    {p : Payment Amount} {reason : String} {debtor : Participant Amount}
    {txID : Ledger.TransactionID} {original : Ledger.Transaction Amount}
    {c : ClearingCycle Amount} (hc : s.cycles.lookup p.cycleID = some c)
    (hopen : c.status = .open) (hp : s.payments.lookup id = some p)
    (hb : s.participants.lookup p.debtor.participant = some debtor) :
    (s.withRejected now id p reason debtor txID original).Positions := by
  rw [withRejected_eq hc]
  refine h.overwrite_open (Grows.setParticipant hb (.withLedger debtor _)) hc
    { c with paymentIDs := c.paymentIDs.filter (· ≠ p.id) } rfl hopen rfl ?_
  have hterms : p.SameTerms { p with status := .rejected, rejectReason := reason } :=
    rfl
  -- a rejection keeps the terms, and only those are netted
  intro k d _ i
  exact netOf_relabel (.insert hp hterms) d.paymentIDs i

end Positions

end Network

end CoreBanking.Payment
