import CoreBanking.Payment.Balances

/-!
# The netting of a cycle

`CloseCycle` computes the net positions of a cycle once, at the cut-off, and
`SettleCycle` uses them later. In every state that a run of calls reaches they are
still the netting of the payments the cycle lists (`netting_reached`), as no call in
between changes these payments or their amounts and parties.
-/

namespace CoreBanking.Payment

namespace Network

variable {Amount : Type} [AddCommGroup Amount]

/-- What the payments with the given ids pay to customers of bank `i`. -/
def creditedTo (s : Network Amount) (ids : List PaymentID) (i : ParticipantID) :
    Amount :=
  (ids.map fun pid => ((s.payments.lookup pid).map fun p =>
    if p.creditor.participant = i then p.amount else 0).getD 0).sum

/-- What they take from customers of bank `i`. -/
def debitedFrom (s : Network Amount) (ids : List PaymentID) (i : ParticipantID) :
    Amount :=
  (ids.map fun pid => ((s.payments.lookup pid).map fun p =>
    if p.debtor.participant = i then p.amount else 0).getD 0).sum

theorem netOf_eq_sub (s : Network Amount) (ids : List PaymentID) (i : ParticipantID) :
    netOf s.payments ids i = s.creditedTo ids i - s.debitedFrom ids i := by
  induction ids with
  | nil => simp [netOf, creditedTo, debitedFrom]
  | cons pid ids ih =>
    rw [netOf, creditedTo, debitedFrom] at ih ⊢
    rw [List.map_cons, List.map_cons, List.map_cons, List.sum_cons, List.sum_cons,
      List.sum_cons, ih]
    cases s.payments.lookup pid with
    | none => simp
    | some p =>
      rw [Option.map_some, Option.map_some, Option.map_some, Option.getD_some,
        Option.getD_some, Option.getD_some, Payment.netFor]
      abel

/-- The positions of a cycle, summed over all banks. -/
theorem Positions.sum_position {s : Network Amount} (h : s.Positions) {id : CycleID}
    {c : ClearingCycle Amount} (hc : s.cycles.lookup id = some c) :
    (s.participants.sum fun i _ => position c.netPositions i) = 0 := by
  have hsum := Finmap.sum_getD c.netPositions s.participants (h.keys id c hc)
  exact hsum.trans (h.total id c hc)

variable [LinearOrder Amount]

/-- **Netting.** In every state reached from a new network, the positions of a
closed or settled cycle are what its payments bring in for each bank minus what they
take out, they sum to zero over all banks, they name banks only, and the settlement
made of them balances in whatever order they are visited. -/
theorem netting_reached (start : Clock) (steps : List (Clock × Op Amount))
    (id : CycleID) (c : ClearingCycle Amount)
    (hc : (reached start steps).cycles.lookup id = some c)
    (hst : c.status = .closed ∨ c.status = .settled) :
    let s := reached start steps
    (∀ i, (c.netPositions.lookup i).getD 0
      = s.creditedTo c.paymentIDs i - s.debitedFrom c.paymentIDs i) ∧
    (s.participants.sum fun i _ => (c.netPositions.lookup i).getD 0) = 0 ∧
    (∀ i ∈ c.netPositions, i ∈ s.participants) ∧
    ∀ order : MapOrder ParticipantID Amount, ∃ entries,
      (order.toList c.netPositions).foldlM s.addSettlementEntry [] = .ok entries ∧
        Ledger.ValidateBalance entries := by
  intro s
  have h : s.WF := wf_reached start steps
  have hkeys := h.positions.keys id c hc
  refine ⟨fun i => ?_, h.positions.sum_position hc, hkeys, fun order => ?_⟩
  · have hclosed : c.status ≠ .open := by
      rcases hst with hst | hst <;> simp [hst]
    rw [← netOf_eq_sub]
    exact h.positions.netting id c hc hclosed i
  · refine ⟨_, foldlM_addSettlementEntry ?_ [], h.toCore.settle_balanced hc order⟩
    intro d hd
    exact hkeys d.1 (Finmap.mem_of_lookup_eq_some (order.mem_toList.mp hd))

/-- Alice's bank owes 25 after the first cycle of a busy day. -/
theorem netting_busyDay : ∃ c,
    (reached noon busyDay).cycles.lookup ⟨"cyc_3"⟩ = some c ∧
      c.netPositions.lookup ⟨"bank_1"⟩ = some (-25) ∧
      (-25 : ℤ) = (reached noon busyDay).creditedTo c.paymentIDs ⟨"bank_1"⟩
        - (reached noon busyDay).debitedFrom c.paymentIDs ⟨"bank_1"⟩ := by
  obtain ⟨c, hc⟩ := Option.isSome_iff_exists.mp (show
    ((reached noon busyDay).cycles.lookup ⟨"cyc_3"⟩).isSome by decide +kernel)
  have hstatus : ((reached noon busyDay).cycles.lookup ⟨"cyc_3"⟩).map (·.status)
      = some .settled := by decide +kernel
  have hnet : ((reached noon busyDay).cycles.lookup ⟨"cyc_3"⟩).map
      (·.netPositions.lookup ⟨"bank_1"⟩) = some (some (-25)) := by decide +kernel
  rw [hc, Option.map_some, Option.some.injEq] at hstatus hnet
  obtain ⟨hpositions, -⟩ := netting_reached noon busyDay ⟨"cyc_3"⟩ c hc (.inr hstatus)
  refine ⟨c, hc, hnet, ?_⟩
  rw [← hpositions, hnet, Option.getD_some]

end Network

end CoreBanking.Payment
