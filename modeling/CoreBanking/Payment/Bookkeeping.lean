import CoreBanking.Payment.Invariant

/-!
# Cycles and payments agree

`Consistent` says how the four indexes of a network (payments, cycles, open
cycles and settlements) fit together. It holds in every state that a run of
calls reaches, calls that fail included (`consistent_reached`), and it is why
`CloseCycle` never fails half way.

The results hold for amounts in any ordered type with a group structure, so for
exact integers and for 64-bit ones alike.
-/

namespace CoreBanking.Payment

namespace Network

variable {Amount : Type}

/-- The indexes of a network agree. -/
structure Consistent (s : Network Amount) : Prop where
  /-- The open cycle of a scheme is the cycle of that scheme which is open. -/
  open_iff : ∀ sc id, s.openCycle.lookup sc = some id ↔
    ∃ c, s.cycles.lookup id = some c ∧ c.scheme = sc ∧ c.status = .open
  open_unique : ∀ id id' c c', s.cycles.lookup id = some c →
    s.cycles.lookup id' = some c' → c.status = .open → c'.status = .open →
    c.scheme = c'.scheme → id = id'
  /-- A cycle lists its payments, each once, without the rejected ones. -/
  nodup : ∀ id c, s.cycles.lookup id = some c → c.paymentIDs.Nodup
  members : ∀ id c, s.cycles.lookup id = some c → ∀ pid, pid ∈ c.paymentIDs ↔
    ∃ p, s.payments.lookup pid = some p ∧ p.cycleID = id ∧ p.status ≠ .rejected
  /-- The status of a cycle is that of its payments. -/
  accepted : ∀ id c, s.cycles.lookup id = some c → c.status = .open →
    ∀ pid ∈ c.paymentIDs, ∀ p, s.payments.lookup pid = some p → p.status = .accepted
  cleared : ∀ id c, s.cycles.lookup id = some c → c.status = .closed →
    ∀ pid ∈ c.paymentIDs, ∀ p, s.payments.lookup pid = some p → p.status = .cleared
  settled : ∀ id c, s.cycles.lookup id = some c → c.status = .settled →
    ∀ pid ∈ c.paymentIDs, ∀ p, s.payments.lookup pid = some p →
      p.status = .settled ∨ p.status = .returned
  scheme : ∀ pid p, s.payments.lookup pid = some p →
    ∃ c, s.cycles.lookup p.cycleID = some c ∧ p.scheme = c.scheme
  /-- A cycle is settled if there is a settlement of it, which it names. -/
  settlement_iff : ∀ id c, s.cycles.lookup id = some c → (c.status = .settled ↔
    ∃ sid st, s.settlements.lookup sid = some st ∧ st.cycleID = id)
  settlement_unique : ∀ sid sid' st st', s.settlements.lookup sid = some st →
    s.settlements.lookup sid' = some st' → st.cycleID = st'.cycleID → sid = sid'
  settlement_named : ∀ sid st, s.settlements.lookup sid = some st → st.id = sid ∧
    ∃ c, s.cycles.lookup st.cycleID = some c ∧ c.settlementID = some st.id

/-- The invariant of a network gives consistency. -/
theorem Cycles.consistent {s : Network Amount} (h : s.Cycles) (hfit : s.StatusesFit) :
    s.Consistent where
  open_iff := h.open_iff
  open_unique id id' c c' hc hc' := h.open_unique hc hc'
  nodup := h.nodup
  members := h.members
  accepted id c hc hst pid hpid p hp := by
    have hfits := hfit id c hc pid hpid p hp
    rw [hst] at hfits
    exact hfits
  cleared id c hc hst pid hpid p hp := by
    have hfits := hfit id c hc pid hpid p hp
    rw [hst] at hfits
    exact hfits
  settled id c hc hst pid hpid p hp := by
    have hfits := hfit id c hc pid hpid p hp
    rw [hst] at hfits
    exact hfits
  scheme := h.scheme
  settlement_iff id c hc := by
    constructor
    · exact h.settled id c hc
    · rintro ⟨sid, st, hst, rfl⟩
      obtain ⟨-, d, hd, hsettled, -⟩ := h.settlement sid st hst
      cases hc.symm.trans hd
      exact hsettled
  settlement_unique sid sid' st st' hst hst' heq := by
    obtain ⟨-, c, hc, -, hid⟩ := h.settlement sid st hst
    obtain ⟨-, d, hd, -, hid'⟩ := h.settlement sid' st' hst'
    rw [heq] at hc
    cases hc.symm.trans hd
    exact Option.some.inj (hid.symm.trans hid')
  settlement_named sid st hst := by
    obtain ⟨rfl, c, hc, -, hid⟩ := h.settlement sid st hst
    exact ⟨rfl, c, hc, hid⟩

variable [AddCommGroup Amount] [LinearOrder Amount]

/-- **Bookkeeping.** In every state reached from a new network the indexes
agree; a call of `CloseCycle` on an open cycle succeeds there, and one that
fails has changed nothing. -/
theorem consistent_reached (start : Clock) (steps : List (Clock × Op Amount)) :
    (reached start steps).Consistent ∧
    (∀ now id c, (reached start steps).cycles.lookup id = some c → c.status = .open →
      ∃ c' s', closeCycle now id (reached start steps) = .ok c' s') ∧
    ∀ now id e s', closeCycle now id (reached start steps) = .error e s' →
      s' = reached start steps := by
  have h := wf_reached start steps
  refine ⟨h.cycles.consistent h.fit, ?_, ?_⟩
  · intro now id c hc hopen
    rcases closeCycle_cases h.open_accepted now id with ⟨e, -, hno⟩ | ⟨d, -, -, hok⟩
    · exact absurd hopen (hno c hc)
    · exact ⟨_, _, hok⟩
  · intro now id e s' he
    rcases closeCycle_cases h.open_accepted now id with ⟨e', he', -⟩ | ⟨d, -, -, hok⟩
    · rw [he'] at he
      cases he
      rfl
    · rw [hok] at he
      cases he

end Network

end CoreBanking.Payment
