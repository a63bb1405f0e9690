import CoreBanking.Payment.Records

/-!
# Cycles and their payments

`Network.Cycles` relates the four indexes of the network: the open cycle of
each scheme, the payments of each cycle, and the settlement of each settled
cycle. `Network.StatusesFit` says that the payments of a cycle have the status
that the status of the cycle calls for.

The two are kept apart because the last loop of `SettleCycle` breaks the second
until it is through, and never the first.
-/

namespace CoreBanking.Payment

open Ledger (Book PostTransactionRequest)

/-- The statuses of the payments of a cycle. -/
def Fits : CycleStatus → PaymentStatus → Prop
  | .open, st => st = .accepted
  | .closed, st => st = .cleared
  | .settled, st => st = .settled ∨ st = .returned

namespace Network

variable {Amount : Type}

/-- The payment is one of cycle `id`, and it was not rejected. -/
def InCycle (s : Network Amount) (id : CycleID) (pid : PaymentID) : Prop :=
  ∃ p, s.payments.lookup pid = some p ∧ p.cycleID = id ∧ p.status ≠ .rejected

/-- The indexes of the network agree. -/
structure Cycles (s : Network Amount) : Prop where
  open_iff : ∀ sc id, s.openCycle.lookup sc = some id ↔
    ∃ c, s.cycles.lookup id = some c ∧ c.scheme = sc ∧ c.status = .open
  nodup : ∀ id c, s.cycles.lookup id = some c → c.paymentIDs.Nodup
  members : ∀ id c, s.cycles.lookup id = some c →
    ∀ pid, pid ∈ c.paymentIDs ↔ s.InCycle id pid
  scheme : ∀ pid p, s.payments.lookup pid = some p →
    ∃ c, s.cycles.lookup p.cycleID = some c ∧ p.scheme = c.scheme
  settlementIDs : KeysUpTo SettlementID.mk "set" s.idCounter s.settlements
  settlement : ∀ sid st, s.settlements.lookup sid = some st → st.id = sid ∧
    ∃ c, s.cycles.lookup st.cycleID = some c ∧ c.status = .settled ∧
      c.settlementID = some sid
  settled : ∀ id c, s.cycles.lookup id = some c → c.status = .settled →
    ∃ sid st, s.settlements.lookup sid = some st ∧ st.cycleID = id

/-- The payments of every cycle have the status its status calls for. -/
def StatusesFit (s : Network Amount) : Prop :=
  ∀ id c, s.cycles.lookup id = some c → ∀ pid ∈ c.paymentIDs,
    ∀ p, s.payments.lookup pid = some p → Fits c.status p.status

namespace Cycles

variable {s s' : Network Amount}

/-- The open cycles are stored. -/
theorem open_stored (h : s.Cycles) (sc : SchemeID) (id : CycleID)
    (hopen : s.openCycle.lookup sc = some id) : id ∈ s.cycles := by
  obtain ⟨c, hc, -, -⟩ := (h.open_iff sc id).mp hopen
  exact Finmap.mem_of_lookup_eq_some hc

/-- A scheme has at most one open cycle. -/
theorem open_unique (h : s.Cycles) {id id' : CycleID}
    {c c' : ClearingCycle Amount} (hc : s.cycles.lookup id = some c)
    (hc' : s.cycles.lookup id' = some c') (hopen : c.status = .open)
    (hopen' : c'.status = .open) (hscheme : c.scheme = c'.scheme) : id = id' := by
  have h1 := (h.open_iff c.scheme id).mpr ⟨c, hc, rfl, hopen⟩
  have h2 := (h.open_iff c.scheme id').mpr ⟨c', hc', hscheme.symm, hopen'⟩
  rw [h1] at h2
  cases h2
  rfl

/-- Relabeling payments does not move them between cycles. -/
theorem inCycle_relabel (hpay : Relabels s.payments s'.payments)
    (hstatus : ∀ k p p', s.payments.lookup k = some p →
      s'.payments.lookup k = some p' → (p'.status = .rejected ↔ p.status = .rejected))
    (id : CycleID) (pid : PaymentID) : s'.InCycle id pid ↔ s.InCycle id pid := by
  constructor
  · rintro ⟨p', hp', hid, hst⟩
    obtain ⟨p, hp, hterms⟩ := hpay.origin hp'
    rw [hterms] at hid
    exact ⟨p, hp, hid, fun hrej => hst ((hstatus pid p p' hp hp').mpr hrej)⟩
  · rintro ⟨p, hp, hid, hst⟩
    obtain ⟨p', hp', hterms⟩ := hpay.kept hp
    refine ⟨p', hp', ?_, fun hrej => hst ((hstatus pid p p' hp hp').mp hrej)⟩
    rw [hterms]
    exact hid

/-- A payment may change its status, unless it becomes or was rejected. -/
theorem relabel (h : s.Cycles) (hpay : Relabels s.payments s'.payments)
    (hstatus : ∀ k p p', s.payments.lookup k = some p →
      s'.payments.lookup k = some p' → (p'.status = .rejected ↔ p.status = .rejected))
    (hcyc : s'.cycles = s.cycles) (hopen : s'.openCycle = s.openCycle)
    (hset : s'.settlements = s.settlements) (hle : s.idCounter ≤ s'.idCounter) :
    s'.Cycles where
  open_iff := hopen ▸ hcyc ▸ h.open_iff
  nodup := hcyc ▸ h.nodup
  members id c hc pid := by
    rw [inCycle_relabel hpay hstatus id pid]
    exact h.members id c (hcyc ▸ hc) pid
  scheme pid p' hp' := by
    obtain ⟨p, hp, hterms⟩ := hpay.origin hp'
    rw [hterms, hcyc]
    exact h.scheme pid p hp
  settlementIDs := hset ▸ h.settlementIDs.mono hle
  settlement := hcyc ▸ hset ▸ h.settlement
  settled := hcyc ▸ hset ▸ h.settled

/-! ## Opening a cycle -/

section Open

variable [Zero Amount] [LT Amount]

theorem withCycle (h : s.Cycles) (hr : s.Records) {now : Time} {sc : SchemeID}
    (hno : s.openCycle.lookup sc = none) :
    (s.withCycle (s.newCycle now sc)).Cycles := by
  have hfresh : s.cycles.lookup (s.newCycle now sc).id = none := hr.fresh_cycle
  have hlook : ∀ {k c}, (s.withCycle (s.newCycle now sc)).cycles.lookup k = some c ↔
      (k = (s.newCycle now sc).id ∧ c = s.newCycle now sc) ∨
        s.cycles.lookup k = some c :=
    Finmap.lookup_insert_fresh hfresh
  have hopen : ∀ sc', (s.withCycle (s.newCycle now sc)).openCycle.lookup sc'
      = if sc' = sc then some (s.newCycle now sc).id else s.openCycle.lookup sc' :=
    fun sc' => Finmap.lookup_insert_ite ..
  refine
    { open_iff := ?_, nodup := ?_, members := ?_, scheme := ?_,
      settlementIDs := h.settlementIDs.mono (Nat.le_succ _)
      settlement := ?_, settled := ?_ }
  · -- open_iff: the new cycle is the open one of its scheme
    intro sc' id
    rw [hopen]
    by_cases hsc : sc' = sc
    · subst hsc
      rw [if_pos rfl]
      constructor
      · intro heq
        cases heq
        exact ⟨_, hlook.mpr (.inl ⟨rfl, rfl⟩), rfl, rfl⟩
      · rintro ⟨c, hc, hscheme, hstatus⟩
        rcases hlook.mp hc with ⟨rfl, -⟩ | hc
        · rfl
        · -- the scheme had no open cycle
          have := (h.open_iff sc' id).mpr ⟨c, hc, hscheme, hstatus⟩
          rw [hno] at this
          cases this
    · rw [if_neg hsc, h.open_iff]
      constructor
      · rintro ⟨c, hc, hrest⟩
        exact ⟨c, hlook.mpr (.inr hc), hrest⟩
      · rintro ⟨c, hc, hscheme, hstatus⟩
        rcases hlook.mp hc with ⟨-, rfl⟩ | hc
        · exact absurd hscheme (Ne.symm hsc)
        · exact ⟨c, hc, hscheme, hstatus⟩
  · -- nodup
    intro id c hc
    rcases hlook.mp hc with ⟨-, rfl⟩ | hc
    · exact List.nodup_nil
    · exact h.nodup id c hc
  · -- members
    intro id c hc pid
    rcases hlook.mp hc with ⟨rfl, rfl⟩ | hc
    · -- no payment names the new cycle
      refine iff_of_false List.not_mem_nil ?_
      rintro ⟨p, hp, hid, -⟩
      obtain ⟨c, hc, -⟩ := h.scheme pid p hp
      rw [hid, hfresh] at hc
      cases hc
    · exact h.members id c hc pid
  · -- scheme
    intro pid p hp
    obtain ⟨c, hc, hscheme⟩ := h.scheme pid p hp
    exact ⟨c, hlook.mpr (.inr hc), hscheme⟩
  · -- settlement
    intro sid st hst
    obtain ⟨hid, c, hc, hrest⟩ := h.settlement sid st hst
    exact ⟨hid, c, hlook.mpr (.inr hc), hrest⟩
  · -- settled: the new cycle is not
    intro id c hc hstatus
    rcases hlook.mp hc with ⟨-, rfl⟩ | hc
    · cases hstatus
    · exact h.settled id c hc hstatus

end Open

/-! ## Overwriting a cycle -/

/-- One unsettled cycle may be overwritten, as long as its payments are those
that name it. -/
theorem overwrite (h : s.Cycles) {id : CycleID} {c : ClearingCycle Amount}
    (hc : s.cycles.lookup id = some c) (c' : ClearingCycle Amount) (hscheme : c'.scheme = c.scheme)
    (hunsettled : c.status ≠ .settled) (hunsettled' : c'.status ≠ .settled)
    (hcyc : s'.cycles = s.cycles.insert id c')
    (hset : s'.settlements = s.settlements) (hle : s.idCounter ≤ s'.idCounter)
    (hopen : ∀ sc k, s'.openCycle.lookup sc = some k ↔
      if k = id then sc = c.scheme ∧ c'.status = .open
      else s.openCycle.lookup sc = some k)
    (hnodup : c'.paymentIDs.Nodup)
    (hmembers : ∀ pid, pid ∈ c'.paymentIDs ↔ s'.InCycle id pid)
    (hothers : ∀ k, k ≠ id → ∀ pid, s'.InCycle k pid ↔ s.InCycle k pid)
    (hpay : ∀ pid p', s'.payments.lookup pid = some p' →
      (∃ p, s.payments.lookup pid = some p ∧ p'.cycleID = p.cycleID ∧
        p'.scheme = p.scheme) ∨ (p'.cycleID = id ∧ p'.scheme = c.scheme)) :
    s'.Cycles := by
  have hlook : ∀ {k d}, s'.cycles.lookup k = some d ↔
      (k = id ∧ d = c') ∨ (k ≠ id ∧ s.cycles.lookup k = some d) := by
    rw [hcyc]
    exact Finmap.lookup_insert_eq_some
  refine
    { open_iff := ?_, nodup := ?_, members := ?_, scheme := ?_,
      settlementIDs := hset ▸ h.settlementIDs.mono hle
      settlement := ?_, settled := ?_ }
  · -- open_iff: `hopen` says what became of the overwritten cycle
    intro sc k
    rw [hopen]
    by_cases hk : k = id
    · subst hk
      rw [if_pos rfl]
      constructor
      · rintro ⟨hsc, hst⟩
        exact ⟨c', hlook.mpr (.inl ⟨rfl, rfl⟩), hscheme.trans hsc.symm, hst⟩
      · rintro ⟨d, hd, hsc, hst⟩
        rcases hlook.mp hd with ⟨-, rfl⟩ | ⟨hne, -⟩
        · exact ⟨hsc.symm.trans hscheme, hst⟩
        · exact absurd rfl hne
    · rw [if_neg hk, h.open_iff]
      constructor
      · rintro ⟨d, hd, hrest⟩
        exact ⟨d, hlook.mpr (.inr ⟨hk, hd⟩), hrest⟩
      · rintro ⟨d, hd, hrest⟩
        rcases hlook.mp hd with ⟨heq, -⟩ | ⟨-, hd⟩
        · exact absurd heq hk
        · exact ⟨d, hd, hrest⟩
  · -- nodup
    intro k d hd
    rcases hlook.mp hd with ⟨-, rfl⟩ | ⟨-, hd⟩
    · exact hnodup
    · exact h.nodup k d hd
  · -- members
    intro k d hd pid
    rcases hlook.mp hd with ⟨rfl, rfl⟩ | ⟨hk, hd⟩
    · exact hmembers pid
    · rw [h.members k d hd pid]
      exact (hothers k hk pid).symm
  · -- scheme: the cycle of a payment keeps its scheme when it is overwritten
    intro pid p' hp'
    rcases hpay pid p' hp' with ⟨p, hp, hid, hsc⟩ | ⟨hid, hsc⟩
    · obtain ⟨d, hd, hsc'⟩ := h.scheme pid p hp
      by_cases hk : p.cycleID = id
      · rw [hk] at hd
        cases hc.symm.trans hd
        exact ⟨c', hlook.mpr (.inl ⟨hid.trans hk, rfl⟩),
          (hsc.trans hsc').trans hscheme.symm⟩
      · rw [hid]
        exact ⟨d, hlook.mpr (.inr ⟨hk, hd⟩), hsc.trans hsc'⟩
    · exact ⟨c', hlook.mpr (.inl ⟨hid, rfl⟩), hsc.trans hscheme.symm⟩
  · -- settlement: a settlement is not of the overwritten cycle
    intro sid st hst
    obtain ⟨hid, d, hd, hst', hrest⟩ := h.settlement sid st (hset ▸ hst)
    refine ⟨hid, d, hlook.mpr (.inr ⟨?_, hd⟩), hst', hrest⟩
    rintro rfl
    cases hc.symm.trans hd
    exact hunsettled hst'
  · -- settled: the overwritten cycle is not
    intro k d hd hst
    rcases hlook.mp hd with ⟨-, rfl⟩ | ⟨-, hd⟩
    · exact absurd hst hunsettled'
    · rw [hset]
      exact h.settled k d hd hst

/-- The cycle of a payment that was not rejected lists it. -/
theorem mem_of_payment (h : s.Cycles) {pid : PaymentID} {p : Payment Amount}
    (hp : s.payments.lookup pid = some p) (hst : p.status ≠ .rejected) :
    ∃ c, s.cycles.lookup p.cycleID = some c ∧ pid ∈ c.paymentIDs := by
  obtain ⟨c, hc, -⟩ := h.scheme pid p hp
  exact ⟨c, hc, (h.members _ c hc pid).mpr ⟨p, hp, rfl, hst⟩⟩

/-- The open cycle of a scheme stays the only one when it is overwritten. -/
theorem open_overwrite (h : s.Cycles) {id : CycleID} {c c' : ClearingCycle Amount}
    (hc : s.cycles.lookup id = some c) (hopen : c.status = .open)
    (hopen' : c'.status = .open) (sc : SchemeID) (k : CycleID) :
    s.openCycle.lookup sc = some k ↔
      if k = id then sc = c.scheme ∧ c'.status = .open
      else s.openCycle.lookup sc = some k := by
  by_cases hk : k = id
  · subst hk
    rw [if_pos rfl, h.open_iff]
    constructor
    · rintro ⟨d, hd, hsc, -⟩
      cases hc.symm.trans hd
      exact ⟨hsc.symm, hopen'⟩
    · rintro ⟨hsc, -⟩
      exact ⟨c, hc, hsc.symm, hopen⟩
  · rw [if_neg hk]

/-! ## Closing a cycle -/

/-- Closing a cycle: its payments become cleared, and its scheme has no open
cycle any more. -/
theorem withClosed [AddCommGroup Amount] (h : s.Cycles) (hfit : s.StatusesFit)
    {now : Time} {id : CycleID} {c : ClearingCycle Amount}
    (hc : s.cycles.lookup id = some c) (hopen : c.status = .open) :
    (s.withClosed now id c).Cycles := by
  -- a cleared payment was accepted
  have hin : ∀ k pid, (s.withClosed now id c).InCycle k pid ↔ s.InCycle k pid := by
    refine inCycle_relabel (.markCleared c.paymentIDs s.payments) ?_
    intro k p p' hp hp'
    have hlk := lookup_markCleared c.paymentIDs s.payments k
    rw [hp, show (run markCleared s.payments c.paymentIDs).lookup k = some p' from hp']
      at hlk
    cases hlk
    split
    · next hmem =>
      have hfits := hfit id c hc k hmem p hp
      rw [hopen] at hfits
      have hst : p.status = .accepted := hfits
      simp [hst]
    · rfl
  refine h.overwrite hc (s.closedCycle now c) rfl (by simp [hopen])
    (by simp [closedCycle]) rfl rfl le_rfl ?_ (h.nodup id c hc) ?_ (fun k _ pid => hin k pid) ?_
  · intro sc k
    have hlook : (s.withClosed now id c).openCycle.lookup sc
        = if sc = c.scheme then none else s.openCycle.lookup sc :=
      Finmap.lookup_erase_ite ..
    rw [hlook]
    by_cases hk : k = id
    · subst hk
      rw [if_pos rfl]
      refine iff_of_false ?_ (by simp [closedCycle])
      split
      · simp
      · next hsc =>
        rw [h.open_iff]
        rintro ⟨d, hd, hsc', -⟩
        cases hc.symm.trans hd
        exact hsc hsc'.symm
    · rw [if_neg hk]
      split
      · next hsc =>
        refine iff_of_false (by simp) ?_
        rw [h.open_iff]
        rintro ⟨d, hd, hsc', hst⟩
        -- a scheme has one open cycle
        exact hk (h.open_unique hd hc hst hopen (hsc'.trans hsc))
      · rfl
  · intro pid
    rw [hin id pid]
    exact h.members id c hc pid
  · intro pid p' hp'
    obtain ⟨p, hp, hterms⟩ := (Relabels.markCleared c.paymentIDs s.payments).origin hp'
    rw [hterms]
    exact .inl ⟨p, hp, rfl, rfl⟩

/-! ## Settling a cycle -/

/-- Recording the settlement of a closed cycle. -/
theorem withSettlement (h : s.Cycles) {id : CycleID} {c : ClearingCycle Amount}
    {st : Settlement Amount} (hc : s.cycles.lookup id = some c)
    (hclosed : c.status = .closed)
    (hst : st.id = ⟨ident "set" (s.idCounter + 1)⟩) (hid : st.cycleID = id) :
    (s.withSettlement id c st).Cycles := by
  have hfresh : s.settlements.lookup st.id = none := by
    rw [hst]
    exact h.settlementIDs.fresh (fun _ _ => SettlementID.mk.inj) (Nat.lt_succ_self _)
  have hlook : ∀ {k d}, (s.withSettlement id c st).cycles.lookup k = some d ↔
      (k = id ∧ d = { c with status := .settled, settlementID := some st.id }) ∨
        (k ≠ id ∧ s.cycles.lookup k = some d) :=
    Finmap.lookup_insert_eq_some
  have hsets : ∀ {k d}, (s.withSettlement id c st).settlements.lookup k = some d ↔
      (k = st.id ∧ d = st) ∨ s.settlements.lookup k = some d :=
    Finmap.lookup_insert_fresh hfresh
  refine
    { open_iff := ?_, nodup := ?_, members := ?_, scheme := ?_,
      settlementIDs := ?_, settlement := ?_, settled := ?_ }
  · -- open_iff: the settled cycle was not open
    intro sc k
    show s.openCycle.lookup sc = some k ↔ _
    rw [h.open_iff]
    constructor
    · rintro ⟨d, hd, hsc, hstat⟩
      refine ⟨d, hlook.mpr (.inr ⟨?_, hd⟩), hsc, hstat⟩
      rintro rfl
      cases hc.symm.trans hd
      rw [hclosed] at hstat
      cases hstat
    · rintro ⟨d, hd, hsc, hstat⟩
      rcases hlook.mp hd with ⟨-, rfl⟩ | ⟨-, hd⟩
      · cases hstat
      · exact ⟨d, hd, hsc, hstat⟩
  · -- nodup
    intro k d hd
    rcases hlook.mp hd with ⟨-, rfl⟩ | ⟨-, hd⟩
    · exact h.nodup id c hc
    · exact h.nodup k d hd
  · -- members
    intro k d hd pid
    rcases hlook.mp hd with ⟨rfl, rfl⟩ | ⟨-, hd⟩
    · exact h.members k c hc pid
    · exact h.members k d hd pid
  · -- scheme
    intro pid p hp
    obtain ⟨d, hd, hsc⟩ := h.scheme pid p hp
    by_cases hk : p.cycleID = id
    · rw [hk] at hd
      cases hc.symm.trans hd
      exact ⟨_, hlook.mpr (.inl ⟨hk, rfl⟩), hsc⟩
    · exact ⟨d, hlook.mpr (.inr ⟨hk, hd⟩), hsc⟩
  · -- settlementIDs
    have hkeys := h.settlementIDs.insert (Nat.le_succ s.idCounter) le_rfl st
    rwa [← hst] at hkeys
  · -- settlement: the earlier settlements are of other cycles
    intro sid st' hst'
    rcases hsets.mp hst' with ⟨rfl, rfl⟩ | hst'
    · exact ⟨rfl, _, hlook.mpr (.inl ⟨hid, rfl⟩), rfl, rfl⟩
    · obtain ⟨hid', d, hd, hstat, hrest⟩ := h.settlement sid st' hst'
      refine ⟨hid', d, hlook.mpr (.inr ⟨?_, hd⟩), hstat, hrest⟩
      intro heq
      rw [heq] at hd
      cases hc.symm.trans hd
      rw [hclosed] at hstat
      cases hstat
  · -- settled: by the new settlement, or by an earlier one
    intro k d hd hstat
    rcases hlook.mp hd with ⟨rfl, -⟩ | ⟨-, hd⟩
    · exact ⟨st.id, st, hsets.mpr (.inl ⟨rfl, rfl⟩), hid⟩
    · obtain ⟨sid, st', hst', hid'⟩ := h.settled k d hd hstat
      exact ⟨sid, st', hsets.mpr (.inr hst'), hid'⟩

/-! ## Accepting and rejecting a payment -/

/-- A new payment joins the open cycle of its scheme. -/
theorem withPayment [AddCommGroup Amount] [LinearOrder Amount] (h : s.Cycles)
    (hr : s.Records) {now : Time} {req : InitiatePaymentRequest Amount}
    {scheme : Scheme} {cycleID : CycleID} {cycle : ClearingCycle Amount}
    {debtor : Participant Amount} {acct : Deposit.Account Amount}
    (hi : s.Initiates now req scheme cycleID cycle debtor acct) :
    (s.withPayment now req scheme cycleID cycle debtor acct.glAccount).Cycles := by
  let p := s.acceptedPayment now req scheme cycleID debtor acct.glAccount
  have hfresh : s.payments.lookup p.id = none := hr.fresh_payment
  have hlook : ∀ {k q},
      (s.withPayment now req scheme cycleID cycle debtor acct.glAccount).payments.lookup
        k = some q ↔ (k = p.id ∧ q = p) ∨ s.payments.lookup k = some q :=
    Finmap.lookup_insert_fresh hfresh
  obtain ⟨c, hc, hsc, hopen⟩ := (h.open_iff _ _).mp hi.cycle_open
  cases hi.cycle_stored.symm.trans hc
  have hin : ∀ k pid,
      (s.withPayment now req scheme cycleID cycle debtor acct.glAccount).InCycle k pid ↔
        (pid = p.id ∧ k = cycleID) ∨ s.InCycle k pid := by
    intro k pid
    constructor
    · rintro ⟨q, hq, hid, hst⟩
      rcases hlook.mp hq with ⟨rfl, rfl⟩ | hq
      · exact .inl ⟨rfl, hid.symm⟩
      · exact .inr ⟨q, hq, hid, hst⟩
    · rintro (⟨rfl, rfl⟩ | ⟨q, hq, hid, hst⟩)
      · exact ⟨p, hlook.mpr (.inl ⟨rfl, rfl⟩), rfl, by simp [p, acceptedPayment]⟩
      · exact ⟨q, hlook.mpr (.inr hq), hid, hst⟩
  refine h.overwrite hi.cycle_stored
    { cycle with paymentIDs := cycle.paymentIDs ++ [p.id] } rfl (by simp [hopen])
    (by simp [hopen]) rfl rfl (Nat.le_succ _)
    (h.open_overwrite hi.cycle_stored hopen hopen) ?_ ?_ ?_ ?_
  · refine List.nodup_append.mpr ⟨h.nodup _ cycle hi.cycle_stored, List.nodup_singleton _,
      ?_⟩
    -- the new payment is on no list
    rintro k hk k' hk' rfl
    obtain ⟨q, hq, -⟩ := (h.members _ cycle hi.cycle_stored k).mp hk
    rw [List.mem_singleton.mp hk', hfresh] at hq
    cases hq
  · intro pid
    rw [hin, List.mem_append, List.mem_singleton,
      h.members _ cycle hi.cycle_stored pid]
    constructor
    · rintro (hold | rfl)
      · exact .inr hold
      · exact .inl ⟨rfl, rfl⟩
    · rintro (⟨rfl, -⟩ | hold)
      · exact .inr rfl
      · exact .inl hold
  · intro k hk pid
    rw [hin]
    exact or_iff_right fun hnew => hk hnew.2
  · intro pid q hq
    rcases hlook.mp hq with ⟨-, rfl⟩ | hq
    · exact .inr ⟨rfl, hsc.symm⟩
    · exact .inl ⟨q, hq, rfl, rfl⟩

/-- A rejected payment leaves its cycle. -/
theorem withRejected (h : s.Cycles) (hfit : s.StatusesFit) {now : Time}
    {id : PaymentID} {p : Payment Amount} {reason : String}
    {debtor : Participant Amount} {txID : Ledger.TransactionID}
    {original : Ledger.Transaction Amount} (hp : s.payments.lookup id = some p)
    (hid : p.id = id) (hst : p.status = .accepted) :
    (s.withRejected now id p reason debtor txID original).Cycles := by
  obtain ⟨c, hc, hmem⟩ := h.mem_of_payment hp (by simp [hst])
  -- the cycle of an accepted payment is open
  have hopen : c.status = .open := by
    have hfits := hfit _ c hc id hmem p hp
    rw [hst] at hfits
    cases hcs : c.status with
    | «open» => rfl
    | closed =>
      rw [hcs] at hfits
      cases hfits
    | settled =>
      rw [hcs] at hfits
      rcases hfits with hfits | hfits <;> cases hfits
  rw [withRejected_eq hc]
  let s' := (((s.reversed now p.debtor.participant debtor txID original
    ("Reject payment " ++ p.id.val ++ ": " ++ reason)).setCycle p.cycleID
      { c with paymentIDs := c.paymentIDs.filter (· ≠ p.id) }).setPayment id
        { p with status := .rejected, rejectReason := reason })
  have hlook : ∀ {k q}, s'.payments.lookup k = some q ↔
      (k = id ∧ q = { p with status := .rejected, rejectReason := reason }) ∨
        (k ≠ id ∧ s.payments.lookup k = some q) :=
    Finmap.lookup_insert_eq_some
  have hin : ∀ k pid, s'.InCycle k pid ↔ pid ≠ id ∧ s.InCycle k pid := by
    intro k pid
    constructor
    · rintro ⟨q, hq, hk, hne⟩
      rcases hlook.mp hq with ⟨-, rfl⟩ | ⟨hpid, hq⟩
      · exact absurd rfl hne
      · exact ⟨hpid, q, hq, hk, hne⟩
    · rintro ⟨hpid, q, hq, hk, hne⟩
      exact ⟨q, hlook.mpr (.inr ⟨hpid, hq⟩), hk, hne⟩
  refine h.overwrite hc { c with paymentIDs := c.paymentIDs.filter (· ≠ p.id) } rfl
    (by simp [hopen]) (by simp [hopen]) rfl rfl le_rfl
    (h.open_overwrite hc hopen hopen) ((h.nodup _ c hc).filter _) ?_ ?_ ?_
  · intro pid
    rw [hin, List.mem_filter, h.members _ c hc pid, hid]
    simp only [decide_eq_true_eq]
    exact and_comm
  · intro k hk pid
    rw [hin]
    refine and_iff_right_of_imp ?_
    rintro ⟨q, hq, hqk, -⟩ rfl
    cases hp.symm.trans hq
    exact hk hqk.symm
  · intro pid q hq
    rcases hlook.mp hq with ⟨rfl, rfl⟩ | ⟨-, hq⟩
    · exact .inl ⟨p, hp, rfl, rfl⟩
    · exact .inl ⟨q, hq, rfl, rfl⟩

end Cycles

/-! ## Statuses -/

namespace StatusesFit

variable {s s' : Network Amount}

theorem congr (h : s.StatusesFit) (hpay : s'.payments = s.payments)
    (hcyc : s'.cycles = s.cycles) : s'.StatusesFit := by
  intro id c hc pid hpid p hp
  exact h id c (hcyc ▸ hc) pid hpid p (hpay ▸ hp)

/-- The status of the cycle of a payment that was not rejected. -/
theorem of_payment (h : s.StatusesFit) (hcyc : s.Cycles) {pid : PaymentID}
    {p : Payment Amount} (hp : s.payments.lookup pid = some p)
    (hst : p.status ≠ .rejected) {c : ClearingCycle Amount}
    (hc : s.cycles.lookup p.cycleID = some c) : Fits c.status p.status :=
  h _ c hc pid ((hcyc.members _ c hc pid).mpr ⟨p, hp, rfl, hst⟩) p hp

theorem withCycle [Zero Amount] [LT Amount] (h : s.StatusesFit) (hr : s.Records)
    {now : Time} {sc : SchemeID} :
    (s.withCycle (s.newCycle now sc)).StatusesFit := by
  intro id c hc pid hpid p hp
  have hfresh : s.cycles.lookup (s.newCycle now sc).id = none := hr.fresh_cycle
  rcases (Finmap.lookup_insert_fresh hfresh).mp hc with ⟨-, rfl⟩ | hc
  · cases hpid
  · exact h id c hc pid hpid p hp

theorem withClosed [AddCommGroup Amount] (h : s.StatusesFit) (hcyc : s.Cycles)
    {now : Time} {id : CycleID} {c : ClearingCycle Amount}
    (hc : s.cycles.lookup id = some c) : (s.withClosed now id c).StatusesFit := by
  intro k d hd pid hpid p' hp'
  have hlk := lookup_markCleared c.paymentIDs s.payments pid
  rw [show (run markCleared s.payments c.paymentIDs).lookup pid = some p' from hp']
    at hlk
  obtain ⟨p, hp, heq⟩ := Option.map_eq_some_iff.mp hlk.symm
  rcases Finmap.lookup_insert_eq_some.mp hd with ⟨rfl, rfl⟩ | ⟨hk, hd⟩
  · have hmem : pid ∈ c.paymentIDs := hpid
    rw [if_pos hmem] at heq
    rw [← heq]
    rfl
  · -- a payment of another cycle is not one of `c`
    have hnot : pid ∉ c.paymentIDs := by
      intro hmem
      obtain ⟨q, hq, hqid, -⟩ := (hcyc.members id c hc pid).mp hmem
      obtain ⟨q', hq', hqid', -⟩ := (hcyc.members k d hd pid).mp hpid
      cases hq.symm.trans hq'
      exact hk (hqid'.symm.trans hqid)
    rw [if_neg hnot] at heq
    rw [← heq]
    exact h k d hd pid hpid p hp

/-- A payment may take another status that fits its cycle. -/
theorem setPayment (h : s.StatusesFit) (hcyc : s.Cycles) {id : PaymentID}
    {p p' : Payment Amount} (hp : s.payments.lookup id = some p)
    (hfits : ∀ c, s.cycles.lookup p.cycleID = some c → Fits c.status p'.status) :
    (s.setPayment id p').StatusesFit := by
  intro k c hc pid hpid q hq
  rcases Finmap.lookup_insert_eq_some.mp hq with ⟨rfl, rfl⟩ | ⟨-, hq⟩
  · obtain ⟨q, hq, hqid, -⟩ := (hcyc.members k c hc pid).mp hpid
    cases hp.symm.trans hq
    exact hfits c (hqid ▸ hc)
  · exact h k c hc pid hpid q hq

theorem withPayment [AddCommGroup Amount] [LinearOrder Amount] (h : s.StatusesFit)
    (hr : s.Records) (hcyc : s.Cycles) {now : Time}
    {req : InitiatePaymentRequest Amount} {scheme : Scheme} {cycleID : CycleID}
    {cycle : ClearingCycle Amount} {debtor : Participant Amount}
    {acct : Deposit.Account Amount}
    (hi : s.Initiates now req scheme cycleID cycle debtor acct) :
    (s.withPayment now req scheme cycleID cycle debtor
      acct.glAccount).StatusesFit := by
  intro k d hd pid hpid q hq
  have hfresh : s.payments.lookup
      (s.acceptedPayment now req scheme cycleID debtor acct.glAccount).id = none :=
    hr.fresh_payment
  obtain ⟨c, hc, -, hopen⟩ := (hcyc.open_iff _ _).mp hi.cycle_open
  cases hi.cycle_stored.symm.trans hc
  rcases (Finmap.lookup_insert_fresh hfresh).mp hq with ⟨rfl, rfl⟩ | hold
  · rcases Finmap.lookup_insert_eq_some.mp hd with ⟨-, rfl⟩ | ⟨-, hd⟩
    · show Fits cycle.status _
      rw [hopen]
      rfl
    · -- the new payment is in no other cycle
      obtain ⟨q, hq, -⟩ := (hcyc.members k d hd _).mp hpid
      rw [hfresh] at hq
      cases hq
  · rcases Finmap.lookup_insert_eq_some.mp hd with ⟨rfl, rfl⟩ | ⟨-, hd⟩
    · rcases List.mem_append.mp hpid with hpid | hpid
      · exact h _ cycle hi.cycle_stored pid hpid q hold
      · rw [List.mem_singleton.mp hpid] at hold
        exact absurd (hfresh.symm.trans hold) (by simp)
    · exact h k d hd pid hpid q hold

theorem withRejected (h : s.StatusesFit) {now : Time} {id : PaymentID}
    {p : Payment Amount} {reason : String} {debtor : Participant Amount}
    {txID : Ledger.TransactionID} {original : Ledger.Transaction Amount}
    {c : ClearingCycle Amount} (hc : s.cycles.lookup p.cycleID = some c)
    (hp : s.payments.lookup id = some p) (hid : p.id = id) (hcyc : s.Cycles) :
    (s.withRejected now id p reason debtor txID original).StatusesFit := by
  rw [withRejected_eq hc]
  intro k d hd pid hpid q hq
  have hne : pid ≠ id := by
    rintro rfl
    rcases Finmap.lookup_insert_eq_some.mp hd with ⟨-, rfl⟩ | ⟨hk, hd⟩
    · have := (List.mem_filter.mp hpid).2
      rw [hid] at this
      simp at this
    · obtain ⟨q', hq', hqid, -⟩ := (hcyc.members k d hd pid).mp hpid
      cases hp.symm.trans hq'
      exact hk hqid.symm
  rcases Finmap.lookup_insert_eq_some.mp hq with ⟨heq, -⟩ | ⟨-, hq⟩
  · exact absurd heq hne
  rcases Finmap.lookup_insert_eq_some.mp hd with ⟨rfl, rfl⟩ | ⟨-, hd⟩
  · exact h _ c hc pid (List.mem_filter.mp hpid).1 q hq
  · exact h k d hd pid hpid q hq

end StatusesFit

end Network

end CoreBanking.Payment
