import CoreBanking.Deposit.Available

/-!
# Overdrafts

`CreateHold` and `CheckWithdrawal` compare with the available balance, and time only
adds to it. `CaptureHold` does not look at it: it posts any amount, also more than the
hold, and also when the hold has expired and reserves nothing any more.

- `capture_overdraws`: a run in which this takes an account past its limit;
- `limits_iff_captures_covered`: it is the only way to get there. While others only
  credit deposit accounts, all accounts stay within their limits throughout a run exactly
  if what each capture takes is available or reserved by its hold.
-/

namespace CoreBanking.Deposit

open Ledger (Book newBook Entry effect transfer effect_transfer_credit effect_credit_nonneg)

namespace Register

/-! ## Limits -/

section Limits

variable {Amount : Type} [AddCommGroup Amount] [LinearOrder Amount]

/-- No account is overdrawn past its limit: each has its balance, and an available
balance that is not negative. -/
def WithinLimits (r : Register Amount) (now : Time) : Prop :=
  ∀ id a, r.accounts.lookup id = some a →
    ∃ bal, r.getBalance now id = .ok bal ∧
      bal.available = bal.book - bal.holds + a.overdraftLimit ∧ 0 ≤ bal.available

variable {r : Register Amount} {now : Time}

theorem WF.withinLimits_iff (h : r.WF) (hi : r.Indexed) : r.WithinLimits now ↔
    ∀ id a, r.accounts.lookup id = some a → 0 ≤ r.availableOf now a := by
  refine forall₃_congr fun id a ha => ?_
  rw [h.getBalance_eq hi ha now]
  constructor
  · rintro ⟨bal, hbal, -, hnonneg⟩
    cases hbal
    exact hnonneg
  · intro hnonneg
    exact ⟨_, rfl, rfl, hnonneg⟩

end Limits

/-! ## Register operations -/

section Steps

variable {Amount : Type} [AddCommGroup Amount] [LinearOrder Amount]

/-- The limit of the account that a call opens. -/
def Op.newLimit : Op Amount → Option Amount
  | .openAccount _ _ overdraftLimit => some overdraftLimit
  | _ => none

/-- A capture that goes through takes no more than what is available or reserved by its
hold, which is nothing once the hold has expired. A capture into the account itself
takes nothing from it. -/
def CaptureCovered (r : Register Amount) (now : Time) (op : Op Amount) : Prop :=
  ∀ h a counterparty amount, r.Captures op h a counterparty amount →
    counterparty = a.glAccount ∨ amount ≤ r.availableOf now a + h.reserved now

variable {r r' : Register Amount} {now : Time}

/-- A new account has its limit available. -/
theorem WF.availableOf_newAccount (h : r.WF) (hi : r.Indexed) {subledger : Ledger.SubledgerID}
    {name : String} {limit : Amount} :
    (r.addAccount now subledger name limit).availableOf now
      (r.newDepositAccount now subledger name limit) = limit := by
  have hgl := h.fresh_glAccount now subledger name
  have hfresh := h.fresh_account now subledger name limit
  have hbook : (r.addAccount now subledger name limit).book.balance
      (r.newDepositAccount now subledger name limit).glAccount = 0 :=
    h.book.balance_fresh hgl rfl
  have hholds : (r.addAccount now subledger name limit).reserved now
      (r.newDepositAccount now subledger name limit).id = 0 := by
    refine Finmap.sum_eq_zero fun k hd hk => if_neg fun hacct => ?_
    -- a hold is on an account that exists
    have hmem := hi.account k hd hk
    rw [hacct] at hmem
    exact Finmap.lookup_eq_none.mp hfresh hmem
  rw [availableOf, hbook, hholds, sub_zero, zero_add]
  rfl

/-- What a capture moves: the amount between the two GL accounts, and the hold. -/
theorem WF.availableOf_afterCapture (h : r.WF) {k : HoldID} {hd : Hold Amount}
    {acct : Account Amount} {counterparty : Ledger.AccountID} {captureAmount : Amount}
    {description : String} (hk : r.holds.lookup k = some hd) {id : AccountID}
    {a : Account Amount} (ha : r.accounts.lookup id = some a) :
    (r.afterCapture now k hd
        (captureRequest acct hd counterparty captureAmount description)).availableOf now a
      = r.availableOf now a
        + ((if a.glAccount = counterparty then hd.captured captureAmount else 0)
          - (if a.glAccount = acct.glAccount then hd.captured captureAmount else 0))
        + (if hd.accountID = a.id then hd.reserved now else 0) := by
  have hholds : (r.afterCapture now k hd (captureRequest acct hd counterparty captureAmount
      description)).reserved now a.id
        = r.reserved now a.id - if hd.accountID = a.id then hd.reserved now else 0 :=
    reserved_withHold hk (by decide) now a.id
  rw [availableOf, h.balance_afterCapture ha, hholds, availableOf]
  abel

variable [IsOrderedAddMonoid Amount]

/-- A hold that has been released does not reserve anything. -/
theorem WF.availableOf_released (h : r.WF) {k : HoldID} {hd : Hold Amount}
    (hk : r.holds.lookup k = some hd) (a : Account Amount) :
    r.availableOf now a ≤ (r.withHold k hd .released).availableOf now a := by
  rw [availableOf_withHold hk (by decide)]
  refine le_add_of_nonneg_right ?_
  split
  · exact Hold.reserved_nonneg (h.positive k hd hk) now
  · exact le_rfl

/-- Every account stays within its limit after a capture exactly if the account of the
hold covers it. -/
theorem WF.captured_limits_iff (h : r.WF) {k : HoldID} {hd : Hold Amount}
    {acct : Account Amount} {counterparty : Ledger.AccountID} {captureAmount : Amount}
    {description : String} (hk : r.holds.lookup k = some hd)
    (hacct : r.accounts.lookup hd.accountID = some acct)
    (hpos : 0 < hd.captured captureAmount)
    (hlimits : ∀ id a, r.accounts.lookup id = some a → 0 ≤ r.availableOf now a) :
    (∀ id a, r.accounts.lookup id = some a → 0 ≤ (r.afterCapture now k hd
        (captureRequest acct hd counterparty captureAmount description)).availableOf now a) ↔
      counterparty = acct.glAccount ∨
        hd.captured captureAmount ≤ r.availableOf now acct + hd.reserved now := by
  have hid := h.account_id _ acct hacct
  have hfreed : ∀ a : Account Amount,
      0 ≤ if hd.accountID = a.id then hd.reserved now else 0 := by
    intro a
    split
    · exact Hold.reserved_nonneg (h.positive k hd hk) now
    · exact le_rfl
  have hpaid : ∀ a : Account Amount,
      0 ≤ if a.glAccount = counterparty then hd.captured captureAmount else 0 := by
    intro a
    split
    · exact hpos.le
    · exact le_rfl
  constructor
  · intro hafter
    have hown := hafter hd.accountID acct hacct
    rw [h.availableOf_afterCapture hk hacct, if_pos rfl, if_pos hid.symm] at hown
    -- captured into the account itself, the amount comes back
    by_cases hself : acct.glAccount = counterparty
    · exact .inl hself.symm
    · right
      rw [if_neg hself, zero_sub, ← sub_eq_add_neg, sub_add_eq_add_sub, sub_nonneg] at hown
      exact hown
  · intro hcovered id a ha
    rw [h.availableOf_afterCapture hk ha]
    by_cases hown : a.glAccount = acct.glAccount
    · -- only the account of the hold is debited
      have heq := h.gl_unique id _ a acct ha hacct hown
      subst heq
      cases ha.symm.trans hacct
      rcases hcovered with rfl | hcovered
      · rw [sub_self, add_zero]
        exact add_nonneg (hlimits _ _ ha) (hfreed _)
      · rw [if_pos rfl, if_pos hid.symm, add_sub_assoc', sub_add_eq_add_sub, sub_nonneg,
          add_right_comm]
        exact hcovered.trans (le_add_of_nonneg_right (hpaid _))
    · -- any other account can only gain
      rw [if_neg hown, sub_zero]
      exact add_nonneg (add_nonneg (hlimits id a ha) (hpaid a)) (hfreed a)

/-- Of the calls on a register within its limits, only captures can leave it outside, and
those that do are the ones that are not covered. -/
theorem Transition.limits_iff {op : Op Amount} (ht : Transition now r op r') (h : r.WF)
    (hi : r.Indexed)
    (hlimits : ∀ id a, r.accounts.lookup id = some a → 0 ≤ r.availableOf now a)
    (hop : ∀ limit ∈ op.newLimit, 0 ≤ limit) :
    (∀ id a, r'.accounts.lookup id = some a → 0 ≤ r'.availableOf now a) ↔
      r.CaptureCovered now op := by
  have hgrows := ht.change.grows h
  cases ht with
  | opened subledger name limit =>
    refine iff_of_true (fun id a ha => ?_) fun _ _ _ _ hcap => by cases hcap
    rcases (Finmap.lookup_insert_fresh (h.fresh_account now subledger name limit)).mp ha with
      ⟨rfl, rfl⟩ | ha
    · exact (h.availableOf_newAccount hi).ge.trans' (hop limit rfl)
    · obtain ⟨g, hg, -⟩ := h.gl id a ha
      have hbook := Book.balance_congr hg (hgrows.glAccounts _ g hg) rfl
      exact (availableOf_congr hbook rfl).ge.trans' (hlimits id a ha)
  | status k target eventType acct hmoves hacct =>
    have hsame := hlimits k acct hacct
    exact iff_of_true (Finmap.forall_lookup_insert hlimits hsame)
      fun _ _ _ _ hcap => absurd hcap hmoves.not_captures
  | held req acct available hacct hactive hpos havail hsuff =>
    refine iff_of_true (fun id a ha => (h.availableOf_addHoldTo req a).ge.trans' ?_)
      fun _ _ _ _ hcap => by cases hcap
    by_cases hown : req.accountID = a.id
    · -- the request was compared with what this account has available
      rw [hown, h.account_id id a ha] at hacct
      cases ha.symm.trans hacct
      rw [h.available_eq hi ha] at havail
      cases havail
      have hless := Hold.reserved_le_amount (h := r.newHold now req) hpos now
      rw [if_pos hown, sub_nonneg]
      exact hless.trans (sub_nonneg.mp (not_lt.mp hsuff))
    · rw [if_neg hown, sub_zero]
      exact hlimits id a ha
  | released k hd hk hactive =>
    refine iff_of_true (fun id a ha => ?_) fun _ _ _ _ hcap => by cases hcap
    exact (hlimits id a ha).trans (h.availableOf_released hk a)
  | captured k counterparty captureAmount description hd acct hk hactive hacct hacc =>
    -- the ledger refuses entries that are not positive
    have hpos : 0 < hd.captured captureAmount := hacc.positive _ List.mem_cons_self
    refine (h.captured_limits_iff hk hacct hpos hlimits).trans ?_
    constructor
    · intro hcovered hd' acct' counterparty' amount hcap
      cases hcap with
      | intro _ _ _ _ _ _ hk' _ hacct' =>
        cases hk.symm.trans hk'
        cases hacct.symm.trans hacct'
        exact hcovered
    · intro hcovered
      exact hcovered _ _ _ _ (.intro k counterparty captureAmount description hd acct hk hactive
        hacct hacc)
  | snapshot => exact iff_of_true hlimits fun _ _ _ _ hcap => by cases hcap

/-- Entries that only credit deposit accounts leave every account its available balance. -/
theorem WF.availableOf_ledger (h : r.WF) {op : Book.Op Amount}
    (hcredit : r.EachBacking (op.posted r.book) fun e _ => e.direction = .credit)
    {id : AccountID} {a : Account Amount} (ha : r.accounts.lookup id = some a) :
    r.availableOf now a ≤ (exec (now, .ledger op) r).availableOf now a := by
  obtain ⟨g, hg, hliability⟩ := h.gl id a ha
  have hbook : r.book.balance a.glAccount
      ≤ (Book.exec (now, op) r.book).balance a.glAccount := by
    rcases (Book.exec_change now op r.book).balance h.book hg with hsame | ⟨heffect, hpos⟩
    · exact hsame.ge
    · rw [heffect, hliability]
      exact le_add_of_nonneg_right
        (effect_credit_nonneg hpos fun e he hgl => hcredit e he id a ha hgl)
  exact add_le_add_left (sub_le_sub_right hbook _) _

end Steps

end Register

/-! ## Runs with a clock -/

/-- A register, and the time of the last call. -/
structure Clocked (Amount : Type) where
  register : Register Amount
  time : Time

namespace Clocked

open Register (Step)

section Runs

variable {Amount : Type} [AddCommGroup Amount] [LinearOrder Amount]

def exec (step : Time × Step Amount) (c : Clocked Amount) : Clocked Amount :=
  ⟨Register.exec step c.register, step.1⟩

/-- An empty register over an empty ledger. -/
def initial (start : Time) : Clocked Amount :=
  ⟨newRegister (newBook Amount), start⟩

/-- The state after a run of calls. -/
def reached (start : Time) (steps : List (Time × Step Amount)) : Clocked Amount :=
  run exec (initial start) steps

/-- The clock does not go back, no account is opened with a negative limit, and what
others post only credits deposit accounts. -/
def Admissible (c : Clocked Amount) (step : Time × Step Amount) : Prop :=
  c.time.ns ≤ step.1.ns ∧
    match step.2 with
    | .register op => ∀ limit ∈ op.newLimit, 0 ≤ limit
    | .ledger op =>
      c.register.EachBacking (op.posted c.register.book) fun e _ => e.direction = .credit

instance (c : Clocked Amount) (step : Time × Step Amount) :
    Decidable (c.Admissible step) :=
  match step with
  | (_, .register _) => inferInstanceAs (Decidable (_ ∧ ∀ limit ∈ _, _))
  | (_, .ledger _) => inferInstanceAs (Decidable (_ ∧ _))

/-- The captures of a run are covered when they are made. -/
def Covered (c : Clocked Amount) (step : Time × Step Amount) : Prop :=
  match step.2 with
  | .register op => c.register.CaptureCovered step.1 op
  | .ledger _ => True

/-- The invariant of a clocked register: no account is below its limit now, and so not
later on either. -/
structure Sound (c : Clocked Amount) : Prop where
  wf : c.register.WF
  indexed : c.register.Indexed
  limits : ∀ id a, c.register.accounts.lookup id = some a →
    0 ≤ c.register.availableOf c.time a

theorem sound_initial (start : Time) : (initial start : Clocked Amount).Sound where
  wf := Register.wf_newRegister Book.wf_newBook
  indexed := Register.indexed_newRegister _
  limits id a ha := by simp [initial, newRegister] at ha

theorem ready_reached (start : Time) (steps : List (Time × Step Amount)) :
    (reached start steps).register.WF ∧ (reached start steps).register.Indexed := by
  have hstep : ∀ step (c : Clocked Amount), c.register.WF ∧ c.register.Indexed →
      (exec step c).register.WF ∧ (exec step c).register.Indexed :=
    fun step c h => Register.exec_ready step c.register h
  have hinit : (initial start : Clocked Amount).Sound := sound_initial start
  exact run_invariant hstep ⟨hinit.wf, hinit.indexed⟩ steps

variable [IsOrderedAddMonoid Amount] {c : Clocked Amount}

theorem Sound.withinLimits (h : c.Sound) {now : Time} (hnow : c.time.ns ≤ now.ns) :
    c.register.WithinLimits now := by
  rw [h.wf.withinLimits_iff h.indexed]
  intro id a ha
  exact (h.limits id a ha).trans (h.wf.availableOf_mono hnow a)

/-- An admissible step keeps the invariant exactly if it is no uncovered capture. -/
theorem Sound.exec_iff (h : c.Sound) {step : Time × Step Amount}
    (hadm : c.Admissible step) : (exec step c).Sound ↔ c.Covered step := by
  obtain ⟨now, step⟩ := step
  obtain ⟨hclock, hstep⟩ := hadm
  obtain ⟨hwf, hindexed⟩ := Register.exec_ready (now, step) c.register ⟨h.wf, h.indexed⟩
  -- nothing is below its limit at the time of the step either
  have hlimits : ∀ id a, c.register.accounts.lookup id = some a →
      0 ≤ c.register.availableOf now a :=
    fun id a ha => (h.limits id a ha).trans (h.wf.availableOf_mono hclock a)
  have hsound : (exec (now, step) c).Sound ↔
      ∀ id a, (Register.exec (now, step) c.register).accounts.lookup id = some a →
        0 ≤ (Register.exec (now, step) c.register).availableOf now a :=
    ⟨fun h' => h'.limits, fun h' => ⟨hwf, hindexed, h'⟩⟩
  rw [hsound]
  cases step with
  | register op =>
    rcases Register.exec_register now op c.register with heq | ht
    · rw [heq]
      -- a capture that goes through changes the register, so none was refused
      exact iff_of_true hlimits fun h a counterparty amount hcap =>
        absurd heq (hcap.exec_ne now)
    · exact ht.limits_iff h.wf h.indexed hlimits hstep
  | ledger op =>
    refine iff_of_true (fun id a ha => ?_) trivial
    exact (hlimits id a ha).trans (h.wf.availableOf_ledger hstep ha)

end Runs

/-- **Overdraft limits** hold throughout a run, at all times from the last call on,
exactly if the captures are covered. -/
theorem limits_iff_captures_covered (start : Time) (steps : List (Time × Step ℤ))
    (hadm : Along exec Admissible (initial start) steps) :
    (∀ pre, pre <+: steps → ∀ now, (reached start pre).time.ns ≤ now.ns →
        (reached start pre).register.WithinLimits now) ↔
      Along exec Covered (initial start) steps := by
  have hstep : ∀ step (c : Clocked ℤ), c.Admissible step → c.Sound →
      ((exec step c).Sound ↔ c.Covered step) := fun step c hadm h => h.exec_iff hadm
  -- within its limit at the last call is within it ever after: holds only lapse
  rw [← along_iff_invariant_of hstep (sound_initial start) hadm]
  refine forall₂_congr fun pre _ => ⟨fun h => ?_, fun h now hnow => h.withinLimits hnow⟩
  obtain ⟨hwf, hindexed⟩ :
      (reached start pre).register.WF ∧ (reached start pre).register.Indexed :=
    ready_reached start pre
  exact ⟨hwf, hindexed, (hwf.withinLimits_iff hindexed).mp (h _ le_rfl)⟩

/-- With 100 on her account and no limit, Alice has a hold of 10, and some amount is
captured on it. -/
def captureRun (amount : ℤ) : List (Time × Step ℤ) :=
  Register.aliceRun 0 [Register.fundAlice 100, Register.holdAlice 10,
    Register.captureForMerchant ⟨"hld_3"⟩ amount]

/-- The theorem at a run that captures the hold. -/
theorem limits_iff_captures_covered_hold :
    Along exec Admissible (initial ⟨1, 0⟩) (captureRun 10) ∧
      ((∀ pre, pre <+: captureRun 10 → ∀ now, (reached ⟨1, 0⟩ pre).time.ns ≤ now.ns →
          (reached ⟨1, 0⟩ pre).register.WithinLimits now) ↔
        Along exec Covered (initial ⟨1, 0⟩) (captureRun 10)) := by
  have hadm : Along exec Admissible (initial ⟨1, 0⟩) (captureRun 10) := by
    decide +kernel
  exact ⟨hadm, limits_iff_captures_covered ⟨1, 0⟩ (captureRun 10) hadm⟩

/-- A capture of 200 takes the account to -100, with no limit agreed. -/
theorem capture_overdraws :
    ¬∀ start (steps : List (Time × Step ℤ)), Along exec Admissible (initial start) steps →
      (reached start steps).register.WithinLimits (reached start steps).time := by
  intro h
  have hadm : Along exec Admissible (initial ⟨1, 0⟩) (captureRun 200) := by
    decide +kernel
  have hacct : (reached ⟨1, 0⟩ (captureRun 200)).register.accounts.lookup ⟨"dep_1"⟩
      = some ⟨⟨"dep_1"⟩, ⟨"acct_9"⟩, "Alice", .active, 0, ⟨1, 0⟩⟩ := by
    decide +kernel
  have hbalance : (reached ⟨1, 0⟩ (captureRun 200)).register.getBalance
      (reached ⟨1, 0⟩ (captureRun 200)).time ⟨"dep_1"⟩ = .ok ⟨-100, 0, -100⟩ := by
    decide +kernel
  obtain ⟨bal, hbal, -, hnonneg⟩ := h ⟨1, 0⟩ (captureRun 200) hadm _ _ hacct
  rw [hbalance] at hbal
  cases hbal
  exact absurd hnonneg (by decide)

end Clocked

end CoreBanking.Deposit
