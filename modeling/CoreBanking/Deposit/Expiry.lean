import CoreBanking.Deposit.Captures

/-!
# Expired holds

An expired hold does not count any more, but it can still be captured: `CaptureHold` only
looks at the status, which nothing changes when the time of a hold is over.

- `expired_hold_captured`: a hold that is captured after its expiry;
- `void_iff_not_capturable`: a hold counts exactly while it can be captured, unless it is
  active and expired, and nothing is posted for expired holds exactly if no such hold is
  captured.
-/

namespace CoreBanking.Deposit

open Ledger (Book newBook TransactionID)

/-- The hold counts in the sum of holds of its account. -/
def Hold.Counts {Amount : Type} (h : Hold Amount) (now : Time) : Prop :=
  h.status = .active ∧ ¬h.Expired now

instance {Amount : Type} (h : Hold Amount) (now : Time) : Decidable (h.Counts now) :=
  inferInstanceAs (Decidable (_ ∧ _))

/-- A hold that has expired stays so. -/
theorem Hold.Expired.later {Amount : Type} {h : Hold Amount} {now later : Time}
    (hexpired : h.Expired now) (hlater : now.ns ≤ later.ns) : h.Expired later :=
  ⟨hexpired.1, lt_of_lt_of_le hexpired.2 hlater⟩

namespace Register

variable {Amount : Type} [AddCommGroup Amount] [LinearOrder Amount] {r r' : Register Amount}
  {k : HoldID} {h : Hold Amount} {a : Account Amount} {now : Time}

/-- An active hold can be captured in full in favour of any Liability account. -/
theorem WF.accepts_capture (hwf : r.WF) (hk : r.holds.lookup k = some h)
    (ha : r.accounts.lookup h.accountID = some a) {counterparty : Ledger.AccountID}
    {g : Ledger.Account} (hg : r.book.accounts.lookup counterparty = some g)
    (htype : g.type = .liability) (description : String) :
    r.book.Accepts (captureRequest a h counterparty 0 description) := by
  have hpos := hwf.positive k h hk
  obtain ⟨own, hown, -⟩ := hwf.gl _ a ha
  have hentries : (captureRequest a h counterparty 0 description).entries
      = Ledger.transfer a.glAccount counterparty h.amount := by
    rw [captureRequest, if_pos le_rfl]
  exact .transfer hentries hpos (Finmap.mem_of_lookup_eq_some hown)
    (Finmap.mem_of_lookup_eq_some hg) (.inl rfl) (.transfer hpos hg htype)

/-- So the capture goes through exactly if the hold is active, expired or not. -/
theorem WF.captureHold_iff (hwf : r.WF) (hk : r.holds.lookup k = some h)
    (ha : r.accounts.lookup h.accountID = some a) {counterparty : Ledger.AccountID}
    {g : Ledger.Account} (hg : r.book.accounts.lookup counterparty = some g)
    (htype : g.type = .liability) (now : Time) (description : String) :
    (∃ tx r', captureHold now k counterparty 0 description r = .ok tx r') ↔
      h.status = .active := by
  constructor
  · rintro ⟨tx, r', hok⟩
    rcases captureHold_cases now k counterparty 0 description r with
      ⟨e, he⟩ | ⟨h', acct, hk', hactive, -, -, -⟩
    · rw [he] at hok
      cases hok
    · cases hk.symm.trans hk'
      exact hactive
  · intro hactive
    exact ⟨_, _, captureHold_of_accepts hk hactive ha
      (hwf.accepts_capture hk ha hg htype description) now⟩

/-- The step captures the hold, and posts to the ledger. -/
def PostsFor (k : HoldID) (r : Register Amount) (step : Time × Step Amount) : Prop :=
  ∃ counterparty amount description,
    step.2 = .register (.captureHold k counterparty amount description) ∧
      (exec step r).book.transactions ≠ r.book.transactions

/-- The step is no capture of an active hold that has expired. -/
def CapturesInTime (r : Register Amount) (step : Time × Step Amount) : Prop :=
  match step.2 with
  | .register op => ∀ h a counterparty amount, r.Captures op h a counterparty amount →
      ¬h.Expired step.1
  | .ledger _ => True

/-- A step posts for an expired hold exactly if it captures one. -/
theorem WF.capturesInTime_iff (hwf : r.WF) {step : Time × Step Amount} :
    r.CapturesInTime step ↔
      ∀ k h, r.holds.lookup k = some h → h.Expired step.1 → ¬PostsFor k r step := by
  obtain ⟨now, step⟩ := step
  constructor
  · rintro htime k h hk hexpired ⟨counterparty, amount, description, rfl, hne⟩
    rcases captureHold_cases now k counterparty amount description r with
      ⟨e, he⟩ | ⟨h', acct, hk', hactive, hacct, hacc, -⟩
    · have hrefused : exec (now, .register (.captureHold k counterparty amount description)) r
          = r := Call.final_of_error (Call.discard_of_error he)
      exact hne (by rw [hrefused])
    · cases hk.symm.trans hk'
      exact htime h acct counterparty _
        (.intro k counterparty amount description h acct hk hactive hacct hacc) hexpired
  · intro hquiet
    cases step with
    | ledger => trivial
    | register op =>
      rintro h a counterparty amount hcap hexpired
      cases hcap with
      | intro k counterparty captureAmount description h a hk hactive hacct hacc =>
        refine hquiet k h hk hexpired ⟨counterparty, captureAmount, description, rfl, ?_⟩
        rw [exec_captureHold hk hactive hacct hacc]
        intro heq
        have hfresh := hwf.book.fresh_newTransaction now
          (captureRequest a h counterparty captureAmount description)
        rw [← heq] at hfresh
        exact absurd ((Finmap.lookup_insert _).symm.trans hfresh) (by simp)

/-- **A hold counts exactly while it can be captured**, in favour of a Liability account,
unless it is active and expired: then it can be captured, but does not count. In a run,
nothing is ever posted for a hold after it has expired exactly if the captures that go
through come in time. -/
theorem void_iff_not_capturable (steps : List (Time × Step Amount)) :
    let r : Register Amount := reached steps
    (∀ now id, r.computeActiveHolds now id = .ok
      (r.holds.sum fun _ h => if h.accountID = id ∧ h.Counts now then h.amount else 0)) ∧
    (∀ k h a counterparty g now description, r.holds.lookup k = some h →
      r.accounts.lookup h.accountID = some a → a.status = .active →
      r.book.accounts.lookup counterparty = some g → g.type = .liability →
        ((h.Counts now ↔
            ∃ tx r', captureHold now k counterparty 0 description r = .ok tx r') ↔
          ¬(h.status = .active ∧ h.Expired now))) ∧
    ((∀ pre mid step post k h time, steps = pre ++ mid ++ step :: post →
        (reached pre).holds.lookup k = some h → h.Expired time → time.ns ≤ step.1.ns →
          ¬PostsFor k (reached (pre ++ mid)) step) ↔
      Along exec CapturesInTime (newRegister (newBook Amount)) steps) := by
  intro r
  have hwf : r.WF := wf_reached steps
  have hi : r.Indexed := indexed_reached steps
  refine ⟨fun now id => ?_, fun k h a counterparty g now description hk ha _ hg htype => ?_, ?_⟩
  · rw [hi.computeActiveHolds_eq, reserved]
    refine congrArg _ (Finmap.sum_congr fun k h _ => ?_)
    rw [Hold.reserved, ← ite_and]
    rfl
  · rw [hwf.captureHold_iff hk ha hg htype, Hold.Counts]
    tauto
  · rw [along_iff_split]
    constructor
    · rintro hquiet pre step post rfl
      refine (wf_reached pre).capturesInTime_iff.mpr fun k h hk hexpired => ?_
      have hnow := hquiet pre [] step post k h step.1 (by simp) hk hexpired le_rfl
      rwa [List.append_nil] at hnow
    · rintro htime pre mid step post k h time rfl hk hexpired hle
      -- the hold is still there, with the same expiry
      obtain ⟨h', hk', hsame, -⟩ := run_becomes (wf_reached pre) hk mid
      have hexpired' : h'.Expired step.1 := by
        rw [hsame]
        exact hexpired.later hle
      have hrun : reached (pre ++ mid) = run exec (reached pre) mid := run_append _ _ _
      rw [← hrun] at hk'
      exact (wf_reached (pre ++ mid)).capturesInTime_iff.mp
        (htime (pre ++ mid) step post rfl) k h' hk' hexpired'

/-- Alice has a hold of 10 that expires. -/
def expiringHold : List (Time × Step ℤ) :=
  aliceRun 0 [fundAlice 100,
    .register (.createHold { accountID := ⟨"dep_1"⟩, amount := 10, expiresAt := ⟨2, 0⟩ })]

/-- After its expiry the hold does not count, but its capture is posted. -/
theorem expired_hold_captured :
    (¬∀ (steps : List (Time × Step ℤ)) k h a counterparty g now description,
      (reached steps).holds.lookup k = some h →
      (reached steps).accounts.lookup h.accountID = some a → a.status = .active →
      (reached steps).book.accounts.lookup counterparty = some g → g.type = .liability →
        (h.Counts now ↔ ∃ tx r',
          captureHold now k counterparty 0 description (reached steps) = .ok tx r')) ∧
    ¬∀ (steps : List (Time × Step ℤ)) pre mid step post k h time,
      steps = pre ++ mid ++ step :: post →
      (reached pre).holds.lookup k = some h → h.Expired time → time.ns ≤ step.1.ns →
        ¬PostsFor k (reached (pre ++ mid)) step := by
  have hk : (reached expiringHold).holds.lookup ⟨"hld_3"⟩
      = some ⟨⟨"hld_3"⟩, ⟨"dep_1"⟩, 10, ⟨2, 0⟩, "", .active, ⟨1, 0⟩⟩ := by
    decide +kernel
  have ha : (reached expiringHold).accounts.lookup ⟨"dep_1"⟩
      = some ⟨⟨"dep_1"⟩, ⟨"acct_9"⟩, "Alice", .active, 0, ⟨1, 0⟩⟩ := by
    decide +kernel
  have hg : (reached expiringHold).book.accounts.lookup ⟨"acct_7"⟩
      = some ⟨⟨"acct_7"⟩, ⟨"sub_3"⟩, "Merchant", .liability, ⟨1, 0⟩⟩ := by
    decide +kernel
  have hwf : (reached expiringHold).WF := wf_reached _
  constructor
  · intro h
    have hiff := h expiringHold _ _ _ _ _ ⟨5, 0⟩ "purchase" hk ha rfl hg rfl
    rw [hwf.captureHold_iff hk ha hg rfl] at hiff
    exact absurd (hiff.mpr rfl) (by decide)
  · intro h
    -- it adds a transaction
    have hcount : (exec (⟨5, 0⟩, captureForMerchant ⟨"hld_3"⟩ 0)
          (reached expiringHold)).book.transactions.keys.card
        ≠ (reached expiringHold).book.transactions.keys.card := by
      decide +kernel
    have hquiet := h (expiringHold ++ [(⟨5, 0⟩, captureForMerchant ⟨"hld_3"⟩ 0)]) expiringHold []
      (⟨5, 0⟩, captureForMerchant ⟨"hld_3"⟩ 0) [] _ _ ⟨5, 0⟩ (by simp) hk (by decide) le_rfl
    exact hquiet ⟨_, _, _, rfl, fun heq => hcount (congrArg (fun m => m.keys.card) heq)⟩

end Register

end CoreBanking.Deposit
