import CoreBanking.Deposit.Holds
import CoreBanking.Ledger.Postings

/-!
# What the status of an account stops

`CreateHold` and `CheckWithdrawal` ask for the status of the account, `CaptureHold` does
not, and `Close` asks for the balance but not for holds. So a hold that was placed
before outlives a freeze and a closing.

- `debitsActive_iff`: an operation debits an account that is not active exactly if it is
  the capture of a hold on such an account;
- `closedEmpty_iff`: a closed account stays empty and free of holds exactly as long as
  none is closed with a hold on it, and nothing is captured in favour of one;
- `statuses_gate`: both, for all runs from an empty register;
- `status_ignored`: a run for either.
-/

namespace CoreBanking.Deposit.Register

open Ledger (Book newBook Entry effect_eq_zero newEntries)

/-! ## Debits -/

section Debits

variable {Amount : Type} [AddCommGroup Amount] [LinearOrder Amount]

/-- Only a capture posts. -/
theorem Transition.captures_or {r r' : Register Amount} {now : Time} {op : Op Amount}
    (ht : Transition now r op r') :
    (∃ h a counterparty amount, r.Captures op h a counterparty amount) ∨
      r'.book.transactions = r.book.transactions := by
  cases ht with
  | captured k counterparty captureAmount description h acct hk hactive hacct hacc =>
    exact .inl ⟨h, acct, _, _, .intro k counterparty captureAmount description h acct hk
      hactive hacct hacc⟩
  | opened => exact .inr rfl
  | status => exact .inr rfl
  | held => exact .inr rfl
  | released => exact .inr rfl
  | snapshot => exact .inr rfl

/-- Between two states, only the GL accounts of active accounts are debited. -/
def DebitsActive (r r' : Register Amount) : Prop :=
  ∀ id a, r.accounts.lookup id = some a → a.status ≠ .active →
    ∀ amount, ¬r.book.Posts r'.book .debit a.glAccount amount

/-- A capture that goes through is on the hold of an active account. -/
def CapturesActive (r : Register Amount) (op : Op Amount) : Prop :=
  ∀ h a counterparty amount, r.Captures op h a counterparty amount → a.status = .active

variable {r : Register Amount}

/-- An operation debits active accounts only, unless it is the capture of a hold on
another one. -/
theorem WF.debitsActive_iff (h : r.WF) (now : Time) (op : Op Amount) :
    DebitsActive r (exec (now, .register op) r) ↔ r.CapturesActive op := by
  by_cases hcap : ∃ hd acct counterparty amount, r.Captures op hd acct counterparty amount
  · obtain ⟨hd, acct, counterparty, amount, hcap⟩ := hcap
    cases hcap with
    | intro k counterparty captureAmount description hd acct hk hactive hacct hacc =>
      rw [exec_captureHold hk hactive hacct hacc now]
      have hposts : ∀ a amount, r.book.Posts (r.afterCapture now k hd (captureRequest acct hd
          counterparty captureAmount description)).book .debit a amount ↔
            a = acct.glAccount ∧ amount = hd.captured captureAmount := by
        intro a amount
        refine (h.book.posts_transfer rfl).trans ?_
        simp [Hold.captured]
      constructor
      · intro hdebits hd' acct' counterparty' amount' hcap'
        cases hcap' with
        | intro _ _ _ _ _ _ hk' _ hacct' =>
          cases hk.symm.trans hk'
          cases hacct.symm.trans hacct'
          by_contra hstatus
          exact hdebits _ acct hacct hstatus _ ((hposts _ _).mpr ⟨rfl, rfl⟩)
      · intro hall id a ha hstatus amount hpost
        obtain ⟨hgl, -⟩ := (hposts _ _).mp hpost
        have heq := h.gl_unique id _ a acct ha hacct hgl
        subst heq
        cases ha.symm.trans hacct
        exact hstatus (hall _ _ _ _ (.intro k counterparty captureAmount description hd _ hk
          hactive hacct hacc))
  · have hall : r.CapturesActive op := fun hd a counterparty amount hc =>
      absurd ⟨hd, a, counterparty, amount, hc⟩ hcap
    have hnothing : (exec (now, .register op) r).book.transactions = r.book.transactions := by
      rcases exec_register now op r with heq | ht
      · rw [heq]
      · exact ht.captures_or.resolve_left hcap
    exact iff_of_true (fun _ _ _ _ _ => Book.not_posts_of_eq hnothing) hall

end Debits

/-! ## Closed accounts -/

section Closed

variable {Amount : Type} [AddCommGroup Amount] {r r' : Register Amount} {now : Time}

/-- Closed accounts hold nothing, and no hold on them is active. -/
def ClosedEmpty (r : Register Amount) : Prop :=
  ∀ id a, r.accounts.lookup id = some a → a.status = .closed →
    r.bookBalance a = .ok 0 ∧
      ∀ k h, r.holds.lookup k = some h → h.accountID = id → h.status ≠ .active

/-- If no account is closed, no money reaches closed accounts and the only new holds are on
others, closed accounts stay empty. -/
theorem ClosedEmpty.kept (hempty : r.ClosedEmpty)
    (haccts : ∀ id a', r'.accounts.lookup id = some a' → a'.status = .closed →
      ∃ a, r.accounts.lookup id = some a ∧ a.status = .closed ∧
        r'.bookBalance a' = r.bookBalance a)
    (hholds : ∀ k h, r'.holds.lookup k = some h → h.status = .active →
      r.holds.lookup k = some h ∨
        ∃ a, r'.accounts.lookup h.accountID = some a ∧ a.status ≠ .closed) :
    r'.ClosedEmpty := by
  intro id a' ha' hclosed
  obtain ⟨a, ha, hclosed₀, hbook⟩ := haccts id a' ha' hclosed
  obtain ⟨hzero, hnone⟩ := hempty id a ha hclosed₀
  refine ⟨hbook.trans hzero, fun k h hk hid hactive => ?_⟩
  rcases hholds k h hk hactive with hold | ⟨b, hb, hopen⟩
  · exact hnone k h hold hid hactive
  · rw [hid, ha'] at hb
    cases hb
    exact hopen hclosed

/-- A closing leaves the closed accounts empty if no hold on the account is active. -/
theorem ClosedEmpty.closed_iff (hempty : r.ClosedEmpty) {id : AccountID}
    {acct : Account Amount} {eventType : AuditEventType} (hacct : r.accounts.lookup id = some acct)
    (hzero : r.bookBalance acct = .ok 0) :
    (r.withStatus now id acct .closed eventType).ClosedEmpty ↔
      ∀ k h, r.holds.lookup k = some h → h.accountID = id → h.status ≠ .active := by
  constructor
  · intro hafter
    exact (hafter id _ (Finmap.lookup_insert _) rfl).2
  · intro hnone id' a ha hclosed
    rcases Finmap.lookup_insert_eq_some.mp ha with ⟨rfl, rfl⟩ | ⟨-, ha⟩
    · exact ⟨hzero, hnone⟩
    · exact hempty id' a ha hclosed

variable [LinearOrder Amount]

/-- Others only post credits to accounts while they are active. -/
def Funds (r : Register Amount) (step : Time × Step Amount) : Prop :=
  match step.2 with
  | .register _ => True
  | .ledger op => r.EachBacking (op.posted r.book) fun e a =>
      e.direction = .credit ∧ a.status = .active

instance (r : Register Amount) (step : Time × Step Amount) : Decidable (r.Funds step) :=
  match step with
  | (_, .register _) => .isTrue trivial
  | (_, .ledger _) => inferInstanceAs (Decidable (r.EachBacking _ _))

/-- An account that is closed has no active hold, and nothing is captured in favour of a
closed one. -/
def ClosesClean (r : Register Amount) (step : Time × Step Amount) : Prop :=
  match step.2 with
  | .register op =>
    (∀ id a, op = .close id → r.accounts.lookup id = some a → a.status ≠ .closed →
      r.bookBalance a = .ok 0 →
        ∀ k h, r.holds.lookup k = some h → h.accountID = id → h.status ≠ .active) ∧
    ∀ h a counterparty amount, r.Captures op h a counterparty amount →
      ∀ id b, r.accounts.lookup id = some b → b.status = .closed →
        b.glAccount ≠ counterparty
  | .ledger _ => True

variable {op : Op Amount}

/-- Calls other than closings and captures do not have to be clean. -/
theorem closesClean_of (hclose : ∀ id, op ≠ .close id)
    (hcap : ∀ h a counterparty amount, ¬r.Captures op h a counterparty amount) :
    r.ClosesClean (now, .register op) :=
  ⟨fun id _ hop => absurd hop (hclose id),
    fun h a counterparty amount hc => absurd hc (hcap h a counterparty amount)⟩

/-- A capture leaves the closed accounts empty if it is not in favour of one of them: it
is not from one of them, as they have no holds left. -/
theorem ClosedEmpty.captured_iff (hempty : r.ClosedEmpty) (h : r.WF) {k : HoldID}
    {hd : Hold Amount} {acct : Account Amount} {counterparty : Ledger.AccountID}
    {captureAmount : Amount} {description : String} (hk : r.holds.lookup k = some hd)
    (hactive : hd.status = .active) (hacct : r.accounts.lookup hd.accountID = some acct)
    (hpos : 0 < hd.captured captureAmount) :
    (r.afterCapture now k hd
        (captureRequest acct hd counterparty captureAmount description)).ClosedEmpty ↔
      ∀ id b, r.accounts.lookup id = some b → b.status = .closed →
        b.glAccount ≠ counterparty := by
  -- a closed account has no hold, so the capture can only credit it
  have hbalance : ∀ id b, r.accounts.lookup id = some b → b.status = .closed →
      (r.afterCapture now k hd
          (captureRequest acct hd counterparty captureAmount description)).bookBalance b
        = .ok (if b.glAccount = counterparty then hd.captured captureAmount else 0) := by
    intro id b hb hclosed
    obtain ⟨hzero, hnone⟩ := hempty id b hb hclosed
    have hother : b.glAccount ≠ acct.glAccount := by
      intro hgl
      have heq := h.gl_unique id _ b acct hb hacct hgl
      exact hnone k hd hk heq.symm hactive
    rw [h.bookBalance_eq hb] at hzero
    have hbook := h.balance_afterCapture hb now k hd acct counterparty captureAmount description
    rw [Except.ok.inj hzero, if_neg hother, sub_zero, zero_add] at hbook
    obtain ⟨g, hg, -⟩ := h.gl id b hb
    have hlook : (r.afterCapture now k hd (captureRequest acct hd counterparty captureAmount
        description)).book.accounts.lookup b.glAccount = some g := hg
    rw [bookBalance, Book.bookBalance_of_lookup hlook, hbook]
    rfl
  constructor
  · intro hafter id b hb hclosed heq
    obtain ⟨hzero, -⟩ := hafter id b hb hclosed
    rw [hbalance id b hb hclosed, if_pos heq] at hzero
    exact hpos.ne' (Except.ok.inj hzero)
  · intro hothers id b hb hclosed
    refine ⟨?_, fun k' h' hk' hid => ?_⟩
    · rw [hbalance id b hb hclosed, if_neg (hothers id b hb hclosed)]
    · -- the captured hold is the only one that changed
      rcases Finmap.lookup_insert_eq_some.mp hk' with ⟨-, rfl⟩ | ⟨-, hk'⟩
      · exact HoldStatus.noConfusion
      · exact (hempty id b hb hclosed).2 k' h' hk' hid

/-- What others post leaves the closed accounts empty. -/
theorem ClosedEmpty.ledger (hempty : r.ClosedEmpty) (h : r.WF) {op : Book.Op Amount}
    (hfunds : r.Funds (now, .ledger op)) : (exec (now, .ledger op) r).ClosedEmpty := by
  have hwf := exec_wf (now, .ledger op) r h
  refine hempty.kept (fun id a ha hclosed => ⟨a, ha, hclosed, ?_⟩) fun _ _ hk _ => .inl hk
  rw [hwf.bookBalance_eq ha, h.bookBalance_eq ha]
  obtain ⟨g, hg, -⟩ := h.gl id a ha
  rcases (Book.exec_change now op r.book).balance h.book hg with hsame | ⟨heffect, -⟩
  · exact congrArg Except.ok hsame
  · rw [effect_eq_zero, add_zero] at heffect
    · exact congrArg Except.ok heffect
    · intro e he hgl
      -- an entry on a backing account is a credit to an active one
      have hactive := (hfunds e he id a ha hgl).2
      rw [hclosed] at hactive
      cases hactive

/-- Of the calls on a register, exactly the clean ones leave closed accounts empty. -/
theorem Transition.closedEmpty_iff (ht : Transition now r op r') (h : r.WF)
    (hempty : r.ClosedEmpty) : r'.ClosedEmpty ↔ r.ClosesClean (now, .register op) := by
  have hgrows := ht.change.grows h
  have hwf := ht.change.wf h
  cases ht with
  | opened subledger name limit =>
    refine iff_of_true ?_ (closesClean_of (fun _ hop => by cases hop) fun _ _ _ _ hc => by cases hc)
    refine hempty.kept (fun id a ha hclosed => ?_) fun _ _ hk _ => .inl hk
    rcases (Finmap.lookup_insert_fresh (h.fresh_account now subledger name limit)).mp ha with
      ⟨rfl, rfl⟩ | hold
    · -- a new account is active
      cases hclosed
    · obtain ⟨g, hg, -⟩ := h.gl id a hold
      refine ⟨a, hold, hclosed, ?_⟩
      rw [hwf.bookBalance_eq ha, h.bookBalance_eq hold]
      exact congrArg Except.ok (Book.balance_congr hg (hgrows.glAccounts _ g hg) rfl)
  | status id target eventType acct hmoves hacct hzero =>
    by_cases hclosed : target = .closed
    · subst hclosed
      obtain rfl := hmoves.closed_iff.mp rfl
      refine (hempty.closed_iff hacct (hzero rfl)).trans ?_
      constructor
      · intro hnone
        refine ⟨fun id' a hop ha _ _ => ?_, fun _ _ _ _ hcap => absurd hcap hmoves.not_captures⟩
        cases hop
        exact hnone
      · intro hclean
        exact hclean.1 id acct rfl hacct hmoves.source_ne (hzero rfl)
    · have hclose : ∀ id', op ≠ .close id' := by
        rintro id' rfl
        cases hmoves.target
        exact hclosed rfl
      refine iff_of_true ?_ (closesClean_of hclose fun _ _ _ _ => hmoves.not_captures)
      refine hempty.kept (fun id' a ha hclosed' => ?_) fun _ _ hk _ => .inl hk
      rcases Finmap.lookup_insert_eq_some.mp ha with ⟨-, rfl⟩ | ⟨-, hold⟩
      · exact absurd hclosed' hclosed
      · exact ⟨a, hold, hclosed', rfl⟩
  | held req acct available hacct hactive =>
    refine iff_of_true ?_ (closesClean_of (fun _ hop => by cases hop) fun _ _ _ _ hc => by cases hc)
    refine hempty.kept (fun _ a ha hclosed => ⟨a, ha, hclosed, rfl⟩) fun k hd hk _ => ?_
    rcases (Finmap.lookup_insert_fresh (h.fresh_hold now req)).mp hk with ⟨-, rfl⟩ | hold
    · -- the new hold is on an active account
      right
      refine ⟨acct, hacct, ?_⟩
      rw [hactive]
      exact AccountStatus.noConfusion
    · exact .inl hold
  | released k hd hk =>
    refine iff_of_true ?_ (closesClean_of (fun _ hop => by cases hop) fun _ _ _ _ hc => by cases hc)
    refine hempty.kept (fun _ a ha hclosed => ⟨a, ha, hclosed, rfl⟩) fun k' hd' hk' hactive => ?_
    rcases Finmap.lookup_insert_eq_some.mp hk' with ⟨-, rfl⟩ | ⟨-, hold⟩
    · cases hactive
    · exact .inl hold
  | captured k counterparty captureAmount description hd acct hk hactive hacct hacc =>
    have hpos : 0 < hd.captured captureAmount := hacc.positive _ List.mem_cons_self
    refine (hempty.captured_iff h hk hactive hacct hpos).trans ?_
    constructor
    · intro hothers
      refine ⟨fun _ _ hop => (by cases hop), fun hd' acct' counterparty' amount hcap => ?_⟩
      cases hcap
      exact hothers
    · intro hclean
      exact hclean.2 _ _ _ _ (.intro k counterparty captureAmount description hd acct hk hactive
        hacct hacc)
  | snapshot =>
    exact iff_of_true hempty
      (closesClean_of (fun _ hop => by cases hop) fun _ _ _ _ hc => by cases hc)

/-- A call that changes nothing was clean. -/
theorem closesClean_of_refused (heq : exec (now, .register op) r = r) :
    r.ClosesClean (now, .register op) := by
  refine ⟨fun id a hop ha hopen hzero => ?_, fun _ _ _ _ hcap => absurd heq (hcap.exec_ne now)⟩
  subst hop
  have hdone : exec (now, .register (.close id)) r
      = r.withStatus now id a .closed .accountClosed :=
    Call.final_of_ok (close_of_empty ha hopen hzero now)
  rw [heq] at hdone
  -- a closing is logged, and the log draws a number
  have hcount := congrArg Register.idCounter hdone
  simp only [withStatus, log] at hcount
  omega

/-- A step leaves closed accounts empty exactly if it is clean. -/
theorem WF.closedEmpty_iff (h : r.WF) (hempty : r.ClosedEmpty) {step : Time × Step Amount}
    (hfunds : r.Funds step) : (exec step r).ClosedEmpty ↔ r.ClosesClean step := by
  obtain ⟨now, step⟩ := step
  cases step with
  | register op =>
    rcases exec_register now op r with heq | ht
    · exact iff_of_true (heq.symm ▸ hempty) (closesClean_of_refused heq)
    · exact ht.closedEmpty_iff h hempty
  | ledger op => exact iff_of_true (hempty.ledger h hfunds) trivial

end Closed

/-! ## Runs -/

/-- **Account status gates the money** in a register that others fund exactly if captures
are on holds of active accounts, closings find no active hold, and no capture is in favour
of a closed account. -/
theorem statuses_gate {Amount : Type} [AddCommGroup Amount] [LinearOrder Amount]
    (steps : List (Time × Step Amount)) :
    (∀ now op, DebitsActive (reached steps) (exec (now, .register op) (reached steps)) ↔
      (reached steps).CapturesActive op) ∧
    (Along exec Funds (newRegister (newBook Amount)) steps →
      ((∀ pre, pre <+: steps → (reached pre).ClosedEmpty) ↔
        Along exec ClosesClean (newRegister (newBook Amount)) steps)) := by
  -- the first part is about one call; the second goes by induction on the run
  refine ⟨(wf_reached steps).debitsActive_iff, fun hfunds => ?_⟩
  let inv (r : Register Amount) : Prop := r.WF ∧ r.ClosedEmpty
  have hstep : ∀ step r, r.Funds step → inv r → (inv (exec step r) ↔ r.ClosesClean step) := by
    intro step r hfunds hr
    rw [← hr.1.closedEmpty_iff hr.2 hfunds]
    exact ⟨fun h => h.2, fun h => ⟨exec_wf step r hr.1, h⟩⟩
  have hinit : inv (newRegister (newBook Amount)) :=
    ⟨wf_newRegister Book.wf_newBook, fun id a ha => by simp [newRegister] at ha⟩
  rw [← along_iff_invariant_of hstep hinit hfunds]
  exact forall₂_congr fun pre _ => ⟨fun h => ⟨wf_reached pre, h⟩, fun h => h.2⟩

/-- A hold takes all that Alice has, and her account is frozen and then closed. -/
def leaving : List (Time × Step ℤ) :=
  aliceRun 0 [fundAlice 100, holdAlice 100,
    .register (.captureHold ⟨"hld_3"⟩ ⟨"acct_7"⟩ 0 "purchase"),
    .register (.freeze ⟨"dep_1"⟩), .register (.close ⟨"dep_1"⟩)]

/-- The theorem at a run with a freeze and a closing. -/
theorem statuses_gate_leaving :
    ((reached leaving).accounts.lookup ⟨"dep_1"⟩).map (·.status) = some .closed ∧
      Along exec Funds (newRegister (newBook ℤ)) leaving ∧
      ((∀ pre, pre <+: leaving → (reached pre).ClosedEmpty) ↔
        Along exec ClosesClean (newRegister (newBook ℤ)) leaving) := by
  have hclosed : ((reached leaving).accounts.lookup ⟨"dep_1"⟩).map (·.status)
      = some .closed := by
    decide +kernel
  have hfunds : Along exec Funds (newRegister (newBook ℤ)) leaving := by
    decide +kernel
  exact ⟨hclosed, hfunds, (statuses_gate leaving).2 hfunds⟩

/-- The account of Alice is frozen while a hold on it is active. -/
def frozenWithHold : List (Time × Step ℤ) :=
  aliceRun 0 [fundAlice 100, holdAlice 10, .register (.freeze ⟨"dep_1"⟩)]

/-- Her empty account is closed while a hold on it is active. -/
def closedWithHold : List (Time × Step ℤ) :=
  aliceRun 50 [holdAlice 10, .register (.close ⟨"dep_1"⟩)]

/-- A hold is captured after a freeze, and an account is closed with a hold on it. -/
theorem status_ignored :
    (¬∀ (steps : List (Time × Step ℤ)) now op,
      DebitsActive (reached steps) (exec (now, .register op) (reached steps))) ∧
    ¬∀ steps : List (Time × Step ℤ), Along exec Funds (newRegister (newBook ℤ)) steps →
      (reached steps).ClosedEmpty := by
  constructor
  · intro h
    have hdebits := h frozenWithHold ⟨1, 0⟩
      (.captureHold ⟨"hld_3"⟩ ⟨"acct_7"⟩ 0 "purchase") ⟨"dep_1"⟩
    have hacct : (reached frozenWithHold).accounts.lookup ⟨"dep_1"⟩
        = some ⟨⟨"dep_1"⟩, ⟨"acct_9"⟩, "Alice", .frozen, 0, ⟨1, 0⟩⟩ := by
      decide +kernel
    have hposted : ⟨⟨""⟩, ⟨"acct_9"⟩, 10, .debit⟩ ∈ newEntries
        (reached frozenWithHold).book.transactions
        (exec (⟨1, 0⟩, .register (.captureHold ⟨"hld_3"⟩ ⟨"acct_7"⟩ 0 "purchase"))
          (reached frozenWithHold)).book.transactions := by
      decide +kernel
    exact hdebits _ hacct (by decide) 10 ⟨_, hposted, rfl, rfl, rfl⟩
  · intro h
    have hfunds : Along exec Funds (newRegister (newBook ℤ)) closedWithHold := by
      decide +kernel
    have hacct : (reached closedWithHold).accounts.lookup ⟨"dep_1"⟩
        = some ⟨⟨"dep_1"⟩, ⟨"acct_9"⟩, "Alice", .closed, 50, ⟨1, 0⟩⟩ := by
      decide +kernel
    have hhold : (reached closedWithHold).holds.lookup ⟨"hld_3"⟩
        = some ⟨⟨"hld_3"⟩, ⟨"dep_1"⟩, 10, Time.zero, "", .active, ⟨1, 0⟩⟩ := by
      decide +kernel
    exact (h closedWithHold hfunds ⟨"dep_1"⟩ _ hacct rfl).2 ⟨"hld_3"⟩ _ hhold rfl rfl

end CoreBanking.Deposit.Register
