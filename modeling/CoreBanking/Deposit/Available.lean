import CoreBanking.Deposit.Holds

/-!
# The available balance

`availableOf` says what is available on an account: its book balance, less what all the
holds on it reserve, plus its overdraft limit. The code writes the formula out three times,
over the list of holds of the account. `available_views`: in every state that a run
reaches, all the operations that report it or compare with it agree with `availableOf`.
-/

namespace CoreBanking.Deposit

open Ledger (Book newBook)

namespace Register

section Available

variable {Amount : Type} [AddCommGroup Amount]

/-- Book balance, minus what the holds reserve, plus the overdraft limit. -/
def availableOf (r : Register Amount) (now : Time) (a : Account Amount) : Amount :=
  r.book.balance a.glAccount - r.reserved now a.id + a.overdraftLimit

/-- It depends on the balance and on the holds. -/
theorem availableOf_congr {r r' : Register Amount} {now : Time} {a : Account Amount}
    (hbook : r'.book.balance a.glAccount = r.book.balance a.glAccount)
    (hholds : r'.holds = r.holds) : r'.availableOf now a = r.availableOf now a := by
  rw [availableOf, availableOf, hbook, reserved, reserved, hholds]

/-- A hold that leaves the active status gives back what it reserved. -/
theorem availableOf_withHold {r : Register Amount} {k : HoldID} {hd : Hold Amount}
    (hk : r.holds.lookup k = some hd) {status : HoldStatus} (hstatus : status ≠ .active)
    (now : Time) (a : Account Amount) :
    (r.withHold k hd status).availableOf now a
      = r.availableOf now a + if hd.accountID = a.id then hd.reserved now else 0 := by
  rw [availableOf, reserved_withHold hk hstatus, availableOf]
  show r.book.balance a.glAccount - _ + a.overdraftLimit = _
  abel

variable [LinearOrder Amount] {r : Register Amount} {now : Time} {id : AccountID}
  {a : Account Amount}

/-- `availableOf` is what `availableLocked` computes. -/
theorem WF.available_eq (h : r.WF) (hi : r.Indexed) (ha : r.accounts.lookup id = some a)
    (now : Time) : r.available now a = .ok (r.availableOf now a) := by
  rw [available, h.bookBalance_eq ha, hi.computeActiveHolds_eq]
  rfl

theorem WF.getBalance_eq (h : r.WF) (hi : r.Indexed) (ha : r.accounts.lookup id = some a)
    (now : Time) : r.getBalance now id
      = .ok ⟨r.book.balance a.glAccount, r.reserved now a.id, r.availableOf now a⟩ := by
  rw [getBalance, getAccount, ha, availableOf, h.account_id id a ha]
  show (r.bookBalance a >>= fun _ => r.computeActiveHolds now id >>= fun _ => _) = _
  rw [h.bookBalance_eq ha, hi.computeActiveHolds_eq]
  rfl

/-- The snapshot of an account has the balance that `GetBalance` reports. -/
theorem WF.takeEndOfDaySnapshot_eq (h : r.WF) (hi : r.Indexed)
    (ha : r.accounts.lookup id = some a) (now date : Time) :
    let snap : Snapshot Amount := ⟨id, date,
      ⟨r.book.balance a.glAccount, r.reserved now id, r.availableOf now a⟩, now⟩
    takeEndOfDaySnapshot now id date r
      = .ok snap ((r.withSnapshot id snap).log now .snapshotTaken id.val (.snapshot snap)) := by
  intro snap
  rw [takeEndOfDaySnapshot, Call.get_bind, ha, orThrow_some_bind, h.bookBalance_eq ha,
    Call.ofExcept_ok_bind, hi.computeActiveHolds_eq, Call.ofExcept_ok_bind]
  simp only [snap, availableOf, h.account_id id a ha]
  rfl

/-- A hold takes what it reserves from the available balance of its account. -/
theorem WF.availableOf_addHoldTo (h : r.WF) (req : CreateHoldRequest Amount)
    (a : Account Amount) : (r.addHoldTo now req).availableOf now a
      = r.availableOf now a
        - if req.accountID = a.id then (r.newHold now req).reserved now else 0 := by
  rw [availableOf, h.reserved_addHoldTo, availableOf]
  show r.book.balance a.glAccount - _ + a.overdraftLimit = _
  abel

/-- An unexpired hold lowers what is available on its account by its amount, and nothing
elsewhere. -/
theorem WF.createHold_lowers (h : r.WF) {req : CreateHoldRequest Amount}
    {hd : Hold Amount} {r' : Register Amount} (hok : createHold now req r = .ok hd r')
    (hlive : ¬hd.Expired now) (ha : r.accounts.lookup id = some a) :
    r'.accounts = r.accounts ∧ r'.availableOf now a
      = r.availableOf now a - if req.accountID = id then req.amount else 0 := by
  rcases createHold_cases now req r with ⟨e, he⟩ | ⟨acct, available, -, -, -, -, -, hok'⟩
  · rw [he] at hok
    cases hok
  · rw [hok'] at hok
    cases hok
    have hreserved : (r.newHold now req).reserved now = req.amount := if_pos ⟨rfl, hlive⟩
    rw [h.availableOf_addHoldTo, hreserved, h.account_id id a ha]
    exact ⟨rfl, rfl⟩

/-- `CheckWithdrawal` computes what would be left, and looks at its sign. -/
theorem WF.checkWithdrawal_iff_left (h : r.WF) (hi : r.Indexed)
    (ha : r.accounts.lookup id = some a) (now : Time) (amount : Amount) :
    r.checkWithdrawal now id amount = .ok () ↔
      a.status = .active ∧ 0 ≤ r.availableOf now a - amount := by
  rw [checkWithdrawal_eq_ok]
  constructor
  · rintro ⟨acct, available, hacct, hactive, havail, hsuff⟩
    cases ha.symm.trans hacct
    rw [h.available_eq hi ha] at havail
    cases havail
    exact ⟨hactive, not_lt.mp hsuff⟩
  · rintro ⟨hactive, hle⟩
    exact ⟨a, _, ha, hactive, h.available_eq hi ha now, not_lt.mpr hle⟩

/-- So does `CreateHold`. -/
theorem WF.createHold_iff_left (h : r.WF) (hi : r.Indexed) {req : CreateHoldRequest Amount}
    (ha : r.accounts.lookup req.accountID = some a) (hpos : 0 < req.amount) (now : Time) :
    (∃ hd r', createHold now req r = .ok hd r') ↔
      a.status = .active ∧ 0 ≤ r.availableOf now a - req.amount := by
  constructor
  · rintro ⟨hd, r', hok⟩
    rcases createHold_cases now req r with
      ⟨e, he⟩ | ⟨acct, available, hacct, hactive, -, havail, hsuff, -⟩
    · rw [he] at hok
      cases hok
    · cases ha.symm.trans hacct
      rw [h.available_eq hi ha] at havail
      cases havail
      exact ⟨requireActive_eq_ok.mp hactive, not_lt.mp hsuff⟩
  · rintro ⟨hactive, hle⟩
    exact ⟨_, _, createHold_of_available ha hactive hpos (h.available_eq hi ha now)
      (not_lt.mpr hle)⟩

variable [IsOrderedAddMonoid Amount]

/-- As time passes holds expire, and more becomes available. -/
theorem WF.availableOf_mono (h : r.WF) {later : Time} (hlater : now.ns ≤ later.ns)
    (a : Account Amount) : r.availableOf now a ≤ r.availableOf later a := by
  have hless : r.reserved later a.id ≤ r.reserved now a.id := by
    refine Finmap.sum_le_sum fun k hd hk => ?_
    split
    · exact Hold.reserved_anti (h.positive k hd hk) hlater
    · exact le_rfl
  exact add_le_add_left (sub_le_sub_left hless _) _

/-- `CheckWithdrawal` compares with the available balance. -/
theorem WF.checkWithdrawal_iff (h : r.WF) (hi : r.Indexed)
    (ha : r.accounts.lookup id = some a) (now : Time) (amount : Amount) :
    r.checkWithdrawal now id amount = .ok () ↔
      a.status = .active ∧ amount ≤ r.availableOf now a := by
  rw [h.checkWithdrawal_iff_left hi ha, sub_nonneg]

/-- So does `CreateHold`. -/
theorem WF.createHold_iff (h : r.WF) (hi : r.Indexed) {req : CreateHoldRequest Amount}
    (ha : r.accounts.lookup req.accountID = some a) (hpos : 0 < req.amount) (now : Time) :
    (∃ hd r', createHold now req r = .ok hd r') ↔
      a.status = .active ∧ req.amount ≤ r.availableOf now a := by
  rw [h.createHold_iff_left hi ha hpos, sub_nonneg]

end Available

/-- **The views of the available balance agree.** In every state that a run reaches,
`GetBalance` and a snapshot report `availableOf`; `CheckWithdrawal` and `CreateHold` let
through what an active account has available. Placing an unexpired hold takes its amount
from that, releasing an unexpired active one gives it back, and other accounts keep what
they have. -/
theorem available_views (steps : List (Time × Step ℤ)) (now : Time) (id : AccountID)
    (a : Account ℤ) (ha : (reached steps).accounts.lookup id = some a) :
    let r := reached steps
    (∃ bal, r.getBalance now id = .ok bal ∧ bal.available = r.availableOf now a) ∧
    (∀ date, ∃ snap r', takeEndOfDaySnapshot now id date r = .ok snap r' ∧
      snap.balance.available = r.availableOf now a) ∧
    (∀ amount, 0 < amount → (r.checkWithdrawal now id amount = .ok () ↔
      a.status = .active ∧ amount ≤ r.availableOf now a)) ∧
    (∀ req, req.accountID = id → 0 < req.amount →
      ((∃ hd r', createHold now req r = .ok hd r') ↔
        a.status = .active ∧ req.amount ≤ r.availableOf now a)) ∧
    (∀ req hd r', req.accountID = id → createHold now req r = .ok hd r' →
      ¬hd.Expired now →
        r'.accounts = r.accounts ∧ r'.availableOf now a = r.availableOf now a - req.amount ∧
        ∀ id' a', id' ≠ id → r.accounts.lookup id' = some a' →
          r'.availableOf now a' = r.availableOf now a') ∧
    ∀ k hd, r.holds.lookup k = some hd → hd.accountID = id → hd.status = .active →
      ¬hd.Expired now → ∃ r', releaseHold now k r = .ok () r' ∧
        r'.accounts = r.accounts ∧ r'.availableOf now a = r.availableOf now a + hd.amount ∧
        ∀ id' a', id' ≠ id → r.accounts.lookup id' = some a' →
          r'.availableOf now a' = r.availableOf now a' := by
  intro r
  have h : r.WF := wf_reached steps
  have hi : r.Indexed := indexed_reached steps
  refine ⟨⟨_, h.getBalance_eq hi ha now, rfl⟩,
    fun date => ⟨_, _, h.takeEndOfDaySnapshot_eq hi ha now date, rfl⟩,
    fun amount _ => h.checkWithdrawal_iff hi ha now amount, ?_, ?_, ?_⟩
  · rintro req rfl hpos
    exact h.createHold_iff hi ha hpos now
  · rintro req hd r' rfl hok hlive
    obtain ⟨haccts, hlower⟩ := h.createHold_lowers hok hlive ha
    refine ⟨haccts, by rw [hlower, if_pos rfl], fun id' a' hne ha' => ?_⟩
    rw [(h.createHold_lowers hok hlive ha').2, if_neg (Ne.symm hne), sub_zero]
  · rintro k hd hk rfl hactive hlive
    refine ⟨_, releaseHold_of_active hk hactive now, rfl, ?_, ?_⟩
    · show (r.withHold k hd .released).availableOf now a = _
      rw [availableOf_withHold hk (by decide), h.account_id _ a ha, if_pos rfl, Hold.reserved,
        if_pos ⟨hactive, hlive⟩]
    · intro id' a' hne ha'
      show (r.withHold k hd .released).availableOf now a' = _
      rw [availableOf_withHold hk (by decide), h.account_id id' a' ha', if_neg (Ne.symm hne),
        add_zero]

/-- The theorem for an account with a hold on it. -/
theorem available_views_alice :
    (reached (aliceRun 0 [fundAlice 100, holdAlice 10])).availableOf ⟨2, 0⟩
        ⟨⟨"dep_1"⟩, ⟨"acct_9"⟩, "Alice", .active, 0, ⟨1, 0⟩⟩ = 90 ∧
      ∃ bal, (reached (aliceRun 0 [fundAlice 100, holdAlice 10])).getBalance ⟨2, 0⟩ ⟨"dep_1"⟩
          = .ok bal ∧
        bal.available = (reached (aliceRun 0 [fundAlice 100, holdAlice 10])).availableOf ⟨2, 0⟩
          ⟨⟨"dep_1"⟩, ⟨"acct_9"⟩, "Alice", .active, 0, ⟨1, 0⟩⟩ := by
  have ha : (reached (aliceRun 0 [fundAlice 100, holdAlice 10])).accounts.lookup ⟨"dep_1"⟩
      = some ⟨⟨"dep_1"⟩, ⟨"acct_9"⟩, "Alice", .active, 0, ⟨1, 0⟩⟩ := by
    decide +kernel
  exact ⟨by decide +kernel, (available_views _ ⟨2, 0⟩ _ _ ha).1⟩

end Register

end CoreBanking.Deposit
