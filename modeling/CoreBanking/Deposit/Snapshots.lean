import CoreBanking.Deposit.Available
import CoreBanking.Deposit.List

/-!
# End-of-day snapshots and value dates

`TakeEndOfDaySnapshot` records what `BookBalance` answers at the time of the call,
whatever the business date it is for. A transaction belongs to the day of its value
date, which may lie ahead of its booking.

- `valueDated`: what the transactions that are value-dated to the end of a day, or
  before it, put on an account;
- `snapshot_value_dated_iff`: the book figure of a snapshot is that, exactly if the
  transactions dated later cancel out on the account;
- `forward_dated_counted`: a credit that takes effect on a later day is in the
  snapshot of today.

A snapshot is stored under the calendar day of its date, in the location of that date,
and listed by the date as a point in time.

- `snapshots_listed_iff`: the listing has the latest snapshot of each day; it is in the
  order of the days exactly if that is the order of the points in time;
- `second_day_first`: with dates in two locations it need not be.
-/

namespace CoreBanking.Ledger.Book

variable {Amount : Type} [AddCommGroup Amount]

/-- The credit balance of an account from the transactions whose value date is not
after the end of the day of `date`. -/
def valueDated (s : Book Amount) (a : AccountID) (date : Time) : Amount :=
  s.transactions.sum fun _ tx =>
    if date.endOfDay.Before tx.valueDate then 0 else effect .credit a tx.entries

/-- What the transactions with a later value date put on the account. -/
def forwardDated (s : Book Amount) (a : AccountID) (date : Time) : Amount :=
  s.transactions.sum fun _ tx =>
    if date.endOfDay.Before tx.valueDate then effect .credit a tx.entries else 0

/-- The balance of a Liability account, split by value date. -/
theorem balance_eq_valueDated_add {s : Book Amount} {a : AccountID} {acct : Account}
    (ha : s.accounts.lookup a = some acct) (htype : acct.type = .liability) (date : Time) :
    s.balance a = s.valueDated a date + s.forwardDated a date := by
  rw [balance_of_lookup ha, computeBookBalance, htype, valueDated, forwardDated,
    ← Finmap.sum_add]
  refine Finmap.sum_congr fun k tx _ => ?_
  by_cases hlater : date.endOfDay.Before tx.valueDate
  · rw [if_pos hlater, if_pos hlater, zero_add]
    rfl
  · rw [if_neg hlater, if_neg hlater, add_zero]
    rfl

end CoreBanking.Ledger.Book

namespace CoreBanking.Deposit

open Ledger (Book newBook)

/-- The calendar day that a snapshot is for. -/
def Snapshot.day {Amount : Type} (snap : Snapshot Amount) : Int := snap.date.dateKey

namespace Register

/-! ## The value date -/

section ValueDates

variable {Amount : Type} [AddCommGroup Amount] [LinearOrder Amount]

/-- **Snapshots follow the value date** where later-dated transactions cancel out, and
nowhere else: in every state that a run reaches, for every account and business date. -/
theorem snapshot_value_dated_iff (steps : List (Time × Step Amount)) (now : Time)
    (id : AccountID) (a : Account Amount) (ha : (reached steps).accounts.lookup id = some a)
    (date : Time) :
    ∃ snap r', takeEndOfDaySnapshot now id date (reached steps) = .ok snap r' ∧
      (snap.balance.book = (reached steps).book.valueDated a.glAccount date ↔
        (reached steps).book.forwardDated a.glAccount date = 0) := by
  have h : (reached steps).WF := wf_reached steps
  obtain ⟨g, hg, htype⟩ := h.gl id a ha
  refine ⟨_, _, h.takeEndOfDaySnapshot_eq (indexed_reached steps) ha now date, ?_⟩
  show (reached steps).book.balance a.glAccount = _ ↔ _
  rw [Book.balance_eq_valueDated_add hg htype date, add_eq_left]

end ValueDates

/-- The day after tomorrow. -/
def inTwoDays : Time := (⟨1, 0⟩ : Time).add (48 * Time.hour)

/-- A credit of ten for Alice that takes effect two days from now. -/
def creditAhead : Step ℤ :=
  .ledger (.postTransaction
    { entries := Ledger.transfer ⟨"acct_5"⟩ ⟨"acct_9"⟩ 10
      valueDate := inTwoDays })

def aheadRun : List (Time × Step ℤ) := aliceRun 0 [fundAlice 100, creditAhead]

/-- The account of Alice. -/
def alice : Account ℤ :=
  ⟨⟨"dep_1"⟩, ⟨"acct_9"⟩, "Alice", .active, 0, ⟨1, 0⟩⟩

theorem alice_stored : (reached aheadRun).accounts.lookup ⟨"dep_1"⟩ = some alice := by
  decide +kernel

/-- Two days on, the credit has taken effect. -/
theorem snapshot_value_dated_alice :
    (reached aheadRun).book.forwardDated ⟨"acct_9"⟩ inTwoDays = 0 ∧
      ∃ snap r', takeEndOfDaySnapshot ⟨2, 0⟩ ⟨"dep_1"⟩ inTwoDays (reached aheadRun)
          = .ok snap r' ∧
        (snap.balance.book = (reached aheadRun).book.valueDated ⟨"acct_9"⟩ inTwoDays ↔
          (reached aheadRun).book.forwardDated ⟨"acct_9"⟩ inTwoDays = 0) :=
  ⟨by decide +kernel, snapshot_value_dated_iff _ ⟨2, 0⟩ ⟨"dep_1"⟩ alice alice_stored _⟩

/-- The snapshot for today has the credit of the day after tomorrow. -/
theorem forward_dated_counted : ¬∀ (steps : List (Time × Step ℤ)) (now : Time)
    (id : AccountID) (a : Account ℤ) (date : Time) (snap : Snapshot ℤ) (r' : Register ℤ),
    (reached steps).accounts.lookup id = some a →
    takeEndOfDaySnapshot now id date (reached steps) = .ok snap r' →
    snap.balance.book = (reached steps).book.valueDated a.glAccount date := by
  intro h
  have hcount := h aheadRun ⟨2, 0⟩ ⟨"dep_1"⟩ alice ⟨2, 0⟩ _ _
    alice_stored ((wf_reached _).takeEndOfDaySnapshot_eq (indexed_reached _) alice_stored _ _)
  revert hcount
  decide +kernel

/-! ## The business day -/

section BusinessDays

variable {Amount : Type} [AddCommGroup Amount] [LinearOrder Amount]

/-- The snapshot that a step takes of an account, if it does. -/
def taking (id : AccountID) (step : Time × Step Amount) (r : Register Amount) :
    List (Snapshot Amount) :=
  match step.2 with
  | .register (.takeEndOfDaySnapshot id' date) =>
    if id' = id then
      match takeEndOfDaySnapshot step.1 id' date r with
      | .ok snap _ => [snap]
      | .error _ _ => []
    else []
  | _ => []

/-- The snapshots that the steps of a run take of an account. -/
def taken (id : AccountID) (r : Register Amount) : List (Time × Step Amount) →
    List (Snapshot Amount)
  | [] => []
  | step :: steps => taking id step r ++ taken id (exec step r) steps

/-! ### What is stored -/

theorem Change.snapshots_eq {now : Time} {op : Op Amount} {r r' : Register Amount}
    (hc : Change now r op r') (hop : ∀ id date, op ≠ .takeEndOfDaySnapshot id date) :
    r'.snapshots = r.snapshots := by
  cases hc with
  | snapshot id date snap => exact absurd rfl (hop id date)
  | opened => rfl
  | status => rfl
  | held => rfl
  | released => rfl
  | captured => rfl

/-- Another operation leaves the snapshots as they are. -/
theorem exec_byDate_of_ne (now : Time) {op : Op Amount}
    (hop : ∀ id date, op ≠ .takeEndOfDaySnapshot id date) (r : Register Amount)
    (id : AccountID) : (exec (now, .register op) r).byDate id = r.byDate id := by
  rcases exec_register now op r with heq | ht
  · rw [heq]
  · rw [byDate, ht.change.snapshots_eq hop, byDate]

omit [AddCommGroup Amount] [LinearOrder Amount] in
/-- A snapshot is written under its day. -/
theorem byDate_withSnapshot (r : Register Amount) (id id' : AccountID)
    (snap : Snapshot Amount) : (r.withSnapshot id' snap).byDate id
      = if id' = id then (r.byDate id).insert snap.day snap else r.byDate id := by
  rw [byDate, withSnapshot, Finmap.lookup_insert_ite]
  by_cases hid : id' = id
  · rw [if_pos hid, if_pos hid.symm, hid]
    rfl
  · rw [if_neg hid, if_neg (Ne.symm hid), byDate]

theorem exec_byDate (step : Time × Step Amount) (r : Register Amount) (id : AccountID) :
    (exec step r).byDate id
      = (taking id step r).foldl (fun m snap => m.insert snap.day snap) (r.byDate id) := by
  obtain ⟨now, step⟩ := step
  cases step with
  | ledger op => rfl
  | register op =>
    cases op with
    | takeEndOfDaySnapshot id' date =>
      rcases takeEndOfDaySnapshot_cases now id' date r with ⟨e, he⟩ | ⟨snap, hok⟩
      · have hexec : exec (now, .register (.takeEndOfDaySnapshot id' date)) r = r :=
          Call.final_of_error (Call.discard_of_error he)
        rw [hexec]
        simp [taking, he]
      · have hexec : (exec (now, .register (.takeEndOfDaySnapshot id' date)) r).byDate id
            = (r.withSnapshot id' snap).byDate id :=
          congrArg (·.byDate id) (Call.final_of_ok (Call.discard_of_ok hok))
        rw [hexec, byDate_withSnapshot]
        by_cases hid : id' = id
        · subst hid
          simp [taking, hok]
        · simp [taking, hid]
    | _ => exact exec_byDate_of_ne now (fun _ _ => by simp) r id

/-- The snapshots of an account are the ones taken, each in place of earlier ones. -/
theorem run_byDate (steps : List (Time × Step Amount)) (r : Register Amount)
    (id : AccountID) : (run exec r steps).byDate id
      = (taken id r steps).foldl (fun m snap => m.insert snap.day snap) (r.byDate id) := by
  induction steps generalizing r with
  | nil => rfl
  | cons step steps ih =>
    rw [run, ih, exec_byDate, taken, List.foldl_append]

/-- Snapshots are taken of accounts that are there. -/
theorem mem_accounts_of_taken {r : Register Amount} (hr : r.WF ∧ r.Indexed)
    {id : AccountID} {steps : List (Time × Step Amount)} {snap : Snapshot Amount}
    (h : snap ∈ taken id r steps) : id ∈ (run exec r steps).accounts := by
  induction steps generalizing r with
  | nil => exact absurd h List.not_mem_nil
  | cons step steps ih =>
    rcases List.mem_append.mp h with hnow | hlater
    · refine account_creation.mem_run hr ?_ (step :: steps)
      show id ∈ r.accounts
      rw [taking] at hnow
      split at hnow
      · next id' date hop =>
        split at hnow
        · next hid =>
          subst hid
          by_contra hmissing
          rw [takeEndOfDaySnapshot, Call.get_bind, Finmap.lookup_eq_none.mpr hmissing] at hnow
          exact absurd hnow List.not_mem_nil
        · exact absurd hnow List.not_mem_nil
      · exact absurd hnow List.not_mem_nil
    · exact ih (exec_ready step r hr) hlater

/-! ### What is listed -/

/-- The account has one snapshot for each day for which one was taken, the latest. -/
theorem reached_byDate (steps : List (Time × Step Amount)) (id : AccountID) (d : Int)
    (snap : Snapshot Amount) : ((reached steps).byDate id).lookup d = some snap ↔
      Finmap.LatestBy Snapshot.day (taken id (newRegister (newBook Amount)) steps) snap ∧
        snap.day = d := by
  rw [reached, run_byDate, Finmap.lookup_foldl_insert]
  refine or_iff_left fun hold => ?_
  exact absurd (Finmap.mem_of_lookup_eq_some hold.1) Finmap.notMem_empty

omit [LinearOrder Amount] in
/-- A snapshot is for the account and the date that were asked for. -/
theorem takeEndOfDaySnapshot_eq_ok {now : Time} {id : AccountID} {date : Time}
    {r r' : Register Amount} {snap : Snapshot Amount}
    (h : takeEndOfDaySnapshot now id date r = .ok snap r') :
    id ∈ r.accounts ∧ snap.accountID = id ∧ snap.date = date ∧ r'.accounts = r.accounts := by
  have hspec : Call.Guarantees (fun _ => True) (fun _ => True)
      (takeEndOfDaySnapshot now id date) r fun snap r' =>
        id ∈ r.accounts ∧ snap.accountID = id ∧ snap.date = date ∧ r'.accounts = r.accounts := by
    refine .read (.orThrow (fun _ => ⟨trivial, trivial⟩) fun acct hacct => ?_)
    refine .ofExcept (fun _ _ => ⟨trivial, trivial⟩) fun book _ => ?_
    refine .ofExcept (fun _ _ => ⟨trivial, trivial⟩) fun holds _ => ?_
    exact .of_ok rfl trivial ⟨Finmap.mem_of_lookup_eq_some hacct, rfl, rfl, rfl⟩
  exact (hspec.ok h).2

/-- What has been taken of an account was asked for, for its date. -/
theorem of_taken {r : Register Amount} {id : AccountID} {steps : List (Time × Step Amount)}
    {snap : Snapshot Amount} (h : snap ∈ taken id r steps) : snap.accountID = id ∧
      ∃ step ∈ steps, step.2 = .register (.takeEndOfDaySnapshot id snap.date) := by
  induction steps generalizing r with
  | nil => exact absurd h List.not_mem_nil
  | cons step steps ih =>
    rcases List.mem_append.mp h with hnow | hlater
    · rw [taking] at hnow
      split at hnow
      · next id' date hop =>
        split at hnow
        · next hid =>
          cases htake : takeEndOfDaySnapshot step.1 id' date r with
          | error e r' =>
            rw [htake] at hnow
            exact absurd hnow List.not_mem_nil
          | ok snap' r' =>
            rw [htake] at hnow
            cases List.mem_singleton.mp hnow
            obtain ⟨-, haccount, hdate, -⟩ := takeEndOfDaySnapshot_eq_ok htake
            refine ⟨haccount.trans hid, step, List.mem_cons_self, ?_⟩
            rw [hop, hid, hdate]
        · exact absurd hnow List.not_mem_nil
      · exact absurd hnow List.not_mem_nil
    · obtain ⟨haccount, step', hstep', hop⟩ := ih hlater
      exact ⟨haccount, step', List.mem_cons_of_mem _ hstep', hop⟩

/-- What is stored for an account was taken of it. -/
theorem of_reached_byDate {steps : List (Time × Step Amount)} {id : AccountID} {d : Int}
    {snap : Snapshot Amount} (h : ((reached steps).byDate id).lookup d = some snap) :
    id ∈ (reached steps).accounts ∧ snap.accountID = id ∧
      ∃ step ∈ steps, step.2 = .register (.takeEndOfDaySnapshot id snap.date) := by
  have htaken := ((reached_byDate steps id d snap).mp h).1.mem
  exact ⟨mem_accounts_of_taken ⟨wf_newRegister Book.wf_newBook, indexed_newRegister _⟩ htaken,
    of_taken htaken⟩

omit [AddCommGroup Amount] [LinearOrder Amount] in
/-- Comparing dates is comparing points in time. -/
theorem date_before_iff (x y : Snapshot Amount) : x.date.Before y.date ↔
    x.date.ns < y.date.ns := Iff.rfl

omit [AddCommGroup Amount] [LinearOrder Amount] in
theorem getSnapshot_of_byDate {r : Register Amount} {id : AccountID} {date : Time}
    {snap : Snapshot Amount} (hacct : id ∈ r.accounts)
    (h : (r.byDate id).lookup date.dateKey = some snap) : r.getSnapshot id date = .ok snap := by
  obtain ⟨a, ha⟩ := Finmap.mem_iff.mp hacct
  have hbind : ((r.snapshots.lookup id).bind fun byDate => byDate.lookup date.dateKey)
      = some snap := by
    rw [byDate] at h
    cases hs : r.snapshots.lookup id with
    | none =>
      rw [hs] at h
      exact absurd (Finmap.mem_of_lookup_eq_some h) Finmap.notMem_empty
    | some m =>
      rw [hs] at h
      exact h
  simp only [getSnapshot, ha, hbind]

omit [AddCommGroup Amount] [LinearOrder Amount] in
/-- Two snapshots whose dates are not in the order of their days can be listed in the
wrong order. -/
theorem exists_misordered {r : Register Amount} {id : AccountID} {x y : Snapshot Amount}
    (hx : ∃ d, (r.byDate id).lookup d = some x) (hy : ∃ d, (r.byDate id).lookup d = some y)
    (hday : x.day < y.day) (hbefore : ¬x.date.Before y.date) :
    ∃ order sorter, [y, x].Sublist (listSnapshots order sorter r id) := by
  let later (a b : Snapshot Amount) : Prop := b.day ≤ a.day
  have : DecidableRel later := fun a b => inferInstanceAs (Decidable (b.day ≤ a.day))
  have : Std.Total later := ⟨fun a b => le_total b.day a.day⟩
  have : IsTrans (Snapshot Amount) later := ⟨fun _ _ _ hab hbc => le_trans hbc hab⟩
  refine ⟨.byKey, .breaking later, SliceSort.breaking_sublist ?_ ?_ (not_le.mpr hday) hbefore⟩
  · exact mem_values.mpr ⟨hy, trivial⟩
  · exact mem_values.mpr ⟨hx, trivial⟩

omit [AddCommGroup Amount] [LinearOrder Amount] in
/-- A later point in time is not listed before an earlier one. -/
theorem listSnapshots_sorted (order : MapOrder Int (Snapshot Amount))
    (sorter : SliceSort (Snapshot Amount)) (r : Register Amount) (id : AccountID) :
    (listSnapshots order sorter r id).Pairwise fun x y => ¬y.date.Before x.date := by
  have : IsStrictWeakOrder (Snapshot Amount) fun x y => x.date.Before y.date :=
    strictWeakOrder_of_key date_before_iff
  exact sorter.sorted (fun x y => x.date.Before y.date) _

/-- **Snapshots by business day.** After any run, an account's listing has exactly one
snapshot for each calendar day for which one was taken, the latest, which is also what
`GetSnapshot` returns for the dates of that day. It is in the order of these days, for
every order of the map and every sort, exactly if the dates of the latest snapshots of
two days are points in time in the order of the days. -/
theorem snapshots_listed_iff (steps : List (Time × Step Amount)) (id : AccountID) :
    let r := reached steps
    let latest := Finmap.LatestBy Snapshot.day (taken id (newRegister (newBook Amount)) steps)
    (∀ order sorter, let l := listSnapshots order sorter r id
      (∀ snap, snap ∈ l ↔ latest snap) ∧
      (l.map Snapshot.day).Nodup ∧
      (∀ snap ∈ taken id (newRegister (newBook Amount)) steps,
        ∃ listed ∈ l, listed.day = snap.day) ∧
      ∀ snap ∈ l, ∀ date : Time, date.dateKey = snap.day →
        r.getSnapshot id date = .ok snap) ∧
    ((∀ order sorter, (listSnapshots order sorter r id).Pairwise fun x y => x.day < y.day) ↔
      ∀ x y, latest x → latest y → x.day < y.day → x.date.Before y.date) := by
  intro r latest
  have hid : ∀ d snap, (r.byDate id).lookup d = some snap → snap.day = d :=
    fun d snap hd => ((reached_byDate steps id d snap).mp hd).2
  have hmem : ∀ order sorter snap, snap ∈ listSnapshots order sorter r id ↔ latest snap := by
    intro order sorter snap
    refine (mem_listed_of_id hid).trans ((and_iff_left trivial).trans ?_)
    exact (reached_byDate steps id snap.day snap).trans (and_iff_left rfl)
  have hnodup : ∀ order sorter,
      ((listSnapshots order sorter r id).map Snapshot.day).Nodup :=
    fun order sorter => nodup_listed hid
  refine ⟨fun order sorter => ⟨hmem order sorter, hnodup order sorter, ?_, ?_⟩, ?_, ?_⟩
  · intro snap hsnap
    obtain ⟨listed, hlatest, hday⟩ := Finmap.exists_latestBy (f := Snapshot.day) hsnap
    exact ⟨listed, (hmem order sorter listed).mpr hlatest, hday⟩
  · intro snap hsnap date hdate
    have hlatest := (hmem order sorter snap).mp hsnap
    have hstored : (r.byDate id).lookup date.dateKey = some snap :=
      (reached_byDate steps id date.dateKey snap).mpr ⟨hlatest, hdate.symm⟩
    exact getSnapshot_of_byDate (mem_accounts_of_taken
      ⟨wf_newRegister Book.wf_newBook, indexed_newRegister _⟩ hlatest.mem) hstored
  · intro hordered x y hx hy hday
    by_contra hbefore
    have hstored : ∀ snap, latest snap → (r.byDate id).lookup snap.day = some snap :=
      fun snap hsnap => (reached_byDate steps id snap.day snap).mpr ⟨hsnap, rfl⟩
    obtain ⟨order, sorter, hlisted⟩ :=
      exists_misordered ⟨x.day, hstored x hx⟩ ⟨y.day, hstored y hy⟩ hday hbefore
    have hback := rel_of_sublist (hordered order sorter) hlisted
    exact lt_asymm hday hback
  · intro hdates order sorter
    refine List.pairwise_iff_forall_sublist.mpr fun {x y} hxy => ?_
    have hx : latest x := (hmem order sorter x).mp (hxy.subset List.mem_cons_self)
    have hy : latest y :=
      (hmem order sorter y).mp (hxy.subset (List.mem_cons_of_mem x List.mem_cons_self))
    have hsorted : ¬y.date.Before x.date :=
      rel_of_sublist (listSnapshots_sorted order sorter r id) hxy
    have hdistinct : (listSnapshots order sorter r id).Pairwise fun x y => x.day ≠ y.day :=
      List.pairwise_map.mp (hnodup order sorter)
    have hne := rel_of_sublist hdistinct hxy
    exact lt_of_le_of_ne (not_lt.mp fun hday => hsorted (hdates y x hy hx hday)) hne

end BusinessDays

/-- Snapshots of the account of Alice for two days, late on the first in Greenwich and
early on the second where the clocks are 14 hours ahead. -/
def twoDays : List (Time × Step ℤ) :=
  aliceRun 0 ([⟨23 * Time.hour, 0⟩, ⟨10 * Time.hour + 1, 14 * 3600⟩].map fun date =>
    .register (.takeEndOfDaySnapshot ⟨"dep_1"⟩ date))

/-- The second day is listed first. -/
theorem second_day_first : ¬∀ (steps : List (Time × Step ℤ)) (id : AccountID) order sorter,
    (listSnapshots order sorter (reached steps) id).Pairwise fun x y => x.day < y.day := by
  intro h
  let x : Snapshot ℤ := ⟨⟨"dep_1"⟩, ⟨23 * Time.hour, 0⟩, ⟨0, 0, 0⟩, ⟨1, 0⟩⟩
  let y : Snapshot ℤ := ⟨⟨"dep_1"⟩, ⟨10 * Time.hour + 1, 14 * 3600⟩, ⟨0, 0, 0⟩, ⟨1, 0⟩⟩
  have hstored : ((reached twoDays).byDate ⟨"dep_1"⟩).lookup 0 = some x ∧
      ((reached twoDays).byDate ⟨"dep_1"⟩).lookup 1 = some y := by
    decide +kernel
  have hday : x.day < y.day := by decide
  obtain ⟨order, sorter, hlisted⟩ :=
    exists_misordered ⟨0, hstored.1⟩ ⟨1, hstored.2⟩ hday (by decide)
  have hback := rel_of_sublist (h twoDays ⟨"dep_1"⟩ order sorter) hlisted
  exact lt_asymm hday hback

end Register

end CoreBanking.Deposit
