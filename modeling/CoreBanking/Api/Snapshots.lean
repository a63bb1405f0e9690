import CoreBanking.Api.Calls
import CoreBanking.Api.Sessions
import CoreBanking.Deposit.Snapshots

/-!
# Snapshots by day

A snapshot is stored under the calendar day of its date, and listed by its date as a point in
time. With dates in several locations the two orders differ. A request names a day by a text,
which stands for its midnight in UTC, and with these dates they are one.

- `snapshots_by_day`: the snapshots of an account are listed in the order of their days, one
  for each day, whatever Go does, and each is found by the text of its day.
-/

namespace CoreBanking.Api

open Deposit (Register Snapshot)
open Ledger (Book)
open Payment (Network Participant ParticipantID)
open Payment.Network (Op ClientOp)

variable {Amount : Type}

/-! ## Days -/

theorem parseDay_eq_ok {text : String} {day : Time} :
    parseDay text = .ok day ↔ ∃ d, parseDate text = some d ∧ day = d.midnight := by
  rw [parseDay]
  cases parseDate text with
  | none =>
    constructor
    · intro h
      cases h
    · rintro ⟨d, hd, -⟩
      cases hd
  | some d =>
    constructor
    · intro h
      cases h
      exact ⟨d, rfl, rfl⟩
    · rintro ⟨d', hd, rfl⟩
      cases hd
      rfl

/-- A day has a single text. -/
theorem parseDay_inj {text text' : String} {day : Time} (h : parseDay text = .ok day)
    (h' : parseDay text' = .ok day) : text = text' := by
  obtain ⟨d, hd, rfl⟩ := parseDay_eq_ok.mp h
  obtain ⟨d', hd', heq⟩ := parseDay_eq_ok.mp h'
  have hnumber : d.number = d'.number := by
    rw [← d.dateKey_midnight, heq, d'.dateKey_midnight]
  rw [← Date.number_inj hnumber] at hd'
  exact parseDate_inj hd hd'

/-- Among such dates, the days are in the order of the points in time. -/
theorem IsDay.before_iff {date date' : Time} (h : IsDay date) (h' : IsDay date') :
    date.Before date' ↔ date.dateKey < date'.dateKey := by
  obtain ⟨text, htext⟩ := h
  obtain ⟨text', htext'⟩ := h'
  obtain ⟨d, -, rfl⟩ := parseDay_eq_ok.mp htext
  obtain ⟨d', -, rfl⟩ := parseDay_eq_ok.mp htext'
  rw [d.dateKey_midnight, d'.dateKey_midnight]
  show d.number * (24 * Time.hour) < d'.number * (24 * Time.hour) ↔ _
  rw [Time.hour]
  omega

theorem IsDay.eq_of_dateKey {date date' : Time} (h : IsDay date) (h' : IsDay date')
    (heq : date.dateKey = date'.dateKey) : date = date' := by
  obtain ⟨text, htext⟩ := h
  obtain ⟨text', htext'⟩ := h'
  obtain ⟨d, -, rfl⟩ := parseDay_eq_ok.mp htext
  obtain ⟨d', -, rfl⟩ := parseDay_eq_ok.mp htext'
  rw [d.dateKey_midnight, d'.dateKey_midnight] at heq
  rw [Date.number_inj heq]

/-! ## Runs -/

variable [AddCommGroup Amount] [LinearOrder Amount]

/-- The snapshots of a run are what requests ask for. -/
def Requested (steps : List (Time × Register.Step Amount)) : Prop :=
  ∀ step ∈ steps, ∀ id date, step.2 = .register (.takeEndOfDaySnapshot id date) →
    ∃ (c : Choices Amount) (s : Network Amount) (req : Request Amount) (i : ParticipantID),
      req.op c s = some (.network (.register i (.takeEndOfDaySnapshot id date)))

/-- The snapshots of a run are for days. -/
def ByDay (steps : List (Time × Register.Step Amount)) : Prop :=
  ∀ step ∈ steps, ∀ id date,
    step.2 = .register (.takeEndOfDaySnapshot id date) → IsDay date

section Runs

variable {steps : List (Time × Register.Step Amount)} {id : Deposit.AccountID}
  {order order' : MapOrder Int (Snapshot Amount)} {sorter sorter' : SliceSort (Snapshot Amount)}
  {snap : Snapshot Amount}

omit [AddCommGroup Amount] [LinearOrder Amount] in
theorem Requested.byDay (h : Requested steps) : ByDay steps := by
  intro step hstep id date hop
  obtain ⟨c, s, req, i, hreq⟩ := h step hstep id date hop
  exact (forall_op c s req _ hreq).day i id date rfl

theorem mem_listSnapshots :
    snap ∈ Register.listSnapshots order sorter (Register.reached steps) id ↔
      ((Register.reached steps).byDate id).lookup snap.day = some snap := by
  have hdays : ∀ d snap, ((Register.reached steps).byDate id).lookup d = some snap → snap.day = d :=
    fun d snap hd => ((Register.reached_byDate steps id d snap).mp hd).2
  exact (mem_listed_of_id hdays).trans (and_iff_left trivial)

theorem ByDay.isDay (h : ByDay steps)
    (hsnap : snap ∈ Register.listSnapshots order sorter (Register.reached steps) id) :
    IsDay snap.date := by
  obtain ⟨-, -, step, hstep, hop⟩ := Register.of_reached_byDate (mem_listSnapshots.mp hsnap)
  exact h step hstep id snap.date hop

/-- The listing is in the order of the days. -/
theorem ByDay.pairwise (h : ByDay steps) :
    (Register.listSnapshots order sorter (Register.reached steps) id).Pairwise
      fun x y => x.date.Before y.date := by
  have hdistinct : (Register.listSnapshots order sorter (Register.reached steps) id).Pairwise
      fun x y => x.day ≠ y.day := by
    refine List.pairwise_map.mp (nodup_listed fun d snap hd => ?_)
    exact ((Register.reached_byDate steps id d snap).mp hd).2
  have hsorted := Register.listSnapshots_sorted order sorter (Register.reached steps) id
  refine (hdistinct.and hsorted).imp_of_mem fun {x y} hx hy ⟨hne, hbefore⟩ => ?_
  have hx' := h.isDay hx
  have hy' := h.isDay hy
  rw [hy'.before_iff hx', not_lt] at hbefore
  exact (hx'.before_iff hy').mpr (lt_of_le_of_ne hbefore hne)

/-- Whatever Go does. -/
theorem ByDay.listSnapshots_congr (h : ByDay steps) :
    Register.listSnapshots order' sorter' (Register.reached steps) id
      = Register.listSnapshots order sorter (Register.reached steps) id := by
  have hperm : (Register.listSnapshots order' sorter' (Register.reached steps) id).Perm
      (Register.listSnapshots order sorter (Register.reached steps) id) := by
    refine (List.perm_ext_iff_of_nodup ?_ ?_).mpr fun snap =>
      mem_listSnapshots.trans mem_listSnapshots.symm
    · exact h.pairwise.imp fun hbefore heq => absurd (heq ▸ hbefore) (lt_irrefl _)
    · exact h.pairwise.imp fun hbefore heq => absurd (heq ▸ hbefore) (lt_irrefl _)
  exact hperm.eq_of_pairwise (fun x y _ _ hxy hyx => absurd hyx (lt_asymm hxy))
    h.pairwise h.pairwise

end Runs

/-- **Snapshots by day.** After any calls on a register and its ledger, with the snapshots that
requests ask for, those of an account are listed in the order of their days, with one for each,
in the same way whatever Go does. One text names the day of each, and a lookup by a text finds
the one of that day. -/
theorem snapshots_by_day (steps : List (Time × Register.Step Amount))
    (hrequested : Requested steps) (id : Deposit.AccountID) (order : MapOrder Int (Snapshot Amount))
    (sorter : SliceSort (Snapshot Amount)) :
    let r := Register.reached steps
    let l := Register.listSnapshots order sorter r id
    l.Pairwise (fun x y => x.date.Before y.date) ∧
    (∀ order' sorter', Register.listSnapshots order' sorter' r id = l) ∧
    (∀ snap ∈ l, ∃ text, parseDay text = .ok snap.date ∧
      ∀ text', parseDay text' = .ok snap.date → text' = text) ∧
    ∀ text day, parseDay text = .ok day → ∀ snap,
      r.getSnapshot id day = .ok snap ↔ snap ∈ l ∧ snap.date = day := by
  intro r l
  have hdays := hrequested.byDay
  refine ⟨hdays.pairwise, fun order' sorter' => hdays.listSnapshots_congr, fun snap hsnap => ?_,
    fun text day htext snap => ⟨fun hfound => ?_, ?_⟩⟩
  · obtain ⟨text, htext⟩ := hdays.isDay hsnap
    exact ⟨text, htext, fun text' htext' => parseDay_inj htext' htext⟩
  · have hstored : (r.byDate id).lookup day.dateKey = some snap := lookup_of_getSnapshot hfound
    have hday : snap.day = day.dateKey := ((Register.reached_byDate steps id _ snap).mp hstored).2
    have hmem : snap ∈ l := mem_listSnapshots.mpr (hday ▸ hstored)
    exact ⟨hmem, (hdays.isDay hmem).eq_of_dateKey ⟨text, htext⟩ hday⟩
  · rintro ⟨hsnap, rfl⟩
    have hstored := mem_listSnapshots.mp hsnap
    exact Register.getSnapshot_of_byDate (Register.of_reached_byDate hstored).1 hstored

/-! ## A leap day -/

def leapDay : Time := ⟨738944 * (24 * Time.hour), 0⟩

def dayAfter : Time := ⟨738945 * (24 * Time.hour), 0⟩

theorem parseDay_leapDay : parseDay "2024-02-29" = .ok leapDay := by decide +kernel

theorem parseDay_dayAfter : parseDay "2024-03-01" = .ok dayAfter := by decide +kernel

/-- A request for a snapshot of the account of Alice. -/
theorem snapshot_requested {text : String} {day : Time} (htext : parseDay text = .ok day) :
    Request.op .byName oneBank (.takeSnapshot "bank_1" "dep_1" (.ok ⟨text⟩))
      = some (.network (.register ⟨"bank_1"⟩ (.takeEndOfDaySnapshot ⟨"dep_1"⟩ day))) := by
  obtain ⟨b, hb⟩ : ∃ b, oneBank.participants.lookup ⟨"bank_1"⟩ = some b :=
    Option.isSome_iff_exists.mp (by decide +kernel)
  show (oneBank.participants.lookup ⟨"bank_1"⟩).bind (fun _ =>
    ((parseDay text).toOption.map fun day =>
      (.network (.register ⟨"bank_1"⟩ (.takeEndOfDaySnapshot ⟨"dep_1"⟩ day)) : ClientOp ℤ))) = _
  rw [hb, htext]
  rfl

/-- They are asked for on two days, the later day first. -/
def leapRun : List (Time × Register.Step ℤ) :=
  Register.aliceRun 0 [.register (.takeEndOfDaySnapshot ⟨"dep_1"⟩ dayAfter),
    .register (.takeEndOfDaySnapshot ⟨"dep_1"⟩ leapDay)]

theorem leapRun_requested : Requested leapRun := by
  intro step hstep id date hop
  have hdays : id = ⟨"dep_1"⟩ ∧ (date = dayAfter ∨ date = leapDay) := by
    obtain ⟨step, hmem, rfl⟩ := List.mem_map.mp hstep
    dsimp only at hop
    subst hop
    simpa [← and_or_left] using hmem
  obtain ⟨rfl, rfl | rfl⟩ := hdays
  · exact ⟨_, _, _, _, snapshot_requested parseDay_dayAfter⟩
  · exact ⟨_, _, _, _, snapshot_requested parseDay_leapDay⟩

/-- Both are listed, and the one of the leap day is found by its text. -/
theorem snapshots_by_day_leapRun :
    let r := Register.reached leapRun
    let l := Register.listSnapshots .byKey (.breaking fun _ _ => True) r ⟨"dep_1"⟩
    l.map (fun snap => snap.date) = [leapDay, dayAfter] ∧
      l.Pairwise (fun x y => x.date.Before y.date) ∧
      ∀ snap, r.getSnapshot ⟨"dep_1"⟩ leapDay = .ok snap ↔ snap ∈ l ∧ snap.date = leapDay := by
  intro r l
  have hdates : l.map (fun snap => snap.date) = [leapDay, dayAfter] := by decide +kernel
  obtain ⟨hsorted, -, -, hfound⟩ := snapshots_by_day leapRun leapRun_requested ⟨"dep_1"⟩ .byKey
    (.breaking fun _ _ => True)
  exact ⟨hdates, hsorted, hfound "2024-02-29" leapDay parseDay_leapDay⟩

end CoreBanking.Api
