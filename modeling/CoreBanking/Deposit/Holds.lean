import CoreBanking.Deposit.Runs

/-!
# Holds

The holds of an account are found through a list of ids, and what they reserve is
computed by a loop over that list. `Indexed` says that the lists are right, so that the
loop never misses a hold and never counts one twice: it computes `reserved`, the sum
over all holds of the account (`Indexed.computeActiveHolds_eq`).

How the sum changes when a hold is placed or leaves the active status follows from it.
-/

namespace CoreBanking.Deposit

open Ledger (Book newBook)

/-- What a hold takes from the available balance of its account. -/
def Hold.reserved {Amount : Type} [Zero Amount] (h : Hold Amount) (now : Time) : Amount :=
  if h.status = .active ∧ ¬h.Expired now then h.amount else 0

section Hold

variable {Amount : Type} [AddCommGroup Amount] [LinearOrder Amount] {h : Hold Amount}

theorem Hold.reserved_nonneg (hpos : 0 < h.amount) (now : Time) : 0 ≤ h.reserved now := by
  rw [Hold.reserved]
  split
  · exact hpos.le
  · exact le_rfl

theorem Hold.reserved_le_amount (hpos : 0 < h.amount) (now : Time) :
    h.reserved now ≤ h.amount := by
  rw [Hold.reserved]
  split
  · exact le_rfl
  · exact hpos.le

/-- As time passes a hold may expire, and then it reserves nothing. -/
theorem Hold.reserved_anti (hpos : 0 < h.amount) {now later : Time}
    (hlater : now.ns ≤ later.ns) : h.reserved later ≤ h.reserved now := by
  by_cases hkeeps : h.status = .active ∧ ¬h.Expired later
  · have hnow : h.status = .active ∧ ¬h.Expired now := by
      refine ⟨hkeeps.1, fun hexpired => hkeeps.2 ⟨hexpired.1, ?_⟩⟩
      exact lt_of_lt_of_le hexpired.2 hlater
    rw [Hold.reserved, if_pos hkeeps, Hold.reserved, if_pos hnow]
  · rw [Hold.reserved, if_neg hkeeps]
    exact Hold.reserved_nonneg hpos now

end Hold

namespace Register

variable {Amount : Type}

/-- The holds are stored under their ids, for accounts that exist, and the list of an
account names each of its holds once. -/
structure Indexed (r : Register Amount) : Prop where
  hold_id : ∀ k h, r.holds.lookup k = some h → h.id = k
  account : ∀ k h, r.holds.lookup k = some h → h.accountID ∈ r.accounts
  listed : ∀ id k, k ∈ (r.accountHolds.lookup id).getD [] ↔
    ∃ h, r.holds.lookup k = some h ∧ h.accountID = id
  nodup : ∀ id, ((r.accountHolds.lookup id).getD []).Nodup

theorem indexed_newRegister (b : Book Amount) : (newRegister b).Indexed where
  hold_id k h hk := by simp [newRegister] at hk
  account k h hk := by simp [newRegister] at hk
  listed id k := by simp [newRegister]
  nodup id := by simp [newRegister]

namespace Indexed

variable {r r' : Register Amount}

/-- The same holds, and at least the same accounts. -/
theorem congr (hi : r.Indexed) (hholds : r'.holds = r.holds)
    (hlists : r'.accountHolds = r.accountHolds)
    (haccts : ∀ id ∈ r.accounts, id ∈ r'.accounts) : r'.Indexed where
  hold_id k h hk := hi.hold_id k h (hholds ▸ hk)
  account k h hk := haccts _ (hi.account k h (hholds ▸ hk))
  listed id k := by
    rw [hlists, hholds]
    exact hi.listed id k
  nodup id := by
    rw [hlists]
    exact hi.nodup id

/-- A hold keeps its id and its account when its status changes. -/
theorem withHold (hi : r.Indexed) {id : HoldID} {h : Hold Amount}
    (hh : r.holds.lookup id = some h) (status : HoldStatus) :
    (r.withHold id h status).Indexed := by
  have hlook : ∀ {k h'}, (r.withHold id h status).holds.lookup k = some h' →
      ∃ h₀, r.holds.lookup k = some h₀ ∧ h'.id = h₀.id ∧ h'.accountID = h₀.accountID := by
    intro k h' hk
    rcases Finmap.lookup_insert_eq_some.mp hk with ⟨rfl, rfl⟩ | ⟨-, hk⟩
    · exact ⟨h, hh, rfl, rfl⟩
    · exact ⟨h', hk, rfl, rfl⟩
  refine ⟨?_, ?_, ?_, hi.nodup⟩
  · -- hold_id
    intro k h' hk
    obtain ⟨h₀, hk₀, hid, -⟩ := hlook hk
    rw [hid]
    exact hi.hold_id k h₀ hk₀
  · -- account
    intro k h' hk
    obtain ⟨h₀, hk₀, -, hacct⟩ := hlook hk
    rw [hacct]
    exact hi.account k h₀ hk₀
  · -- listed: the hold stays in the map, under the same id
    intro a k
    rw [show (r.withHold id h status).accountHolds = r.accountHolds from rfl, hi.listed a k]
    constructor
    · rintro ⟨h₀, hk₀, rfl⟩
      by_cases heq : k = id
      · subst heq
        cases hh.symm.trans hk₀
        exact ⟨_, Finmap.lookup_insert _, rfl⟩
      · exact ⟨h₀, (Finmap.lookup_insert_of_ne _ heq).trans hk₀, rfl⟩
    · rintro ⟨h', hk, rfl⟩
      obtain ⟨h₀, hk₀, -, hacct⟩ := hlook hk
      exact ⟨h₀, hk₀, hacct.symm⟩

end Indexed

/-- The active holds on the list of an account do not expire. -/
def Lasting (r : Register Amount) (id : AccountID) : Prop :=
  ∀ k ∈ (r.accountHolds.lookup id).getD [], ∀ h, r.holds.lookup k = some h →
    h.status = .active → h.expiresAt.IsZero

/-- Another one may be placed. -/
theorem Lasting.addHoldTo {r : Register Amount} {id : AccountID} (h : r.Lasting id)
    {req : CreateHoldRequest Amount} (hforever : req.expiresAt.IsZero) (now : Time) :
    (r.addHoldTo now req).Lasting id := by
  intro k hk hd hlook hactive
  rcases Finmap.lookup_insert_eq_some.mp hlook with ⟨-, rfl⟩ | ⟨hne, hold⟩
  · exact hforever
  · refine h k ?_ hd hold hactive
    -- any other hold was on the list before
    have hk' : k ∈ ((r.accountHolds.insert req.accountID
        ((r.accountHolds.lookup req.accountID).getD [] ++ [(r.newHold now req).id])).lookup
          id).getD [] := hk
    rw [Finmap.lookup_insert_ite] at hk'
    by_cases hid : id = req.accountID
    · rw [if_pos hid, Option.getD_some, ← hid] at hk'
      exact (List.mem_append.mp hk').resolve_right fun hnew =>
        hne (List.mem_singleton.mp hnew)
    · rwa [if_neg hid] at hk'

section Lists

variable [AddCommGroup Amount]

/-- What the holds of an account reserve together. -/
def reserved (r : Register Amount) (now : Time) (id : AccountID) : Amount :=
  r.holds.sum fun _ h => if h.accountID = id then h.reserved now else 0

/-- The loop of `computeActiveHolds` over any list of holds that are stored. -/
theorem foldlM_addHold {r : Register Amount} {now : Time} {ks : List HoldID}
    (hstored : ∀ k ∈ ks, k ∈ r.holds) (total : Amount) :
    ks.foldlM (r.addHold now) total = .ok (total
      + (ks.map fun k => ((r.holds.lookup k).map (·.reserved now)).getD 0).sum) := by
  induction ks generalizing total with
  | nil =>
    rw [List.map_nil, List.sum_nil, add_zero]
    rfl
  | cons k ks ih =>
    obtain ⟨h, hk⟩ := Finmap.mem_iff.mp (hstored k List.mem_cons_self)
    -- both tests of the loop leave the total as it is
    have hstep : r.addHold now total k = .ok (total + h.reserved now) := by
      rw [addHold, hk, Hold.reserved]
      by_cases hactive : h.status = .active <;> by_cases hexpired : h.Expired now <;>
        simp [hactive, hexpired]
    rw [List.foldlM_cons, hstep]
    refine (ih (fun k' hk' => hstored k' (List.mem_cons_of_mem _ hk')) _).trans ?_
    rw [List.map_cons, List.sum_cons, hk, Option.map_some, Option.getD_some, add_assoc]

/-- What the holds on the list of an account reserve together. -/
def listed (r : Register Amount) (now : Time) (id : AccountID) : Amount :=
  (((r.accountHolds.lookup id).getD []).map fun k =>
    ((r.holds.lookup k).map (·.reserved now)).getD 0).sum

/-- `computeActiveHolds` is their sum. -/
theorem computeActiveHolds_eq_listed {r : Register Amount} {id : AccountID}
    (hstored : ∀ k ∈ (r.accountHolds.lookup id).getD [], k ∈ r.holds) (now : Time) :
    r.computeActiveHolds now id = .ok (r.listed now id) := by
  rw [computeActiveHolds, foldlM_addHold hstored, zero_add, listed]

/-- Holds that do not expire reserve the same at all times. -/
theorem Lasting.listed_eq {r : Register Amount} {id : AccountID} (h : r.Lasting id)
    (now later : Time) : r.listed now id = r.listed later id := by
  refine congrArg List.sum (List.map_congr_left fun k hk => ?_)
  cases hh : r.holds.lookup k with
  | none => rfl
  | some hd =>
    rw [Option.map_some, Option.map_some, Hold.reserved, Hold.reserved]
    by_cases hactive : hd.status = .active
    · have hlives : ∀ t, ¬hd.Expired t :=
        fun t hexpired => hexpired.1 (h k hk hd hh hactive)
      rw [if_pos ⟨hactive, hlives now⟩, if_pos ⟨hactive, hlives later⟩]
    · -- a hold that is not active reserves nothing at any time
      rw [if_neg fun hkeeps => hactive hkeeps.1, if_neg fun hkeeps => hactive hkeeps.1]

/-- With the lists right, it is the sum over the holds of the account. -/
theorem Indexed.computeActiveHolds_eq {r : Register Amount} (hi : r.Indexed) (now : Time)
    (id : AccountID) : r.computeActiveHolds now id = .ok (r.reserved now id) := by
  have hstored : ∀ k ∈ (r.accountHolds.lookup id).getD [], k ∈ r.holds := by
    intro k hk
    obtain ⟨h, hk, -⟩ := (hi.listed id k).mp hk
    exact Finmap.mem_of_lookup_eq_some hk
  have hsum : r.reserved now id = r.listed now id := by
    rw [reserved, Finmap.sum_eq_sum_list ((r.accountHolds.lookup id).getD []) r.holds _
      (hi.nodup id) hstored, Register.listed]
    · refine congrArg List.sum (List.map_congr_left fun k hk => ?_)
      obtain ⟨h, hk, hacct⟩ := (hi.listed id k).mp hk
      rw [hk, Option.map_some, Option.map_some, if_pos hacct]
    · -- a hold that is not on the list is of another account
      intro k h hk hno
      exact if_neg fun hacct => hno ((hi.listed id k).mpr ⟨h, hk, hacct⟩)
  rw [computeActiveHolds_eq_listed hstored, hsum]

/-- Changing the status of a hold changes what it reserves. -/
theorem reserved_withHold {r : Register Amount} {k : HoldID} {h : Hold Amount}
    (hk : r.holds.lookup k = some h) {status : HoldStatus} (hstatus : status ≠ .active)
    (now : Time) (id : AccountID) :
    (r.withHold k h status).reserved now id
      = r.reserved now id - if h.accountID = id then h.reserved now else 0 := by
  have hnone : Hold.reserved { h with status := status } now = 0 :=
    if_neg fun hactive => hstatus hactive.1
  rw [reserved, withHold, Finmap.sum_update _ hk, reserved, hnone, ite_self, add_zero]

end Lists

variable [AddCommGroup Amount] [LinearOrder Amount] {r r' : Register Amount} {now : Time}

/-- The id of the next hold is not in use. -/
theorem WF.fresh_hold (h : r.WF) (now : Time) (req : CreateHoldRequest Amount) :
    r.holds.lookup (r.newHold now req).id = none :=
  h.holdIDs.fresh (fun _ _ => HoldID.mk.inj) (Nat.lt_succ_self _)

/-- A new hold is put on the list of its account. -/
theorem Indexed.addHoldTo (hi : r.Indexed) (h : r.WF) {req : CreateHoldRequest Amount}
    (hacct : req.accountID ∈ r.accounts) : (r.addHoldTo now req).Indexed := by
  have hfresh := h.fresh_hold now req
  have hlook : ∀ {k h'}, (r.addHoldTo now req).holds.lookup k = some h' ↔
      (k = (r.newHold now req).id ∧ h' = r.newHold now req) ∨
        r.holds.lookup k = some h' :=
    Finmap.lookup_insert_fresh hfresh
  have hlist : ∀ id, ((r.addHoldTo now req).accountHolds.lookup id).getD []
      = (r.accountHolds.lookup id).getD []
        ++ if id = req.accountID then [(r.newHold now req).id] else [] := by
    intro id
    show ((r.accountHolds.insert req.accountID _).lookup id).getD [] = _
    rw [Finmap.lookup_insert_ite]
    by_cases hid : id = req.accountID
    · rw [if_pos hid, if_pos hid, hid, Option.getD_some]
    · rw [if_neg hid, if_neg hid, List.append_nil]
  have hnew : ∀ id, (r.newHold now req).id ∉ (r.accountHolds.lookup id).getD [] := by
    intro id hmem
    obtain ⟨h', hk, -⟩ := (hi.listed id _).mp hmem
    rw [hfresh] at hk
    cases hk
  refine ⟨?_, ?_, ?_, ?_⟩
  · -- hold_id
    intro k h' hk
    rcases hlook.mp hk with ⟨rfl, rfl⟩ | hk
    · rfl
    · exact hi.hold_id k h' hk
  · -- account
    intro k h' hk
    rcases hlook.mp hk with ⟨-, rfl⟩ | hk
    · exact hacct
    · exact hi.account k h' hk
  · -- listed: the new hold is last on the list of its account
    intro id k
    rw [hlist, List.mem_append, hi.listed id k]
    constructor
    · rintro (⟨h', hk, rfl⟩ | hk)
      · exact ⟨h', hlook.mpr (.inr hk), rfl⟩
      · split at hk
        · next hid =>
          rw [List.mem_singleton.mp hk]
          exact ⟨_, hlook.mpr (.inl ⟨rfl, rfl⟩), hid.symm⟩
        · cases hk
    · rintro ⟨h', hk, hid⟩
      rcases hlook.mp hk with ⟨rfl, rfl⟩ | hk
      · right
        rw [if_pos (show id = req.accountID from hid.symm)]
        exact List.mem_singleton_self _
      · exact .inl ⟨h', hk, hid⟩
  · -- nodup: the new hold was on no list
    intro id
    rw [hlist]
    split
    · exact List.nodup_append.mpr ⟨hi.nodup id, List.nodup_singleton _, by
        rintro k hk k' hk' rfl
        exact hnew id (List.mem_singleton.mp hk' ▸ hk)⟩
    · rw [List.append_nil]
      exact hi.nodup id

/-- A new hold reserves its amount, unless it has expired already. -/
theorem WF.reserved_addHoldTo (h : r.WF) (req : CreateHoldRequest Amount) (t : Time)
    (id : AccountID) : (r.addHoldTo now req).reserved t id
      = r.reserved t id
        + if req.accountID = id then (r.newHold now req).reserved t else 0 := by
  show (r.holds.insert (r.newHold now req).id (r.newHold now req)).sum _ = _
  rw [Finmap.sum_insert _ (h.fresh_hold now req), add_comm]
  rfl

/-- The list of an account after a hold is placed on it. -/
theorem WF.listed_addHoldTo (h : r.WF) (req : CreateHoldRequest Amount) (t : Time)
    (id : AccountID) : (r.addHoldTo now req).listed t id
      = r.listed t id
        + if req.accountID = id then (r.newHold now req).reserved t else 0 := by
  have hfresh := h.fresh_hold now req
  have hlook : ∀ k, (r.addHoldTo now req).holds.lookup k
      = if k = (r.newHold now req).id then some (r.newHold now req)
        else r.holds.lookup k :=
    fun k => Finmap.lookup_insert_ite ..
  -- the holds that were listed before are as before
  have hold : ∀ ks : List HoldID, (∀ k ∈ ks, k ∈ r.holds) →
      (ks.map fun k => (((r.addHoldTo now req).holds.lookup k).map (·.reserved t)).getD 0)
        = ks.map fun k => ((r.holds.lookup k).map (·.reserved t)).getD 0 := by
    refine fun ks hks => List.map_congr_left fun k hk => ?_
    rw [hlook, if_neg]
    rintro rfl
    exact Finmap.lookup_eq_none.mp hfresh (hks _ hk)
  rw [listed, listed]
  show (List.map _ (((r.accountHolds.insert req.accountID _).lookup id).getD [])).sum = _
  rw [Finmap.lookup_insert_ite]
  by_cases hid : id = req.accountID
  · subst hid
    rw [if_pos rfl, if_pos rfl, Option.getD_some, List.map_append, List.sum_append,
      hold _ (h.held _)]
    congr 1
    rw [List.map_singleton, List.sum_singleton, hlook, if_pos rfl]
    rfl
  · rw [if_neg hid, if_neg (Ne.symm hid), add_zero, hold _ (h.held id)]

theorem Transition.indexed {op : Op Amount} (ht : Transition now r op r') (h : r.WF)
    (hi : r.Indexed) : r'.Indexed := by
  cases ht with
  | opened subledger name limit =>
    exact hi.congr rfl rfl fun id hid => Finmap.mem_insert.mpr (.inr hid)
  | status id target eventType acct hmoves hacct =>
    exact hi.congr rfl rfl fun id hid => Finmap.mem_insert.mpr (.inr hid)
  | held req acct available hacct =>
    exact hi.addHoldTo h (Finmap.mem_of_lookup_eq_some hacct)
  | released id hd hh => exact (hi.withHold hh .released).congr rfl rfl fun _ hid => hid
  | captured id counterparty amount description hd acct hh =>
    exact (hi.withHold hh .captured).congr rfl rfl fun _ hid => hid
  | snapshot => exact hi.congr rfl rfl fun _ hid => hid

theorem exec_indexed (step : Time × Step Amount) (r : Register Amount) (h : r.WF)
    (hi : r.Indexed) : (exec step r).Indexed := by
  obtain ⟨now, step⟩ := step
  cases step with
  | register op =>
    rcases exec_register now op r with heq | ht
    · rw [heq]
      exact hi
    · exact ht.indexed h hi
  | ledger op => exact hi.congr rfl rfl fun _ hid => hid

/-- The parts of the invariant that no step breaks. -/
theorem exec_ready (step : Time × Step Amount) (r : Register Amount)
    (h : r.WF ∧ r.Indexed) : (exec step r).WF ∧ (exec step r).Indexed :=
  ⟨exec_wf step r h.1, exec_indexed step r h.1 h.2⟩

theorem indexed_reached (steps : List (Time × Step Amount)) : (reached steps).Indexed :=
  run_invariant_of exec_wf exec_indexed (wf_newRegister Book.wf_newBook)
    (indexed_newRegister _) steps

end Register

end CoreBanking.Deposit
