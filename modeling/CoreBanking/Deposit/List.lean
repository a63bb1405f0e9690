import CoreBanking.Deposit.Holds
import CoreBanking.Ledger.List

/-!
# Listings of a register, and the order of creation (list.go)

`ListAccounts` goes over a map; `ListHolds` follows the list of ids that the register
keeps for an account. Both sort by creation time, then id, as the listings of a book do.

`listings_by_creation`: that is the order in which the entities were created exactly if,
among those created at one time, the ids are in that order. Ids are compared as strings,
and `ldg_11` comes before `ldg_9` (`eleven_before_nine`).
-/

namespace CoreBanking.Deposit

open Ledger (Book newBook)

namespace Register

variable {Amount : Type}

def accountKind : EntityKind (Register Amount) AccountID (Account Amount) :=
  ⟨Register.accounts, Account.id, AccountID.val, Account.createdAt,
    fun _ _ => congrArg AccountID.mk⟩

def holdKind : EntityKind (Register Amount) HoldID (Hold Amount) :=
  ⟨Register.holds, Hold.id, HoldID.val, Hold.createdAt, fun _ _ => congrArg HoldID.mk⟩

/-! ## Listings -/

/-- `ListAccounts`: all deposit accounts. -/
def listAccounts (order : MapOrder AccountID (Account Amount))
    (sorter : SliceSort (Account Amount)) (r : Register Amount) : List (Account Amount) :=
  CoreBanking.listed order sorter (ByCreation Account.createdAt fun a => a.id.val)
    (fun _ => True) r.accounts

/-- The loop of `ListHolds`: the holds on the list of an account. It passes over an id
that is not in the map. -/
def collectHolds (r : Register Amount) (id : AccountID) : List (Hold Amount) :=
  ((r.accountHolds.lookup id).getD []).filterMap fun k => r.holds.lookup k

/-- `ListHolds`: the holds of an account, none if there is no such account. -/
def listHolds (sorter : SliceSort (Hold Amount)) (r : Register Amount) (id : AccountID) :
    List (Hold Amount) :=
  sorter.sort (ByCreation Hold.createdAt fun h => h.id.val) (r.collectHolds id)

/-- The snapshots of an account, by calendar day. -/
def byDate (r : Register Amount) (id : AccountID) : GoMap Int (Snapshot Amount) :=
  (r.snapshots.lookup id).getD ∅

/-- `ListSnapshots`: the snapshots of an account, none if there is no such account. They
are sorted by date, as points in time. -/
def listSnapshots (order : MapOrder Int (Snapshot Amount)) (sorter : SliceSort (Snapshot Amount))
    (r : Register Amount) (id : AccountID) : List (Snapshot Amount) :=
  CoreBanking.listed order sorter (fun x y => x.date.Before y.date) (fun _ => True)
    (r.byDate id)

/-- The loop finds the holds of the account. -/
theorem Indexed.mem_collectHolds {r : Register Amount} (hi : r.Indexed) (id : AccountID)
    (h : Hold Amount) :
    h ∈ r.collectHolds id ↔ r.holds.lookup h.id = some h ∧ h.accountID = id := by
  rw [collectHolds, List.mem_filterMap]
  constructor
  · rintro ⟨k, hk, hlook⟩
    obtain ⟨h', hlook', haccount⟩ := (hi.listed id k).mp hk
    cases hlook.symm.trans hlook'
    rw [hi.hold_id k h hlook]
    exact ⟨hlook, haccount⟩
  · rintro ⟨hlook, haccount⟩
    exact ⟨h.id, (hi.listed id h.id).mpr ⟨h, hlook, haccount⟩, hlook⟩

/-- It finds each once. -/
theorem Indexed.nodup_collectHolds {r : Register Amount} (hi : r.Indexed) (id : AccountID) :
    ((r.collectHolds id).map Hold.id).Nodup := by
  have hids : (r.collectHolds id).map Hold.id = (r.accountHolds.lookup id).getD [] := by
    rw [collectHolds, List.map_filterMap]
    refine (List.filterMap_congr fun k hk => ?_).trans List.filterMap_some
    obtain ⟨h, hlook, -⟩ := (hi.listed id k).mp hk
    rw [hlook, Option.map_some, hi.hold_id k h hlook]
  rw [hids]
  exact hi.nodup id

variable [AddCommGroup Amount] [LinearOrder Amount]

/-! ## Each step creates at most one entity -/

section Creation

variable {now : Time} {op : Op Amount} {r r' : Register Amount}

theorem Change.creates_account (hc : Change now r op r') (h : r.WF) :
    accountKind.Creates now r r' := by
  cases hc with
  | opened subledger name limit =>
    exact .of_insert rfl (h.fresh_account now subledger name limit) rfl
  | status id status eventType acct htarget hacct => exact .of_update hacct rfl rfl
  | held => exact .of_eq rfl
  | released => exact .of_eq rfl
  | captured => exact .of_eq rfl
  | snapshot => exact .of_eq rfl

theorem Change.creates_hold (hc : Change now r op r') (h : r.WF) :
    holdKind.Creates now r r' := by
  cases hc with
  | held req hpos =>
    exact .of_insert rfl (h.holdIDs.fresh (fun _ _ => HoldID.mk.inj) (Nat.lt_succ_self _)) rfl
  | released id hd hh => exact .of_update hh rfl rfl
  | captured id counterparty amount description hd req hh => exact .of_update hh rfl rfl
  | opened => exact .of_eq rfl
  | status => exact .of_eq rfl
  | snapshot => exact .of_eq rfl

end Creation

theorem account_creation : (accountKind : EntityKind (Register Amount) _ _).Creation exec
    fun r => r.WF ∧ r.Indexed where
  keeps := exec_ready
  creates step r h := by
    obtain ⟨now, step⟩ := step
    cases step with
    | register op =>
      rcases exec_register now op r with heq | ht
      · exact .of_eq (congrArg Register.accounts heq)
      · exact ht.change.creates_account h.1
    | ledger op => exact .of_eq rfl
  id _ h := h.1.account_id

theorem hold_creation : (holdKind : EntityKind (Register Amount) _ _).Creation exec
    fun r => r.WF ∧ r.Indexed where
  keeps := exec_ready
  creates step r h := by
    obtain ⟨now, step⟩ := step
    cases step with
    | register op =>
      rcases exec_register now op r with heq | ht
      · exact .of_eq (congrArg Register.holds heq)
      · exact ht.change.creates_hold h.1
    | ledger op => exact .of_eq rfl
  id _ h := h.2.hold_id

/-! ## The order of creation -/

/-- The times of the steps do not go back. -/
def Chronological {I : Type} (steps : List (Time × I)) : Prop :=
  steps.Pairwise fun i j => i.1.ns ≤ j.1.ns

instance {I : Type} (steps : List (Time × I)) : Decidable (Chronological steps) :=
  inferInstanceAs (Decidable (List.Pairwise _ _))

/-- **Listings are by creation time, then id**, for every run with a clock that does not
go back, every order of the maps and every sort. That is the order of creation exactly if
the ids of entities created at one time are in that order, as strings. -/
theorem listings_by_creation :
    (∀ steps : List (Time × Book.Op Amount), Chronological steps →
      let s := Book.reached steps
      Book.ledgerKind.Listing Book.exec (newBook Amount) steps (fun _ => True)
        (fun c : MapOrder _ _ × SliceSort _ => Book.listLedgers c.1 c.2 s) ∧
      (∀ ledgerID, Book.subledgerKind.Listing Book.exec (newBook Amount) steps
        (fun sl => sl.ledgerID = ledgerID)
        (fun c : MapOrder _ _ × SliceSort _ => Book.listSubledgers c.1 c.2 s ledgerID)) ∧
      (∀ subledgerID, Book.accountKind.Listing Book.exec (newBook Amount) steps
        (fun a => a.subledgerID = subledgerID)
        (fun c : MapOrder _ _ × SliceSort _ => Book.listAccounts c.1 c.2 s subledgerID)) ∧
      Book.transactionKind.Listing Book.exec (newBook Amount) steps (fun _ => True)
        (fun c : MapOrder _ _ × SliceSort _ => Book.listTransactions c.1 c.2 s)) ∧
    ∀ steps : List (Time × Step Amount), Chronological steps →
      let r := reached steps
      accountKind.Listing exec (newRegister (newBook Amount)) steps (fun _ => True)
        (fun c : MapOrder _ _ × SliceSort _ => listAccounts c.1 c.2 r) ∧
      ∀ id, holdKind.Listing exec (newRegister (newBook Amount)) steps
        (fun h => h.accountID = id) (fun sorter => listHolds sorter r id) := by
  constructor
  · intro steps hclock s
    refine ⟨?_, fun ledgerID => ?_, fun subledgerID => ?_, ?_⟩
    · exact Book.ledger_creation.listing Book.sound_newBook rfl hclock _
    · exact Book.subledger_creation.listing Book.sound_newBook rfl hclock _
    · exact Book.account_creation.listing Book.sound_newBook rfl hclock _
    · exact Book.transaction_creation.listing Book.sound_newBook rfl hclock _
  · intro steps hclock r
    have hinit : (newRegister (newBook Amount)).WF ∧ (newRegister (newBook Amount)).Indexed :=
      ⟨wf_newRegister Book.wf_newBook, indexed_newRegister _⟩
    have hi : r.Indexed := indexed_reached steps
    refine ⟨?_, fun id => ?_⟩
    · exact account_creation.listing hinit rfl hclock _
    · exact hold_creation.listing_sort hinit rfl hclock (fun _ => hi.mem_collectHolds id)
        (fun _ => hi.nodup_collectHolds id) (fun sorter => sorter)

/-- Six ledgers, created at one time. -/
def sixLedgers : List (Time × Book.Op ℤ) :=
  List.replicate 6 (⟨1, 0⟩, .createLedger "Ledger")

/-- The theorem for the six ledgers. -/
theorem listing_of_six : Chronological sixLedgers ∧
    Book.ledgerKind.Listing Book.exec (newBook ℤ) sixLedgers (fun _ => True)
      fun c : MapOrder _ _ × SliceSort _ => Book.listLedgers c.1 c.2 (Book.reached sixLedgers) :=
  ⟨by decide, (listings_by_creation.1 sixLedgers (by decide)).1⟩

/-- The sixth of them is not listed last. -/
theorem eleven_before_nine : ¬∀ (steps : List (Time × Book.Op ℤ)), Chronological steps →
    ∀ order sorter, Book.ledgerKind.InCreationOrder Book.exec (newBook ℤ) steps
      (Book.listLedgers order sorter (Book.reached steps)) := by
  intro h
  have hclock : Chronological sixLedgers := by decide
  have hlisting := Book.ledger_creation.listing Book.sound_newBook rfl hclock fun _ => True
  let c : MapOrder Ledger.LedgerID Ledger.Ledger × SliceSort Ledger.Ledger :=
    (.byKey, .breaking fun _ _ => True)
  have hties := (hlisting.created_iff c).mp (h sixLedgers hclock c.1 c.2)
  let fifth : Ledger.Ledger := ⟨⟨"ldg_9"⟩, "Ledger", ⟨1, 0⟩⟩
  let sixth : Ledger.Ledger := ⟨⟨"ldg_11"⟩, "Ledger", ⟨1, 0⟩⟩
  have hstored : (Book.reached sixLedgers).ledgers.lookup ⟨"ldg_9"⟩ = some fifth ∧
      (Book.reached sixLedgers).ledgers.lookup ⟨"ldg_11"⟩ = some sixth := by
    decide +kernel
  have hbefore : Book.ledgerKind.CreatedBefore Book.exec (newBook ℤ) sixLedgers
      ⟨"ldg_9"⟩ ⟨"ldg_11"⟩ := by
    refine ⟨sixLedgers.take 5, List.take_prefix 5 _, ?_, ?_⟩
    · show _ ∈ (Book.reached (sixLedgers.take 5)).ledgers
      decide +kernel
    · show _ ∉ (Book.reached (sixLedgers.take 5)).ledgers
      decide +kernel
  have hname := hties fifth ((hlisting.mem c fifth).mpr ⟨hstored.1, trivial⟩) sixth
    ((hlisting.mem c sixth).mpr ⟨hstored.2, trivial⟩) rfl hbefore
  exact absurd hname (by decide)

end Register

end CoreBanking.Deposit
