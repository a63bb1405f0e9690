import CoreBanking.Api.View
import CoreBanking.Concurrent.Safety

/-!
# What is there for requests

- `Present`: the bank and the entity that the path of a GET names are there;
- `view_of_present`, `present_of_view`: the GET is answered with a 200 if they are, and
  otherwise refused, for a reason that is not a panic (`view_not_panics`);
- `Present.mono`: what is there stays there.
-/

namespace CoreBanking.Api

open Concurrent
open Ledger (Book)
open Deposit (Register)
open Payment (Network Participant ParticipantID)

variable {Amount α β : Type}

/-! ## What is there -/

section Present

variable {s s' : Network Amount}

/-- The bank in the path is there, and so is something in its ledger. -/
def InLedger (s : Network Amount) (pid : String) (P : Book Amount → Prop) : Prop :=
  ∃ p, s.participants.lookup ⟨pid⟩ = some p ∧ P p.ledger

/-- The bank in the path is there, and so is something in its register. -/
def InDeposit (s : Network Amount) (pid : String) (P : Register Amount → Prop) : Prop :=
  ∃ p, s.participants.lookup ⟨pid⟩ = some p ∧ P p.deposit

/-- What the path of a GET names is there. -/
def Present (s : Network Amount) : Request Amount → Prop
  | .listParticipants | .listSchemes | .listReserves | .centralBankAudit => True
  | .getParticipant pid | .getReserve pid => ⟨pid⟩ ∈ s.participants
  | .listLedgers pid | .listSubledgers pid _ | .listAccounts pid _ | .listTransactions pid _
  | .ledgerAudit pid _ | .listDepositAccounts pid | .listHolds pid _ | .depositAudit pid =>
    ⟨pid⟩ ∈ s.participants
  | .getLedger pid lid => InLedger s pid fun b => ⟨lid⟩ ∈ b.ledgers
  | .getSubledger pid sid => InLedger s pid fun b => ⟨sid⟩ ∈ b.subledgers
  | .getAccount pid aid | .bookBalance pid aid => InLedger s pid fun b => ⟨aid⟩ ∈ b.accounts
  | .getTransaction pid tid => InLedger s pid fun b => ⟨tid⟩ ∈ b.transactions
  | .getDepositAccount pid did | .depositBalance pid did =>
    InDeposit s pid fun r => ⟨did⟩ ∈ r.accounts
  | .getHold pid hid => InDeposit s pid fun r => ⟨hid⟩ ∈ r.holds
  | .getSnapshots pid _ date => date = "" ∧ ⟨pid⟩ ∈ s.participants
  | .listMandates | .listPayments | .listCycles | .listSettlements => True
  | .getMandate mid => ⟨mid⟩ ∈ s.mandates
  | .getPayment payid => ⟨payid⟩ ∈ s.payments
  | .getCycle cid => ⟨cid⟩ ∈ s.cycles
  | .getSettlement sid => ⟨sid⟩ ∈ s.settlements
  | _ => False

/-- A GET. What its path names is not a snapshot by its date. -/
def Lasting : Request Amount → Prop
  | .addParticipant _ | .fundDeposit _ _ | .createLedger _ _ | .createSubledger _ _ _
  | .createAccount _ _ _ | .postTransaction _ _ | .reverseTransaction _ _ _
  | .openDepositAccount _ _ | .depositStatus _ _ _ | .closeDepositAccount _ _
  | .createHold _ _ _ | .releaseHold _ _ | .captureHold _ _ _ | .takeSnapshot _ _ _
  | .createMandate _ | .revokeMandate _ | .initiatePayment _ | .rejectPayment _ _
  | .returnPayment _ _ | .openCycle _ | .closeCycle _ | .settleCycle _ => False
  | .getSnapshots _ _ date => date = ""
  | _ => True

theorem InLedger.mono {pid : String} {P : Book Amount → Prop} (h : InLedger s pid P)
    (hr : s.Retains s') (hP : ∀ b b', b.Retains b' → P b → P b') : InLedger s' pid P := by
  obtain ⟨p, hp, hin⟩ := h
  obtain ⟨p', hp', hbank⟩ := hr.participants _ p hp
  exact ⟨p', hp', hP _ _ hbank.deposit.book hin⟩

theorem InDeposit.mono {pid : String} {P : Register Amount → Prop} (h : InDeposit s pid P)
    (hr : s.Retains s') (hP : ∀ r r', r.Retains r' → P r → P r') : InDeposit s' pid P := by
  obtain ⟨p, hp, hin⟩ := h
  obtain ⟨p', hp', hbank⟩ := hr.participants _ p hp
  exact ⟨p', hp', hP _ _ hbank.deposit hin⟩

/-- What is there stays there. -/
theorem Present.mono {req : Request Amount} (h : Present s req) (hr : s.Retains s') :
    Present s' req := by
  have hbank : ∀ {pid : ParticipantID}, pid ∈ s.participants → pid ∈ s'.participants :=
    hr.participants.mem
  cases req with
  | getParticipant pid => exact hbank h
  | getReserve pid => exact hbank h
  | listLedgers pid => exact hbank h
  | getLedger pid lid =>
    rw [Present] at h ⊢
    exact InLedger.mono h hr fun _ _ hb => hb.ledgers.mem
  | listSubledgers pid lid => exact hbank h
  | getSubledger pid sid =>
    rw [Present] at h ⊢
    exact InLedger.mono h hr fun _ _ hb => hb.subledgers.mem
  | listAccounts pid sid => exact hbank h
  | getAccount pid aid =>
    rw [Present] at h ⊢
    exact InLedger.mono h hr fun _ _ hb => hb.accounts.mem
  | bookBalance pid aid =>
    rw [Present] at h ⊢
    exact InLedger.mono h hr fun _ _ hb => hb.accounts.mem
  | listTransactions pid account => exact hbank h
  | getTransaction pid tid =>
    rw [Present] at h ⊢
    exact InLedger.mono h hr fun _ _ hb => hb.transactions.mem
  | ledgerAudit pid entity => exact hbank h
  | listDepositAccounts pid => exact hbank h
  | getDepositAccount pid did =>
    rw [Present] at h ⊢
    exact InDeposit.mono h hr fun _ _ hd => hd.accounts.mem
  | depositBalance pid did =>
    rw [Present] at h ⊢
    exact InDeposit.mono h hr fun _ _ hd => hd.accounts.mem
  | listHolds pid did => exact hbank h
  | getHold pid hid =>
    rw [Present] at h ⊢
    exact InDeposit.mono h hr fun _ _ hd => hd.holds.mem
  | getSnapshots pid did date => exact ⟨h.1, hbank h.2⟩
  | depositAudit pid => exact hbank h
  | getMandate mid => exact hr.mandates.mem h
  | getPayment payid => exact hr.payments.mem h
  | getCycle cid => exact hr.cycles.mem h
  | getSettlement sid => exact hr.settlements.mem h
  | _ => exact h

/-! ### What is answered -/

/-- What has been seen. -/
theorem see_eq_ok {x : Except Payment.Err α} {g : α → Response Amount} {r : Response Amount} :
    see x g = .ok r ↔ ∃ a, x = .ok a ∧ g a = r := by
  cases x with
  | ok a =>
    constructor
    · intro h
      cases h
      exact ⟨a, rfl, rfl⟩
    · rintro ⟨-, ⟨⟩, rfl⟩
      rfl
  | error e =>
    constructor
    · intro h
      cases h
    · rintro ⟨-, ⟨⟩, -⟩

theorem atLedger_eq_ok {pid : String} {f : Book Amount → Except Ledger.Err α} {a : α} :
    atLedger s pid f = .ok a ↔ InLedger s pid fun b => f b = .ok a := by
  rw [atLedger, Call.except_bind_eq_ok]
  constructor
  · rintro ⟨p, hp, ha⟩
    refine ⟨p, Finmap.find_eq_ok.mp hp, ?_⟩
    cases hf : f p.ledger with
    | ok a' =>
      rw [hf] at ha
      cases ha
      exact hf
    | error e =>
      rw [hf] at ha
      cases ha
  · rintro ⟨p, hp, ha⟩
    refine ⟨p, Finmap.find_eq_ok.mpr hp, ?_⟩
    rw [ha]
    rfl

theorem atDeposit_eq_ok {pid : String} {f : Register Amount → Except Deposit.Err α} {a : α} :
    atDeposit s pid f = .ok a ↔ InDeposit s pid fun r => f r = .ok a := by
  rw [atDeposit, Call.except_bind_eq_ok]
  constructor
  · rintro ⟨p, hp, ha⟩
    refine ⟨p, Finmap.find_eq_ok.mp hp, ?_⟩
    cases hf : f p.deposit with
    | ok a' =>
      rw [hf] at ha
      cases ha
      exact hf
    | error e =>
      rw [hf] at ha
      cases ha
  · rintro ⟨p, hp, ha⟩
    refine ⟨p, Finmap.find_eq_ok.mpr hp, ?_⟩
    rw [ha]
    rfl

/-- A look that has found something. -/
theorem seen {x : Except Payment.Err α} {g : α → Response Amount} {r : Response Amount}
    {L P : Prop} (hr : some (see x g) = some (.ok r)) (hg : ∀ a, (g a).status = 200)
    (hP : ∀ a, x = .ok a → P) : r.status = 200 ∧ (L → P) := by
  obtain ⟨a, ha, rfl⟩ := see_eq_ok.mp (Option.some.inj hr)
  exact ⟨hg a, fun _ => hP a ha⟩

theorem mem_of_find {K V ε : Type} [DecidableEq K] {m : GoMap K V} {k : K} {missing : ε} {v : V}
    (h : m.find k missing = .ok v) : k ∈ m :=
  Finmap.mem_of_lookup_eq_some (Finmap.find_eq_ok.mp h)

theorem lookup_of_getAccount {r : Register Amount} {id : Deposit.AccountID}
    {a : Deposit.Account Amount} (h : r.getAccount id = .ok a) :
    r.accounts.lookup id = some a := by
  rw [Register.getAccount] at h
  cases ha : r.accounts.lookup id with
  | none =>
    rw [ha] at h
    cases h
  | some a' =>
    rw [ha] at h
    cases h
    rfl

theorem mem_of_getAccount {r : Register Amount} {id : Deposit.AccountID}
    {a : Deposit.Account Amount} (h : r.getAccount id = .ok a) : id ∈ r.accounts :=
  Finmap.mem_of_lookup_eq_some (lookup_of_getAccount h)

theorem mem_of_bookBalance [AddCommGroup Amount] {b : Book Amount} {id : Ledger.AccountID}
    {bal : Amount} (h : b.bookBalance id = .ok bal) : id ∈ b.accounts := by
  rw [Book.bookBalance] at h
  cases ha : b.accounts.lookup id with
  | none =>
    rw [ha] at h
    cases h
  | some a => exact Finmap.mem_of_lookup_eq_some ha

theorem mem_of_getBalance [AddCommGroup Amount] {r : Register Amount} {now : Time}
    {id : Deposit.AccountID} {bal : Deposit.Balance Amount} (h : r.getBalance now id = .ok bal) :
    id ∈ r.accounts := by
  obtain ⟨acct, hacct, -⟩ := Call.except_bind_eq_ok.mp h
  exact mem_of_getAccount hacct

theorem in_of_atLedger {pid : String} {f : Book Amount → Except Ledger.Err α} {a : α}
    {P : Book Amount → Prop} (hf : ∀ b, f b = .ok a → P b) (h : atLedger s pid f = .ok a) :
    InLedger s pid P := by
  obtain ⟨p, hp, hin⟩ := atLedger_eq_ok.mp h
  exact ⟨p, hp, hf _ hin⟩

theorem in_of_atDeposit {pid : String} {f : Register Amount → Except Deposit.Err α} {a : α}
    {P : Register Amount → Prop} (hf : ∀ r, f r = .ok a → P r) (h : atDeposit s pid f = .ok a) :
    InDeposit s pid P := by
  obtain ⟨p, hp, hin⟩ := atDeposit_eq_ok.mp h
  exact ⟨p, hp, hf _ hin⟩

theorem bank_of_atLedger {pid : String} {f : Book Amount → Except Ledger.Err α} {a : α}
    (h : atLedger s pid f = .ok a) : (⟨pid⟩ : ParticipantID) ∈ s.participants := by
  obtain ⟨p, hp, -⟩ := atLedger_eq_ok.mp h
  exact Finmap.mem_of_lookup_eq_some hp

theorem bank_of_atDeposit {pid : String} {f : Register Amount → Except Deposit.Err α} {a : α}
    (h : atDeposit s pid f = .ok a) : (⟨pid⟩ : ParticipantID) ∈ s.participants := by
  obtain ⟨p, hp, -⟩ := atDeposit_eq_ok.mp h
  exact Finmap.mem_of_lookup_eq_some hp

/-- A look that finds something. -/
theorem answered {x : Except Payment.Err α} {g : α → Response Amount}
    (hx : ∃ a, x = .ok a) (hg : ∀ a, (g a).status = 200) :
    ∃ r, some (see x g) = some (.ok r) ∧ r.status = 200 := by
  obtain ⟨a, rfl⟩ := hx
  exact ⟨g a, rfl, hg a⟩

theorem found_bank {pid : ParticipantID} (h : pid ∈ s.participants) :
    ∃ p, s.getParticipant pid = .ok p :=
  Finmap.find_of_mem h _

theorem found_inLedger {pid : String} {P : Book Amount → Prop}
    {f : Book Amount → Except Ledger.Err α} (h : InLedger s pid P)
    (hf : ∀ b, P b → ∃ a, f b = .ok a) : ∃ a, atLedger s pid f = .ok a := by
  obtain ⟨p, hp, hin⟩ := h
  obtain ⟨a, ha⟩ := hf p.ledger hin
  exact ⟨a, atLedger_eq_ok.mpr ⟨p, hp, ha⟩⟩

theorem found_inDeposit {pid : String} {P : Register Amount → Prop}
    {f : Register Amount → Except Deposit.Err α} (h : InDeposit s pid P)
    (hf : ∀ r, P r → ∃ a, f r = .ok a) : ∃ a, atDeposit s pid f = .ok a := by
  obtain ⟨p, hp, hin⟩ := h
  obtain ⟨a, ha⟩ := hf p.deposit hin
  exact ⟨a, atDeposit_eq_ok.mpr ⟨p, hp, ha⟩⟩

/-- A listing of a bank that is there. -/
theorem found_ledgerList {pid : String} (h : (⟨pid⟩ : ParticipantID) ∈ s.participants)
    (f : Book Amount → α) : ∃ a, atLedger s pid (fun b => .ok (f b)) = .ok a := by
  obtain ⟨p, hp⟩ := Finmap.mem_iff.mp h
  exact ⟨f p.ledger, atLedger_eq_ok.mpr ⟨p, hp, rfl⟩⟩

@[inherit_doc found_ledgerList]
theorem found_depositList {pid : String} (h : (⟨pid⟩ : ParticipantID) ∈ s.participants)
    (f : Register Amount → α) : ∃ a, atDeposit s pid (fun r => .ok (f r)) = .ok a := by
  obtain ⟨p, hp⟩ := Finmap.mem_iff.mp h
  exact ⟨f p.deposit, atDeposit_eq_ok.mpr ⟨p, hp, rfl⟩⟩

/-- A loop that finds something in each round. -/
theorem found_mapM {y : α → Except Payment.Err β} {as : List α}
    (h : ∀ a ∈ as, ∃ b, y a = .ok b) : ∃ bs, as.mapM y = .ok bs := by
  induction as with
  | nil => exact ⟨[], rfl⟩
  | cons a as ih =>
    obtain ⟨b, hb⟩ := h a List.mem_cons_self
    obtain ⟨bs, hbs⟩ := ih fun a' ha' => h a' (List.mem_cons_of_mem a ha')
    refine ⟨b :: bs, ?_⟩
    rw [List.mapM_cons, hb, hbs]
    rfl

section Sound

variable [AddCommGroup Amount] [LinearOrder Amount]

/-- Every bank has its account at the central bank. -/
theorem found_reserve (h : s.Sound) {pid : ParticipantID} (hpid : pid ∈ s.participants) :
    ∃ bal, s.reserveBalance pid = .ok bal := by
  obtain ⟨p, hp⟩ := Finmap.mem_iff.mp hpid
  obtain ⟨acct, hacct⟩ := Finmap.mem_iff.mp (h.refers.settlementAccount pid p hp)
  refine ⟨s.centralBank.balance p.settlementAccount, ?_⟩
  rw [Network.reserveBalance, Finmap.find_eq_ok.mpr hp]
  show (s.centralBank.bookBalance p.settlementAccount).mapError Payment.Err.ledger = _
  rw [Book.bookBalance_of_lookup hacct]
  rfl

omit [LinearOrder Amount] in
/-- The account behind a deposit account is there, and so are the holds on it. -/
theorem found_balance {r : Register Amount} (h : r.Linked) (now : Time) {id : Deposit.AccountID}
    (hid : id ∈ r.accounts) : ∃ bal, r.getBalance now id = .ok bal := by
  obtain ⟨acct, hacct⟩ := Finmap.mem_iff.mp hid
  obtain ⟨g, hg, -⟩ := h.gl id acct hacct
  have hbook : r.bookBalance acct = .ok (r.book.balance acct.glAccount) := by
    rw [Register.bookBalance, Book.bookBalance_of_lookup hg]
    rfl
  have hget : r.getAccount id = .ok acct := by
    rw [Register.getAccount, hacct]
  refine ⟨⟨r.book.balance acct.glAccount, r.listed now id,
    r.book.balance acct.glAccount - r.listed now id + acct.overdraftLimit⟩, ?_⟩
  refine Call.except_bind_eq_ok.mpr ⟨acct, hget, Call.except_bind_eq_ok.mpr ⟨_, hbook, ?_⟩⟩
  exact Call.except_bind_eq_ok.mpr ⟨_, h.computeActiveHolds_eq now id, rfl⟩

/-- **What is there is answered.** -/
theorem view_of_present (h : s.Sound) {req : Request Amount} (hreq : Present s req)
    (c : Choices Amount) (now : Time) :
    ∃ r, view c now s req = some (.ok r) ∧ r.status = 200 := by
  cases req with
  | listParticipants => exact answered ⟨_, rfl⟩ fun _ => rfl
  | getParticipant pid => exact answered (found_bank hreq) fun _ => rfl
  | listSchemes => exact answered ⟨_, rfl⟩ fun _ => rfl
  | listReserves =>
    refine answered (found_mapM fun p hp => ?_) fun _ => rfl
    obtain ⟨⟨pid, hpid⟩, -⟩ := mem_listed.mp hp
    rw [h.ids.participants.own pid p hpid]
    obtain ⟨bal, hbal⟩ := found_reserve h (Finmap.mem_of_lookup_eq_some hpid)
    exact ⟨_, by rw [hbal]; rfl⟩
  | getReserve pid => exact answered (found_reserve h hreq) fun _ => rfl
  | centralBankAudit => exact answered ⟨_, rfl⟩ fun _ => rfl
  | listLedgers pid => exact answered (found_ledgerList hreq _) fun _ => rfl
  | getLedger pid lid =>
    rw [Present] at hreq
    exact answered (found_inLedger hreq fun _ hb => Finmap.find_of_mem hb _) fun _ => rfl
  | listSubledgers pid lid => exact answered (found_ledgerList hreq _) fun _ => rfl
  | getSubledger pid sid =>
    rw [Present] at hreq
    exact answered (found_inLedger hreq fun _ hb => Finmap.find_of_mem hb _) fun _ => rfl
  | listAccounts pid sid => exact answered (found_ledgerList hreq _) fun _ => rfl
  | getAccount pid aid =>
    rw [Present] at hreq
    exact answered (found_inLedger hreq fun _ hb => Finmap.find_of_mem hb _) fun _ => rfl
  | bookBalance pid aid =>
    rw [Present] at hreq
    refine answered (found_inLedger hreq fun b hb => ?_) fun _ => rfl
    obtain ⟨acct, hacct⟩ := Finmap.mem_iff.mp hb
    exact ⟨_, Book.bookBalance_of_lookup hacct⟩
  | listTransactions pid account => exact answered (found_ledgerList hreq _) fun _ => rfl
  | getTransaction pid tid =>
    rw [Present] at hreq
    exact answered (found_inLedger hreq fun _ hb => Finmap.find_of_mem hb _) fun _ => rfl
  | ledgerAudit pid entity => exact answered (found_ledgerList hreq _) fun _ => rfl
  | listDepositAccounts pid => exact answered (found_depositList hreq _) fun _ => rfl
  | getDepositAccount pid did =>
    rw [Present] at hreq
    refine answered (found_inDeposit hreq fun r hr => ?_) fun _ => rfl
    obtain ⟨acct, hacct⟩ := Finmap.mem_iff.mp hr
    refine ⟨acct, ?_⟩
    rw [Register.getAccount, hacct]
  | depositBalance pid did =>
    refine answered ?_ fun _ => rfl
    obtain ⟨p, hp, hin⟩ := hreq
    obtain ⟨bal, hbal⟩ := found_balance (h.banks _ p hp).linked now hin
    exact ⟨bal, atDeposit_eq_ok.mpr ⟨p, hp, hbal⟩⟩
  | listHolds pid did => exact answered (found_depositList hreq _) fun _ => rfl
  | getHold pid hid =>
    rw [Present] at hreq
    exact answered (found_inDeposit hreq fun _ hd => Finmap.find_of_mem hd _) fun _ => rfl
  | getSnapshots pid did date =>
    obtain ⟨rfl, hbank⟩ := hreq
    exact answered (found_depositList hbank _) fun _ => rfl
  | depositAudit pid => exact answered (found_depositList hreq _) fun _ => rfl
  | listMandates => exact answered ⟨_, rfl⟩ fun _ => rfl
  | getMandate mid => exact answered (Finmap.find_of_mem hreq _) fun _ => rfl
  | listPayments => exact answered ⟨_, rfl⟩ fun _ => rfl
  | getPayment payid => exact answered (Finmap.find_of_mem hreq _) fun _ => rfl
  | listCycles => exact answered ⟨_, rfl⟩ fun _ => rfl
  | getCycle cid => exact answered (Finmap.find_of_mem hreq _) fun _ => rfl
  | listSettlements => exact answered ⟨_, rfl⟩ fun _ => rfl
  | getSettlement sid => exact answered (Finmap.find_of_mem hreq _) fun _ => rfl
  | _ => exact absurd hreq not_false

omit [LinearOrder Amount] in
/-- **What is answered is there**, and the response is a 200. Snapshots by date are not among
what is kept track of. -/
theorem present_of_view {req : Request Amount} {c : Choices Amount} {now : Time}
    {r : Response Amount} (hr : view c now s req = some (.ok r)) :
    r.status = 200 ∧ (Lasting req → Present s req) := by
  cases req with
  | listParticipants => exact seen hr (fun _ => rfl) fun _ _ => trivial
  | getParticipant pid => exact seen hr (fun _ => rfl) fun _ => mem_of_find
  | listSchemes => exact seen hr (fun _ => rfl) fun _ _ => trivial
  | listReserves => exact seen hr (fun _ => rfl) fun _ _ => trivial
  | getReserve pid =>
    refine seen hr (fun _ => rfl) fun bal hbal => ?_
    obtain ⟨p, hp, -⟩ := Call.except_bind_eq_ok.mp hbal
    exact mem_of_find hp
  | centralBankAudit => exact seen hr (fun _ => rfl) fun _ _ => trivial
  | listLedgers pid => exact seen hr (fun _ => rfl) fun _ => bank_of_atLedger
  | getLedger pid lid => exact seen hr (fun _ => rfl) fun _ => in_of_atLedger fun _ => mem_of_find
  | listSubledgers pid lid => exact seen hr (fun _ => rfl) fun _ => bank_of_atLedger
  | getSubledger pid sid =>
    exact seen hr (fun _ => rfl) fun _ => in_of_atLedger fun _ => mem_of_find
  | listAccounts pid sid => exact seen hr (fun _ => rfl) fun _ => bank_of_atLedger
  | getAccount pid aid => exact seen hr (fun _ => rfl) fun _ => in_of_atLedger fun _ => mem_of_find
  | bookBalance pid aid =>
    exact seen hr (fun _ => rfl) fun _ => in_of_atLedger fun _ => mem_of_bookBalance
  | listTransactions pid account => exact seen hr (fun _ => rfl) fun _ => bank_of_atLedger
  | getTransaction pid tid =>
    exact seen hr (fun _ => rfl) fun _ => in_of_atLedger fun _ => mem_of_find
  | ledgerAudit pid entity => exact seen hr (fun _ => rfl) fun _ => bank_of_atLedger
  | listDepositAccounts pid => exact seen hr (fun _ => rfl) fun _ => bank_of_atDeposit
  | getDepositAccount pid did =>
    exact seen hr (fun _ => rfl) fun _ => in_of_atDeposit fun _ => mem_of_getAccount
  | depositBalance pid did =>
    exact seen hr (fun _ => rfl) fun _ => in_of_atDeposit fun _ => mem_of_getBalance
  | listHolds pid did => exact seen hr (fun _ => rfl) fun _ => bank_of_atDeposit
  | getHold pid hid => exact seen hr (fun _ => rfl) fun _ => in_of_atDeposit fun _ => mem_of_find
  | getSnapshots pid did date =>
    have hx : viewSnapshots c s pid did date = .ok r := Option.some.inj hr
    rw [viewSnapshots] at hx
    split at hx
    · rename_i hdate
      obtain ⟨p, -, hx⟩ := Call.except_bind_eq_ok.mp hx
      obtain ⟨day, -, hx⟩ := Call.except_bind_eq_ok.mp hx
      obtain ⟨snap, -, rfl⟩ := see_eq_ok.mp hx
      exact ⟨rfl, fun hlast => absurd hlast hdate⟩
    · obtain ⟨snaps, hsnaps, rfl⟩ := see_eq_ok.mp hx
      exact ⟨rfl, fun hlast => ⟨hlast, bank_of_atDeposit hsnaps⟩⟩
  | depositAudit pid => exact seen hr (fun _ => rfl) fun _ => bank_of_atDeposit
  | listMandates => exact seen hr (fun _ => rfl) fun _ _ => trivial
  | getMandate mid => exact seen hr (fun _ => rfl) fun _ => mem_of_find
  | listPayments => exact seen hr (fun _ => rfl) fun _ _ => trivial
  | getPayment payid => exact seen hr (fun _ => rfl) fun _ => mem_of_find
  | listCycles => exact seen hr (fun _ => rfl) fun _ _ => trivial
  | getCycle cid => exact seen hr (fun _ => rfl) fun _ => mem_of_find
  | listSettlements => exact seen hr (fun _ => rfl) fun _ _ => trivial
  | getSettlement sid => exact seen hr (fun _ => rfl) fun _ => mem_of_find
  | _ => cases hr

/-! ### Why a GET is refused -/

omit [AddCommGroup Amount] [LinearOrder Amount] in
/-- What has not been found. -/
theorem see_eq_error {x : Except Payment.Err α} {g : α → Response Amount} {e : Refusal}
    (h : see x g = .error e) : ∃ e', x = .error e' ∧ e = .error e' := by
  cases x with
  | ok a => cases h
  | error e' =>
    cases h
    exact ⟨e', rfl, rfl⟩

omit [AddCommGroup Amount] [LinearOrder Amount] in
theorem refused {x : Except Payment.Err α} {g : α → Response Amount} {e : Refusal}
    (h : some (see x g) = some (.error e)) (hx : ∀ e', x = .error e' → ¬e'.Panics) :
    ¬e.Panics := by
  obtain ⟨e', he', rfl⟩ := see_eq_error (Option.some.inj h)
  exact hx e' he'

omit [AddCommGroup Amount] [LinearOrder Amount] in
theorem getParticipant_not_panics {id : ParticipantID} {e : Payment.Err}
    (h : s.getParticipant id = .error e) : ¬e.Panics := by
  rw [Finmap.eq_of_find_error h]
  exact not_false

omit [AddCommGroup Amount] [LinearOrder Amount] in
theorem atLedger_not_panics {pid : String} {f : Book Amount → Except Ledger.Err α}
    (hf : ∀ b e, f b = .error e → ¬e.Panics) {e : Payment.Err}
    (h : atLedger s pid f = .error e) : ¬e.Panics := by
  rcases Call.except_bind_eq_error.mp h with h | ⟨p, -, h⟩
  · exact getParticipant_not_panics h
  · cases hp : f p.ledger with
    | ok a =>
      rw [hp] at h
      cases h
    | error e' =>
      rw [hp] at h
      cases h
      exact hf _ e' hp

omit [AddCommGroup Amount] [LinearOrder Amount] in
theorem atDeposit_not_panics {pid : String} {f : Register Amount → Except Deposit.Err α}
    (hf : ∀ p, s.participants.lookup ⟨pid⟩ = some p → ∀ e, f p.deposit = .error e → ¬e.Panics)
    {e : Payment.Err} (h : atDeposit s pid f = .error e) : ¬e.Panics := by
  rcases Call.except_bind_eq_error.mp h with h | ⟨p, hp, h⟩
  · exact getParticipant_not_panics h
  · cases hf' : f p.deposit with
    | ok a =>
      rw [hf'] at h
      cases h
    | error e' =>
      rw [hf'] at h
      cases h
      exact hf p (Finmap.find_eq_ok.mp hp) e' hf'

omit [AddCommGroup Amount] [LinearOrder Amount] in
theorem find_not_panics {K V ε : Type} [DecidableEq K] {m : GoMap K V} {k : K} {missing e : ε}
    {P : ε → Prop} (hmissing : ¬P missing) (h : m.find k missing = .error e) : ¬P e := by
  rw [Finmap.eq_of_find_error h]
  exact hmissing

theorem not_refused (h : s.Sound) {req : Request Amount} (hreq : Present s req)
    {c : Choices Amount} {now : Time} {e : Refusal} :
    view c now s req ≠ some (.error e) := by
  obtain ⟨r, hr, -⟩ := view_of_present h hreq c now
  rw [hr]
  intro heq
  cases Option.some.inj heq

omit [AddCommGroup Amount] [LinearOrder Amount] in
theorem snapshots_not_panics {c : Choices Amount} {pid did date : String} {e : Refusal}
    (h : viewSnapshots c s pid did date = .error e) : ¬e.Panics := by
  rw [viewSnapshots] at h
  split at h
  · rcases Call.except_bind_eq_error.mp h with h | ⟨p, -, h⟩
    · cases hp : s.getParticipant ⟨pid⟩ with
      | ok p =>
        rw [hp] at h
        cases h
      | error e' =>
        rw [hp] at h
        cases h
        exact getParticipant_not_panics hp
    rcases Call.except_bind_eq_error.mp h with h | ⟨day, -, h⟩
    · cases hday : parseDay date with
      | ok day =>
        rw [hday] at h
        cases h
      | error message =>
        rw [hday] at h
        cases h
        exact not_false
    · exact refused (congrArg some h) fun _ => atDeposit_not_panics fun _ _ _ =>
        getSnapshot_not_panics
  · refine refused (congrArg some h) fun _ => atDeposit_not_panics fun _ _ _ he => ?_
    cases he

/-- **A GET does not panic.** -/
theorem view_not_panics (h : s.Sound) {req : Request Amount} {c : Choices Amount} {now : Time}
    {e : Refusal} (he : view c now s req = some (.error e)) : ¬e.Panics := by
  have hopen : ∀ (q : Request Amount), Present s q → view c now s q ≠ some (.error e) :=
    fun q hq => not_refused h hq
  have hledger : ∀ {α : Type} (f : Book Amount → α) (b : Book Amount) (e : Ledger.Err),
      (Except.ok (f b) : Except Ledger.Err α) = .error e → ¬e.Panics := by
    intro α f b e he
    cases he
  have hdeposit : ∀ {α : Type} {pid : ParticipantID} (f : Register Amount → α)
      (p : Participant Amount), s.participants.lookup pid = some p → ∀ (e : Deposit.Err),
      (Except.ok (f p.deposit) : Except Deposit.Err α) = .error e → ¬e.Panics := by
    intro α pid f p _ e he
    cases he
  cases req with
  | listParticipants => exact absurd he (hopen .listParticipants trivial)
  | getParticipant pid => exact refused he fun _ => getParticipant_not_panics
  | listSchemes => exact absurd he (hopen .listSchemes trivial)
  | listReserves => exact absurd he (hopen .listReserves trivial)
  | getReserve pid =>
    refine refused he fun e' he' => ?_
    rcases Call.except_bind_eq_error.mp he' with he' | ⟨p, -, he'⟩
    · exact getParticipant_not_panics he'
    · cases hb : s.centralBank.bookBalance p.settlementAccount with
      | ok bal =>
        rw [hb] at he'
        cases he'
      | error e'' =>
        rw [hb] at he'
        cases he'
        exact bookBalance_not_panics hb
  | centralBankAudit => exact absurd he (hopen .centralBankAudit trivial)
  | listLedgers pid => exact refused he fun _ => atLedger_not_panics (hledger _)
  | getLedger pid lid =>
    exact refused he fun _ => atLedger_not_panics fun _ _ => find_not_panics (by rintro ⟨⟩)
  | listSubledgers pid lid => exact refused he fun _ => atLedger_not_panics (hledger _)
  | getSubledger pid sid =>
    exact refused he fun _ => atLedger_not_panics fun _ _ => find_not_panics (by rintro ⟨⟩)
  | listAccounts pid sid => exact refused he fun _ => atLedger_not_panics (hledger _)
  | getAccount pid aid =>
    exact refused he fun _ => atLedger_not_panics fun _ _ => find_not_panics (by rintro ⟨⟩)
  | bookBalance pid aid =>
    exact refused he fun _ => atLedger_not_panics fun _ _ => bookBalance_not_panics
  | listTransactions pid account => exact refused he fun _ => atLedger_not_panics (hledger _)
  | getTransaction pid tid =>
    exact refused he fun _ => atLedger_not_panics fun _ _ => find_not_panics (by rintro ⟨⟩)
  | ledgerAudit pid entity => exact refused he fun _ => atLedger_not_panics (hledger _)
  | listDepositAccounts pid => exact refused he fun _ => atDeposit_not_panics (hdeposit _)
  | getDepositAccount pid did =>
    exact refused he fun _ => atDeposit_not_panics fun _ _ _ => getAccount_not_panics
  | depositBalance pid did =>
    exact refused he fun _ => atDeposit_not_panics fun p hp _ =>
      (h.banks _ p hp).linked.getBalance_not_panics
  | listHolds pid did =>
    exact refused he fun _ => atDeposit_not_panics (hdeposit fun r => r.listHolds c.holds ⟨did⟩)
  | getHold pid hid =>
    exact refused he fun _ => atDeposit_not_panics fun _ _ _ => find_not_panics not_false
  | getSnapshots pid did date => exact snapshots_not_panics (Option.some.inj he)
  | depositAudit pid => exact refused he fun _ => atDeposit_not_panics (hdeposit _)
  | listMandates => exact absurd he (hopen .listMandates trivial)
  | getMandate mid => exact refused he fun _ => find_not_panics not_false
  | listPayments => exact absurd he (hopen .listPayments trivial)
  | getPayment payid => exact refused he fun _ => find_not_panics not_false
  | listCycles => exact absurd he (hopen .listCycles trivial)
  | getCycle cid => exact refused he fun _ => find_not_panics not_false
  | listSettlements => exact absurd he (hopen .listSettlements trivial)
  | getSettlement sid => exact refused he fun _ => find_not_panics not_false
  | _ => cases he

end Sound

end Present

end CoreBanking.Api
