import CoreBanking.Api.Present
import CoreBanking.Deposit.Snapshots

/-!
# The ids in a response

A response names entities by their ids: those that it is about, and those that they refer to.
Each of them can be asked for by a GET.

- `DTO.Names`: the GETs for what an entity in a response names;
- `named_of_view`: what the answer to a GET names is there;
- `Named.mono`: it stays there.

Not among these are the ids of the mandate and of the creditor leg in a payment, of the
settlement in a cycle, of the transaction at the central bank in a settlement, of the customer
subledger in a participant, and of what an audit event is about.
-/

namespace CoreBanking.Api

open Ledger (Book)
open Deposit (Register)
open Payment (Network Participant ParticipantID)

variable {Amount α β : Type}

/-! ## Names -/

/-- The bank in the path of a request. -/
def Request.bank : Request Amount → String
  | .fundDeposit pid _ | .createLedger pid _ | .listLedgers pid | .getLedger pid _
  | .createSubledger pid _ _ | .listSubledgers pid _ | .getSubledger pid _
  | .createAccount pid _ _ | .listAccounts pid _ | .getAccount pid _ | .bookBalance pid _
  | .postTransaction pid _ | .listTransactions pid _ | .getTransaction pid _
  | .reverseTransaction pid _ _ | .ledgerAudit pid _ | .openDepositAccount pid _
  | .listDepositAccounts pid | .getDepositAccount pid _ | .depositBalance pid _
  | .depositStatus pid _ _ | .closeDepositAccount pid _ | .createHold pid _ _
  | .listHolds pid _ | .getHold pid _ | .releaseHold pid _ | .captureHold pid _ _
  | .takeSnapshot pid _ _ | .getSnapshots pid _ _ | .depositAudit pid => pid
  | _ => ""

/-- The entities in a response. -/
def Response.entities (r : Response Amount) : List (DTO Amount) :=
  match r.body with
  | .one d => [d]
  | .list ds => ds
  | .empty | .error _ => []

/-- What an entity in a response of bank `pid` names, a GET asks for. -/
inductive DTO.Names (pid : String) : DTO Amount → Request Amount → Prop
  | ledger (d : LedgerDTO) : Names pid (.ledger d) (.getLedger pid d.id)
  | subledger (d : SubledgerDTO) : Names pid (.subledger d) (.getSubledger pid d.id)
  | subledgerLedger (d : SubledgerDTO) : Names pid (.subledger d) (.getLedger pid d.ledgerID)
  | account (d : AccountDTO) : Names pid (.account d) (.getAccount pid d.id)
  | accountSubledger (d : AccountDTO) :
    Names pid (.account d) (.getSubledger pid d.subledgerID)
  | bookBalance (aid : String) (bal : Amount) :
    Names pid (.bookBalance aid bal) (.bookBalance pid aid)
  | transaction (d : TransactionDTO Amount) :
    Names pid (.transaction d) (.getTransaction pid d.id)
  | entry (d : TransactionDTO Amount) {e : EntryDTO Amount} (he : e ∈ d.entries) :
    Names pid (.transaction d) (.getAccount pid e.accountID)
  | reversal (d : TransactionDTO Amount) (hd : d.reversalOf ≠ "") :
    Names pid (.transaction d) (.getTransaction pid d.reversalOf)
  | depositAccount (d : DepositAccountDTO Amount) :
    Names pid (.depositAccount d) (.getDepositAccount pid d.id)
  | glAccount (d : DepositAccountDTO Amount) :
    Names pid (.depositAccount d) (.getAccount pid d.glAccount)
  | hold (d : HoldDTO Amount) : Names pid (.hold d) (.getHold pid d.id)
  | holdAccount (d : HoldDTO Amount) : Names pid (.hold d) (.getDepositAccount pid d.accountID)
  | snapshot (d : SnapshotDTO Amount) :
    Names pid (.snapshot d) (.getDepositAccount pid d.accountID)
  | participant (d : ParticipantDTO) : Names pid (.participant d) (.getParticipant d.id)
  | suspense (d : ParticipantDTO) :
    Names pid (.participant d) (.getAccount d.id d.suspenseAccount)
  | reserve (d : ParticipantDTO) :
    Names pid (.participant d) (.getAccount d.id d.reserveAccount)
  | payment (d : PaymentDTO Amount) : Names pid (.payment d) (.getPayment d.id)
  | debtor (d : PaymentDTO Amount) :
    Names pid (.payment d) (.getDepositAccount d.debtor.participant d.debtor.account)
  | creditor (d : PaymentDTO Amount) :
    Names pid (.payment d) (.getDepositAccount d.creditor.participant d.creditor.account)
  | paymentCycle (d : PaymentDTO Amount) : Names pid (.payment d) (.getCycle d.cycleID)
  | debtorLeg (d : PaymentDTO Amount) :
    Names pid (.payment d) (.getTransaction d.debtor.participant d.debtorLegTx)
  | mandate (d : MandateDTO Amount) : Names pid (.mandate d) (.getMandate d.id)
  | mandateDebtor (d : MandateDTO Amount) :
    Names pid (.mandate d) (.getDepositAccount d.debtor.participant d.debtor.account)
  | mandateCreditor (d : MandateDTO Amount) :
    Names pid (.mandate d) (.getDepositAccount d.creditor.participant d.creditor.account)
  | clearingCycle (d : ClearingCycleDTO Amount) : Names pid (.clearingCycle d) (.getCycle d.id)
  | cyclePayment (d : ClearingCycleDTO Amount) {payid : String} (h : payid ∈ d.paymentIDs) :
    Names pid (.clearingCycle d) (.getPayment payid)
  | cyclePosition (d : ClearingCycleDTO Amount) {i : ParticipantID} (hi : i ∈ d.netPositions) :
    Names pid (.clearingCycle d) (.getParticipant i.val)
  | settlement (d : SettlementDTO Amount) : Names pid (.settlement d) (.getSettlement d.id)
  | settlementCycle (d : SettlementDTO Amount) : Names pid (.settlement d) (.getCycle d.cycleID)
  | settlementPosition (d : SettlementDTO Amount) {i : ParticipantID}
    (hi : i ∈ d.netPositions) : Names pid (.settlement d) (.getParticipant i.val)
  | reserveBalance (d : ReserveDTO Amount) : Names pid (.reserve d) (.getReserve d.participant)

/-- All that the entity names is there. -/
def Named (s : Network Amount) (pid : String) (d : DTO Amount) : Prop :=
  ∀ q, d.Names pid q → Present s q

theorem Named.mono {s s' : Network Amount} {pid : String} {d : DTO Amount} (h : Named s pid d)
    (hr : s.Retains s') : Named s' pid d :=
  fun q hq => (h q hq).mono hr

/-! ## Stored entities -/

section Stored

variable [AddCommGroup Amount] [LinearOrder Amount] {s : Network Amount} {pid : String}
  {p : Participant Amount}

/-! ### The ledger of a bank -/

section Ledger

variable (h : s.Sound) (hp : s.participants.lookup ⟨pid⟩ = some p)
include h hp

theorem resolves_of_lookup : p.ledger.Resolves := by
  obtain ⟨steps, hsteps⟩ := (h.banks _ p hp).reachable
  show p.deposit.book.Resolves
  rw [hsteps]
  exact Register.resolves_reached steps

theorem named_ledger {k : Ledger.LedgerID} {l : Ledger.Ledger}
    (hl : p.ledger.ledgers.lookup k = some l) : Named s pid (.ledger (toLedgerDTO l)) := by
  have hid := (resolves_of_lookup h hp).ledger_id k l hl
  rintro q ⟨⟩
  rw [Present]
  exact ⟨p, hp, Finmap.mem_of_lookup_eq_some (hid ▸ hl)⟩

theorem named_subledger {k : Ledger.SubledgerID} {sl : Ledger.Subledger}
    (hsl : p.ledger.subledgers.lookup k = some sl) :
    Named s pid (.subledger (toSubledgerDTO sl)) := by
  have hresolves := resolves_of_lookup h hp
  have hid := hresolves.subledger_id k sl hsl
  rintro q (_ | _)
  · rw [Present]
    exact ⟨p, hp, Finmap.mem_of_lookup_eq_some (hid ▸ hsl)⟩
  · rw [Present]
    exact ⟨p, hp, hresolves.ledger k sl hsl⟩

theorem named_account {k : Ledger.AccountID} {a : Ledger.Account}
    (ha : p.ledger.accounts.lookup k = some a) : Named s pid (.account (toAccountDTO a)) := by
  have hresolves := resolves_of_lookup h hp
  have hid := hresolves.account_id k a ha
  rintro q (_ | _)
  · rw [Present]
    exact ⟨p, hp, Finmap.mem_of_lookup_eq_some (hid ▸ ha)⟩
  · rw [Present]
    exact ⟨p, hp, hresolves.subledger k a ha⟩

theorem named_transaction {k : Ledger.TransactionID} {tx : Ledger.Transaction Amount}
    (htx : p.ledger.transactions.lookup k = some tx) :
    Named s pid (.transaction (toTransactionDTO tx)) := by
  have hwf := (h.banks _ p hp).chart.ledger
  have hid := hwf.transaction_id k tx htx
  rintro q (_ | _)
  case transaction =>
    rw [Present]
    exact ⟨p, hp, Finmap.mem_of_lookup_eq_some (hid ▸ htx)⟩
  case entry e he =>
    obtain ⟨entry, hentry, rfl⟩ := List.mem_map.mp he
    rw [Present]
    exact ⟨p, hp, hwf.accounts k tx htx entry hentry⟩
  case reversal hne =>
    cases hof : tx.reversalOf with
    | none =>
      rw [toTransactionDTO, hof] at hne
      exact absurd rfl hne
    | some r =>
      rw [toTransactionDTO, hof, Present]
      exact ⟨p, hp, hwf.reversal_target k tx r htx hof⟩

/-! ### The register of a bank -/

theorem named_depositAccount {k : Deposit.AccountID} {a : Deposit.Account Amount}
    (ha : p.deposit.accounts.lookup k = some a) :
    Named s pid (.depositAccount (toDepositAccountDTO a)) := by
  have hwf := (h.banks _ p hp).chart.deposit
  have hid := hwf.account_id k a ha
  obtain ⟨g, hg, -⟩ := hwf.gl k a ha
  rintro q (_ | _)
  · rw [Present]
    exact ⟨p, hp, Finmap.mem_of_lookup_eq_some (hid ▸ ha)⟩
  · rw [Present]
    exact ⟨p, hp, Finmap.mem_of_lookup_eq_some hg⟩

theorem indexed_of_lookup : p.deposit.Indexed := by
  obtain ⟨steps, hsteps⟩ := (h.banks _ p hp).reachable
  rw [hsteps]
  exact Register.indexed_reached steps

theorem named_hold {k : Deposit.HoldID} {hold : Deposit.Hold Amount}
    (hk : p.deposit.holds.lookup k = some hold) : Named s pid (.hold (toHoldDTO hold)) := by
  have hindexed := indexed_of_lookup h hp
  have hid := hindexed.hold_id k hold hk
  rintro q (_ | _)
  · rw [Present]
    exact ⟨p, hp, Finmap.mem_of_lookup_eq_some (hid ▸ hk)⟩
  · rw [Present]
    exact ⟨p, hp, hindexed.account k hold hk⟩

theorem named_snapshot {id : Deposit.AccountID} {d : Int} {snap : Deposit.Snapshot Amount}
    (hsnap : (p.deposit.byDate id).lookup d = some snap) :
    Named s pid (.snapshot (toSnapshotDTO snap)) := by
  obtain ⟨steps, hsteps⟩ := (h.banks _ p hp).reachable
  rw [hsteps] at hsnap
  obtain ⟨hmem, hid, -⟩ := Register.of_reached_byDate hsnap
  rintro q ⟨⟩
  rw [Present]
  refine ⟨p, hp, ?_⟩
  show (⟨snap.accountID.val⟩ : Deposit.AccountID) ∈ p.deposit.accounts
  rw [hsteps, hid]
  exact hmem

end Ledger

/-! ### The records of the network -/

omit [AddCommGroup Amount] [LinearOrder Amount] in
/-- A party is an account of a bank that is there. -/
theorem present_party {ref : Payment.PartyRef} (hparty : ∃ b a, s.Party ref b a) :
    Present s (.getDepositAccount ref.participant.val ref.account.val) := by
  obtain ⟨b, a, hb⟩ := hparty
  rw [Present]
  exact ⟨b, hb.bank, Finmap.mem_of_lookup_eq_some hb.account⟩

section Records

variable (h : s.Sound)
include h

theorem named_participant {k : ParticipantID} (hk : s.participants.lookup k = some p) :
    Named s pid (.participant (toParticipantDTO p)) := by
  obtain ⟨rfl⟩ := h.ids.participants.own k p hk
  obtain ⟨suspense, hsuspense, -⟩ := (h.banks _ p hk).chart.suspense
  obtain ⟨reserve, hreserve, -⟩ := (h.banks _ p hk).chart.reserve
  rintro q (_ | _)
  · exact Finmap.mem_of_lookup_eq_some hk
  · rw [Present]
    exact ⟨p, hk, Finmap.mem_of_lookup_eq_some hsuspense⟩
  · rw [Present]
    exact ⟨p, hk, Finmap.mem_of_lookup_eq_some hreserve⟩

theorem named_payment {k : Payment.PaymentID} {pay : Payment.Payment Amount}
    (hk : s.payments.lookup k = some pay) : Named s pid (.payment (toPaymentDTO pay)) := by
  obtain ⟨rfl⟩ := h.ids.payments.own k pay hk
  have hrefers := h.refers.payments _ pay hk
  rintro q (_ | _)
  · exact Finmap.mem_of_lookup_eq_some hk
  · exact present_party hrefers.debtor
  · exact present_party hrefers.creditor
  · exact hrefers.cycle
  · obtain ⟨b, a, txID, tx, hparty, hleg, htx, -⟩ := hrefers.leg
    rw [toPaymentDTO, hleg, Present]
    exact ⟨b, hparty.bank, Finmap.mem_of_lookup_eq_some htx⟩

theorem named_mandate {k : Payment.MandateID} {m : Payment.Mandate Amount}
    (hk : s.mandates.lookup k = some m) : Named s pid (.mandate (toMandateDTO m)) := by
  obtain ⟨rfl⟩ := h.ids.mandates.own k m hk
  have hrefers := h.refers.mandates _ m hk
  rintro q (_ | _)
  · exact Finmap.mem_of_lookup_eq_some hk
  · exact present_party hrefers.debtor
  · exact present_party hrefers.creditor

theorem named_cycle {k : Payment.CycleID} {c : Payment.ClearingCycle Amount}
    (hk : s.cycles.lookup k = some c) : Named s pid (.clearingCycle (toClearingCycleDTO c)) := by
  obtain ⟨rfl⟩ := h.ids.cycles.own k c hk
  have hrefers := h.refers.cycles _ c hk
  rintro q (_ | _)
  case clearingCycle => exact Finmap.mem_of_lookup_eq_some hk
  case cyclePayment payid hpayid =>
    obtain ⟨id, hid, rfl⟩ := List.mem_map.mp hpayid
    exact hrefers.payments id hid
  case cyclePosition i hi => exact hrefers.positions i hi

theorem named_settlement {k : Payment.SettlementID} {st : Payment.Settlement Amount}
    (hk : s.settlements.lookup k = some st) :
    Named s pid (.settlement (toSettlementDTO st)) := by
  obtain ⟨rfl⟩ := h.ids.settlements.own k st hk
  have hrefers := h.refers.settlements _ st hk
  rintro q (_ | _)
  case settlement => exact Finmap.mem_of_lookup_eq_some hk
  case settlementCycle => exact hrefers.cycle
  case settlementPosition i hi => exact hrefers.positions i hi

end Records

/-! ## Looks -/

section Looks

variable {x : Except Payment.Err α} {r : Response Amount}

omit [AddCommGroup Amount] [LinearOrder Amount] in
/-- A look at one entity. -/
theorem named_one {g : α → DTO Amount} (hr : some (see x fun a => ok (g a)) = some (.ok r))
    (hg : ∀ a, x = .ok a → Named s pid (g a)) : ∀ d ∈ r.entities, Named s pid d := by
  obtain ⟨a, ha, rfl⟩ := see_eq_ok.mp (Option.some.inj hr)
  intro d hd
  rw [List.mem_singleton.mp hd]
  exact hg a ha

omit [AddCommGroup Amount] [LinearOrder Amount] in
/-- A look at a list of entities. -/
theorem named_list {y : Except Payment.Err (List α)} {g : α → DTO Amount}
    (hr : some (see y fun as => listOK (as.map g)) = some (.ok r))
    (hg : ∀ as, y = .ok as → ∀ a ∈ as, Named s pid (g a)) :
    ∀ d ∈ r.entities, Named s pid d := by
  obtain ⟨as, has, rfl⟩ := see_eq_ok.mp (Option.some.inj hr)
  intro d hd
  obtain ⟨a, ha, rfl⟩ := List.mem_map.mp hd
  exact hg as has a ha

omit [AddCommGroup Amount] [LinearOrder Amount] in
theorem mem_of_mapM {y : α → Except Payment.Err β} {as : List α} {bs : List β}
    (h : as.mapM y = .ok bs) : ∀ b ∈ bs, ∃ a ∈ as, y a = .ok b := by
  induction as generalizing bs with
  | nil =>
    cases h
    exact fun b hb => absurd hb List.not_mem_nil
  | cons a as ih =>
    rw [List.mapM_cons] at h
    obtain ⟨b, hb, h⟩ := Call.except_bind_eq_ok.mp h
    obtain ⟨bs', hbs, h⟩ := Call.except_bind_eq_ok.mp h
    cases h
    intro b' hb'
    rcases List.mem_cons.mp hb' with rfl | hb'
    · exact ⟨a, List.mem_cons_self, hb⟩
    · obtain ⟨a', ha', hy⟩ := ih hbs b' hb'
      exact ⟨a', List.mem_cons_of_mem a ha', hy⟩

omit [LinearOrder Amount] in
/-- The bank of a reserve is there. -/
theorem named_reserve {k : ParticipantID} {bal : Amount} (hbal : s.reserveBalance k = .ok bal) :
    Named s pid (.reserve ⟨k.val, bal⟩) := by
  obtain ⟨p, hp, -⟩ := Call.except_bind_eq_ok.mp hbal
  rintro q ⟨⟩
  exact mem_of_find hp

omit [AddCommGroup Amount] [LinearOrder Amount] in
/-- What an event names is not kept track of. -/
theorem named_events {l : List α} {f : α → AuditEventDTO} :
    ∀ a ∈ l, Named s pid (.auditEvent (f a)) := by
  rintro a - q ⟨⟩

omit [AddCommGroup Amount] [LinearOrder Amount] in
theorem lookup_of_getSnapshot {r : Register Amount} {id : Deposit.AccountID} {date : Time}
    {snap : Deposit.Snapshot Amount} (h : r.getSnapshot id date = .ok snap) :
    (r.byDate id).lookup date.dateKey = some snap := by
  rw [Register.getSnapshot] at h
  split at h
  · cases h
  · split at h
    · rename_i hsnap
      cases h
      obtain ⟨m, hm, hsnap⟩ := Option.bind_eq_some_iff.mp hsnap
      rw [Register.byDate, hm]
      exact hsnap
    · cases h

theorem named_snapshots (h : s.Sound) {c : Choices Amount} {pid did date : String}
    {r : Response Amount} (hr : viewSnapshots c s pid did date = .ok r) :
    ∀ d ∈ r.entities, Named s pid d := by
  rw [viewSnapshots] at hr
  split at hr
  · obtain ⟨p, -, hr⟩ := Call.except_bind_eq_ok.mp hr
    obtain ⟨day, -, hr⟩ := Call.except_bind_eq_ok.mp hr
    refine named_one (congrArg some hr) fun snap hsnap => ?_
    obtain ⟨p, hp, hf⟩ := atDeposit_eq_ok.mp hsnap
    exact named_snapshot h hp (lookup_of_getSnapshot hf)
  · refine named_list (congrArg some hr) fun snaps hsnaps snap hsnap => ?_
    obtain ⟨p, hp, hf⟩ := atDeposit_eq_ok.mp hsnaps
    cases hf
    obtain ⟨⟨k, hk⟩, -⟩ := mem_listed.mp hsnap
    exact named_snapshot h hp hk

end Looks

/-- **What the answer to a GET names is there.** -/
theorem named_of_view (h : s.Sound) {req : Request Amount} {c : Choices Amount} {now : Time}
    {r : Response Amount} (hr : view c now s req = some (.ok r)) :
    ∀ d ∈ r.entities, Named s req.bank d := by
  cases req with
  | listParticipants =>
    refine named_list hr fun parts hparts p hp => ?_
    cases hparts
    obtain ⟨⟨k, hk⟩, -⟩ := mem_listed.mp hp
    exact named_participant h hk
  | getParticipant pid =>
    exact named_one hr fun p hp => named_participant h (Finmap.find_eq_ok.mp hp)
  | listSchemes =>
    refine named_list hr fun _ _ sc _ => ?_
    rintro q ⟨⟩
  | listReserves =>
    obtain ⟨ds, hds, rfl⟩ := see_eq_ok.mp (Option.some.inj hr)
    intro d hd
    obtain ⟨p, -, hp⟩ := mem_of_mapM hds d hd
    cases hbal : s.reserveBalance p.id with
    | error e =>
      rw [hbal] at hp
      cases hp
    | ok bal =>
      rw [hbal] at hp
      cases hp
      exact named_reserve hbal
  | getReserve pid => exact named_one hr fun bal hbal => named_reserve hbal
  | centralBankAudit => exact named_list hr fun _ _ => named_events
  | listLedgers pid =>
    refine named_list hr fun ls hls l hl => ?_
    obtain ⟨p, hp, hf⟩ := atLedger_eq_ok.mp hls
    cases hf
    obtain ⟨⟨k, hk⟩, -⟩ := mem_listed.mp hl
    exact named_ledger h hp hk
  | getLedger pid lid =>
    refine named_one hr fun l hl => ?_
    obtain ⟨p, hp, hf⟩ := atLedger_eq_ok.mp hl
    exact named_ledger h hp (Finmap.find_eq_ok.mp hf)
  | listSubledgers pid lid =>
    refine named_list hr fun ls hls l hl => ?_
    obtain ⟨p, hp, hf⟩ := atLedger_eq_ok.mp hls
    cases hf
    obtain ⟨⟨k, hk⟩, -⟩ := mem_listed.mp hl
    exact named_subledger h hp hk
  | getSubledger pid sid =>
    refine named_one hr fun l hl => ?_
    obtain ⟨p, hp, hf⟩ := atLedger_eq_ok.mp hl
    exact named_subledger h hp (Finmap.find_eq_ok.mp hf)
  | listAccounts pid sid =>
    refine named_list hr fun ls hls l hl => ?_
    obtain ⟨p, hp, hf⟩ := atLedger_eq_ok.mp hls
    cases hf
    obtain ⟨⟨k, hk⟩, -⟩ := mem_listed.mp hl
    exact named_account h hp hk
  | getAccount pid aid =>
    refine named_one hr fun l hl => ?_
    obtain ⟨p, hp, hf⟩ := atLedger_eq_ok.mp hl
    exact named_account h hp (Finmap.find_eq_ok.mp hf)
  | bookBalance pid aid =>
    refine named_one hr fun bal hbal => ?_
    obtain ⟨p, hp, hf⟩ := atLedger_eq_ok.mp hbal
    rintro q ⟨⟩
    rw [Present]
    exact ⟨p, hp, mem_of_bookBalance hf⟩
  | listTransactions pid account =>
    refine named_list hr fun txs htxs tx htx => ?_
    obtain ⟨p, hp, hf⟩ := atLedger_eq_ok.mp htxs
    have hstored : ∃ k, p.ledger.transactions.lookup k = some tx := by
      split at hf <;> cases hf
      · exact (mem_listed.mp htx).1
      · exact (mem_listed.mp htx).1
    obtain ⟨k, hk⟩ := hstored
    exact named_transaction h hp hk
  | getTransaction pid tid =>
    refine named_one hr fun tx htx => ?_
    obtain ⟨p, hp, hf⟩ := atLedger_eq_ok.mp htx
    exact named_transaction h hp (Finmap.find_eq_ok.mp hf)
  | ledgerAudit pid entity => exact named_list hr fun _ _ => named_events
  | listDepositAccounts pid =>
    refine named_list hr fun accts haccts a ha => ?_
    obtain ⟨p, hp, hf⟩ := atDeposit_eq_ok.mp haccts
    cases hf
    obtain ⟨⟨k, hk⟩, -⟩ := mem_listed.mp ha
    exact named_depositAccount h hp hk
  | getDepositAccount pid did =>
    refine named_one hr fun a ha => ?_
    obtain ⟨p, hp, hf⟩ := atDeposit_eq_ok.mp ha
    exact named_depositAccount h hp (lookup_of_getAccount hf)
  | depositBalance pid did =>
    refine named_one hr fun bal _ => ?_
    rintro q ⟨⟩
  | listHolds pid did =>
    refine named_list hr fun holds hholds hold hhold => ?_
    obtain ⟨p, hp, hf⟩ := atDeposit_eq_ok.mp hholds
    cases hf
    have hmem := (c.holds.perm _ _).mem_iff.mp hhold
    exact named_hold h hp (((indexed_of_lookup h hp).mem_collectHolds ⟨did⟩ hold).mp hmem).1
  | getHold pid hid =>
    refine named_one hr fun hold hhold => ?_
    obtain ⟨p, hp, hf⟩ := atDeposit_eq_ok.mp hhold
    exact named_hold h hp (Finmap.find_eq_ok.mp hf)
  | getSnapshots pid did date => exact named_snapshots h (Option.some.inj hr)
  | depositAudit pid => exact named_list hr fun _ _ => named_events
  | listMandates =>
    refine named_list hr fun ms hms m hm => ?_
    cases hms
    obtain ⟨⟨k, hk⟩, -⟩ := mem_listed.mp hm
    exact named_mandate h hk
  | getMandate mid =>
    exact named_one hr fun m hm => named_mandate h (Finmap.find_eq_ok.mp hm)
  | listPayments =>
    refine named_list hr fun ps hps p hp => ?_
    cases hps
    obtain ⟨⟨k, hk⟩, -⟩ := mem_listed.mp hp
    exact named_payment h hk
  | getPayment payid =>
    exact named_one hr fun p hp => named_payment h (Finmap.find_eq_ok.mp hp)
  | listCycles =>
    refine named_list hr fun cs hcs cy hcy => ?_
    cases hcs
    obtain ⟨⟨k, hk⟩, -⟩ := mem_listed.mp hcy
    exact named_cycle h hk
  | getCycle cid =>
    exact named_one hr fun cy hcy => named_cycle h (Finmap.find_eq_ok.mp hcy)
  | listSettlements =>
    refine named_list hr fun sts hsts st hst => ?_
    cases hsts
    obtain ⟨⟨k, hk⟩, -⟩ := mem_listed.mp hst
    exact named_settlement h hk
  | getSettlement sid =>
    exact named_one hr fun st hst => named_settlement h (Finmap.find_eq_ok.mp hst)
  | _ => cases hr

end Stored

end CoreBanking.Api
