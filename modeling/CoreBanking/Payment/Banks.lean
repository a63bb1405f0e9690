import CoreBanking.Deposit.Invariant
import CoreBanking.Ledger.TrialBalance
import CoreBanking.Payment.Network

/-!
# The banks of a network

`Participant.WF` is the invariant of one bank: its register is well formed, its
suspense account is a Liability and its reserve account the only Asset of its
ledger, and every account of the ledger has its role. `Network.Banks` adds the
central bank, where each bank has a Liability account of its own and the
settlement assets are the only other account.

Postings, reversals and deposit operations keep both (`Banks.posted`,
`Banks.cbPosted`, `Banks.reversed`, `Banks.setDeposit`).
-/

namespace CoreBanking.Payment

open Ledger (Book newBook PostTransactionRequest Transaction transfer)
open Deposit (Register)

section Updates

variable {Amount : Type}

/-- The bank with another state of its deposit layer. -/
def Participant.withDeposit (p : Participant Amount) (r : Register Amount) :
    Participant Amount :=
  { p with deposit := r }

/-- What an account in the ledger of a bank is for. -/
inductive Role where
  | customer (id : Deposit.AccountID)
  | suspense
  | reserve
deriving DecidableEq

/-- The ledger account of a bank for a role. -/
def Participant.accountOf (p : Participant Amount) : Role → Option Ledger.AccountID
  | .customer id => (p.deposit.accounts.lookup id).map (·.glAccount)
  | .suspense => some p.suspenseAccount
  | .reserve => some p.reserveAccount

theorem Participant.accountOf_customer {p : Participant Amount} {id : Deposit.AccountID}
    {acct : Deposit.Account Amount} (h : p.deposit.accounts.lookup id = some acct) :
    p.accountOf (.customer id) = some acct.glAccount :=
  Option.map_eq_some_iff.mpr ⟨acct, h, rfl⟩

/-- A customer account behind a party: the bank, and the deposit account. -/
structure Network.Party (s : Network Amount) (ref : PartyRef)
    (p : Participant Amount) (acct : Deposit.Account Amount) : Prop where
  bank : s.participants.lookup ref.participant = some p
  account : p.deposit.accounts.lookup ref.account = some acct

end Updates

variable {Amount : Type} [AddCommGroup Amount] [LinearOrder Amount]

namespace Participant

/-! ## One bank -/

/-- The invariant of a bank. -/
structure WF (p : Participant Amount) : Prop where
  deposit : p.deposit.WF
  declared : p.ledger.Declared
  suspense : ∃ acct, p.ledger.accounts.lookup p.suspenseAccount = some acct ∧
    acct.type = .liability
  reserve : ∃ acct, p.ledger.accounts.lookup p.reserveAccount = some acct ∧
    acct.type = .asset
  types : ∀ a acct, p.ledger.accounts.lookup a = some acct →
    acct.type = .liability ∨ (acct.type = .asset ∧ a = p.reserveAccount)
  gl_ne_suspense : ∀ id a, p.deposit.accounts.lookup id = some a →
    a.glAccount ≠ p.suspenseAccount
  roles : ∀ a ∈ p.ledger.accounts, ∃ role, p.accountOf role = some a

/-- The part of the invariant that other accounts in the ledger of the bank leave alone. -/
structure Chart (p : Participant Amount) : Prop where
  deposit : p.deposit.WF
  suspense : ∃ acct, p.ledger.accounts.lookup p.suspenseAccount = some acct ∧
    acct.type = .liability
  reserve : ∃ acct, p.ledger.accounts.lookup p.reserveAccount = some acct ∧
    acct.type = .asset
  gl_ne_suspense : ∀ id a, p.deposit.accounts.lookup id = some a →
    a.glAccount ≠ p.suspenseAccount

namespace Chart

variable {p : Participant Amount}

theorem ledger (h : p.Chart) : p.ledger.WF := h.deposit.book

theorem suspense_ne_reserve (h : p.Chart) : p.suspenseAccount ≠ p.reserveAccount := by
  obtain ⟨acct, hacct, htype⟩ := h.suspense
  obtain ⟨acct', hacct', htype'⟩ := h.reserve
  intro heq
  rw [heq, hacct'] at hacct
  cases hacct
  rw [htype] at htype'
  cases htype'

theorem gl_ne_reserve (h : p.Chart) {id : Deposit.AccountID}
    {a : Deposit.Account Amount} (ha : p.deposit.accounts.lookup id = some a) :
    a.glAccount ≠ p.reserveAccount := by
  obtain ⟨g, hg, htype⟩ := h.deposit.gl id a ha
  obtain ⟨acct, hacct, htype'⟩ := h.reserve
  intro heq
  have hsome : p.ledger.accounts.lookup a.glAccount = some g := hg
  rw [heq, hacct] at hsome
  cases hsome
  rw [htype] at htype'
  cases htype'

/-- The two layers may grow. -/
theorem withDeposit (h : p.Chart) {r : Register Amount} (hr : r.WF)
    (haccts : ∀ a acct, p.ledger.accounts.lookup a = some acct →
      r.book.accounts.lookup a = some acct)
    (hnew : ∀ id a', r.accounts.lookup id = some a' →
      (∃ a, p.deposit.accounts.lookup id = some a ∧ a'.glAccount = a.glAccount) ∨
        p.ledger.accounts.lookup a'.glAccount = none) : (p.withDeposit r).Chart where
  deposit := hr
  suspense := by
    obtain ⟨acct, hacct, htype⟩ := h.suspense
    exact ⟨acct, haccts _ acct hacct, htype⟩
  reserve := by
    obtain ⟨acct, hacct, htype⟩ := h.reserve
    exact ⟨acct, haccts _ acct hacct, htype⟩
  gl_ne_suspense id a ha heq := by
    rcases hnew id a ha with ⟨a₀, ha₀, hgl⟩ | hnone
    · exact h.gl_ne_suspense id a₀ ha₀ (hgl ▸ heq)
    · obtain ⟨acct, hacct, -⟩ := h.suspense
      have hsome : a.glAccount = p.suspenseAccount := heq
      rw [hsome, hacct] at hnone
      cases hnone

theorem grow (h : p.Chart) {r : Register Amount} (hr : r.WF) (hg : p.deposit.Grows r) :
    (p.withDeposit r).Chart := by
  refine h.withDeposit hr hg.glAccounts fun id a' ha => ?_
  rcases hg.new id a' ha with ⟨a, ha₀, hgl, -⟩ | hnew
  · exact .inl ⟨a, ha₀, hgl⟩
  · exact .inr hnew

/-- The ledger may be replaced by one that has its accounts. -/
theorem withLedger (h : p.Chart) {b : Book Amount} (hb : b.WF)
    (haccts : ∀ a acct, p.ledger.accounts.lookup a = some acct →
      b.accounts.lookup a = some acct) : (p.withLedger b).Chart :=
  h.withDeposit (h.deposit.withBook hb haccts) haccts fun _ a ha => .inl ⟨a, ha, rfl⟩

end Chart

namespace WF

variable {p : Participant Amount}

theorem ledger (h : p.WF) : p.ledger.WF := h.deposit.book

theorem suspense_mem (h : p.WF) : p.suspenseAccount ∈ p.ledger.accounts := by
  obtain ⟨acct, hacct, -⟩ := h.suspense
  exact Finmap.mem_of_lookup_eq_some hacct

theorem reserve_mem (h : p.WF) : p.reserveAccount ∈ p.ledger.accounts := by
  obtain ⟨acct, hacct, -⟩ := h.reserve
  exact Finmap.mem_of_lookup_eq_some hacct

theorem chart (h : p.WF) : p.Chart :=
  ⟨h.deposit, h.suspense, h.reserve, h.gl_ne_suspense⟩

/-- The deposit layer may grow. -/
theorem withDeposit (h : p.WF) {r : Register Amount} (hr : r.WF)
    (hdeclared : r.book.Declared) (hg : p.deposit.Grows r) : (p.withDeposit r).WF where
  deposit := hr
  declared := hdeclared
  suspense := (h.chart.grow hr hg).suspense
  reserve := (h.chart.grow hr hg).reserve
  types a acct ha := by
    rcases hg.glNew a acct ha with hold | ⟨htype, -⟩
    · exact h.types a acct hold
    · exact .inl htype
  gl_ne_suspense := (h.chart.grow hr hg).gl_ne_suspense
  roles a ha := by
    obtain ⟨acct, hacct⟩ := Finmap.mem_iff.mp ha
    rcases hg.glNew a acct hacct with hold | ⟨-, id, d, hd, rfl⟩
    · obtain ⟨role, hrole⟩ := h.roles a (Finmap.mem_of_lookup_eq_some hold)
      refine ⟨role, ?_⟩
      cases role with
      | customer id =>
        obtain ⟨d, hd, rfl⟩ := Option.map_eq_some_iff.mp hrole
        obtain ⟨d', hd', hgl, -⟩ := hg.accounts id d hd
        exact Option.map_eq_some_iff.mpr ⟨d', hd', hgl⟩
      | suspense => exact hrole
      | reserve => exact hrole
    · exact ⟨.customer id, Participant.accountOf_customer hd⟩

/-- A transfer out of the reserve credits it, and the reserve is an Asset. -/
theorem reserve_effect (h : p.WF) {debit : Ledger.AccountID}
    (hne : debit ≠ p.reserveAccount) {acct : Ledger.Account}
    (hacct : p.ledger.accounts.lookup p.reserveAccount = some acct) (amount : Amount) :
    Ledger.effect acct.type.normalBalance p.reserveAccount
      (transfer debit p.reserveAccount amount) = -amount := by
  obtain ⟨acct', hacct', htype⟩ := h.reserve
  cases hacct.symm.trans hacct'
  rw [htype]
  show Ledger.effect .debit _ _ = _
  rw [Ledger.effect_transfer_debit, if_neg (Ne.symm hne), if_pos rfl, zero_sub]

/-- A transfer out of the reserve passes the balance check unless the reserve is
short: no other account of the bank is subject to the check. -/
theorem sufficient_of_reserve (h : p.WF) {debit : Ledger.AccountID} {amount : Amount}
    (hne : debit ≠ p.reserveAccount)
    (hcovered : ¬p.ledger.balance p.reserveAccount - amount < 0) :
    p.ledger.Sufficient (transfer debit p.reserveAccount amount) := by
  intro a acct hacct hkind _
  rcases h.types a acct hacct with hliability | ⟨-, rfl⟩
  · rw [hliability] at hkind
    rcases hkind with hkind | hkind <;> cases hkind
  · rw [h.reserve_effect hne hacct, ← sub_eq_add_neg, ← Book.balance_of_lookup hacct]
    exact hcovered

theorem sufficient_iff [IsOrderedAddMonoid Amount] (h : p.WF)
    {debit : Ledger.AccountID} {amount : Amount} (hpos : 0 < amount)
    (hne : debit ≠ p.reserveAccount) :
    p.ledger.Sufficient (transfer debit p.reserveAccount amount)
      ↔ amount ≤ p.ledger.balance p.reserveAccount := by
  rw [← sub_nonneg, ← not_lt]
  constructor
  · intro hsuff
    obtain ⟨acct, hacct, htype⟩ := h.reserve
    have hcovered := hsuff p.reserveAccount acct hacct (.inl htype)
    rw [h.reserve_effect hne hacct, ← sub_eq_add_neg,
      ← Book.balance_of_lookup hacct] at hcovered
    exact hcovered (neg_lt_zero.mpr hpos)
  · exact h.sufficient_of_reserve hne

end WF

end Participant

variable (Amount) in
/-- The books of a new bank. -/
theorem bankChart_eq (now : Time) (name : String) :
    ∃ customers suspense reserve bank,
      bankChart now name (newBook Amount)
        = .ok (customers, suspense, reserve) bank ∧
      bank.WF ∧ bank.transactions = ∅ ∧ bank.idempotencyIndex = ∅ ∧
      (∃ acct, bank.accounts.lookup suspense = some acct ∧ acct.type = .liability) ∧
      (∃ acct, bank.accounts.lookup reserve = some acct ∧ acct.type = .asset) ∧
      ∀ a acct, bank.accounts.lookup a = some acct →
        (acct.type = .liability ∧ a = suspense) ∨
          (acct.type = .asset ∧ a = reserve) := by
  -- one book after each of the five calls
  let b₀ := newBook Amount
  let gl := b₀.newLedger now (name ++ " GL")
  let b₁ := b₀.addLedger now gl
  let customers := b₁.newSubledger now gl.id "Customer Deposits"
  let b₂ := b₁.addSubledger now customers
  let interbank := b₂.newSubledger now gl.id "Interbank"
  let b₃ := b₂.addSubledger now interbank
  let suspense := b₃.newAccount now interbank.id "Clearing Suspense" .liability
  let b₄ := b₃.addAccount now suspense
  let reserve := b₄.newAccount now interbank.id "Reserve at Central Bank" .asset
  let b₅ := b₄.addAccount now reserve
  have h₁ : Book.createLedger now (name ++ " GL") b₀ = .ok gl b₁ := rfl
  have h₂ : Book.createSubledger now gl.id "Customer Deposits" b₁
      = .ok customers b₂ := by
    rw [Book.createSubledger_eq, show b₁.ledgers.lookup gl.id = some gl from
      Finmap.lookup_insert _]
  have h₃ : Book.createSubledger now gl.id "Interbank" b₂ = .ok interbank b₃ := by
    rw [Book.createSubledger_eq, show b₂.ledgers.lookup gl.id = some gl from
      Finmap.lookup_insert _]
  have h₄ : Book.createAccount now interbank.id "Clearing Suspense" .liability b₃
      = .ok suspense b₄ := by
    rw [Book.createAccount_eq, show b₃.subledgers.lookup interbank.id
      = some interbank from Finmap.lookup_insert _]
  have h₅ : Book.createAccount now interbank.id "Reserve at Central Bank" .asset b₄
      = .ok reserve b₅ := by
    rw [Book.createAccount_eq, show b₄.subledgers.lookup interbank.id
      = some interbank from Finmap.lookup_insert _]
  have hwf₄ : b₄.WF := ((((Book.wf_newBook.addLedger ..).addSubledger ..).addSubledger
    ..).addAccount ..)
  have hne : reserve.id ≠ suspense.id := by
    intro heq
    have hfresh := hwf₄.accountIDs.fresh (fun _ _ => Ledger.AccountID.mk.inj)
      (Nat.lt_succ_self b₄.idCounter)
    have hmem : b₄.accounts.lookup suspense.id = some suspense :=
      Finmap.lookup_insert _
    rw [← heq, show reserve.id = ⟨ident "acct" (b₄.idCounter + 1)⟩ from rfl,
      hfresh] at hmem
    cases hmem
  refine ⟨customers.id, suspense.id, reserve.id, b₅, ?_, hwf₄.addAccount .., rfl,
    rfl, ⟨suspense, ?_, rfl⟩, ⟨reserve, Finmap.lookup_insert _, rfl⟩, ?_⟩
  · rw [bankChart, Call.bind_of_ok h₁, Call.bind_of_ok h₂, Call.bind_of_ok h₃,
      Call.bind_of_ok h₄, Call.bind_of_ok h₅]
    rfl
  · exact (Finmap.lookup_insert_of_ne _ (Ne.symm hne)).trans (Finmap.lookup_insert _)
  · intro a acct ha
    rcases Finmap.lookup_insert_eq_some.mp ha with ⟨rfl, rfl⟩ | ⟨-, ha⟩
    · exact .inr ⟨rfl, rfl⟩
    · rcases Finmap.lookup_insert_eq_some.mp ha with ⟨rfl, rfl⟩ | ⟨-, ha⟩
      · exact .inl ⟨rfl, rfl⟩
      · exact absurd ha (by simp [b₃, b₂, b₁, b₀, Book.addSubledger, Book.addLedger,
          newBook])

namespace Network

/-! ## All banks -/

/-- The banks of a network and the central bank. -/
structure Banks (s : Network Amount) : Prop where
  ids : KeysUpTo ParticipantID.mk "bank" s.idCounter s.participants
  bank : ∀ i p, s.participants.lookup i = some p → p.WF
  centralBank : s.centralBank.WF
  cbDeclared : s.centralBank.Declared
  reserves : s.cbReserveSubledger ∈ s.centralBank.subledgers
  assets : ∃ acct, s.centralBank.accounts.lookup s.cbAssets = some acct ∧
    acct.type = .asset
  settlement : ∀ i p, s.participants.lookup i = some p →
    ∃ acct, s.centralBank.accounts.lookup p.settlementAccount = some acct ∧
      acct.type = .liability
  settlement_unique : ∀ i j p q, s.participants.lookup i = some p →
    s.participants.lookup j = some q →
    p.settlementAccount = q.settlementAccount → i = j
  cbAccounts : ∀ a acct, s.centralBank.accounts.lookup a = some acct →
    a = s.cbAssets ∨
      ∃ i p, s.participants.lookup i = some p ∧ p.settlementAccount = a

namespace Banks

variable {s : Network Amount}

theorem settlement_mem (h : s.Banks) {i : ParticipantID} {p : Participant Amount}
    (hp : s.participants.lookup i = some p) :
    p.settlementAccount ∈ s.centralBank.accounts := by
  obtain ⟨acct, hacct, -⟩ := h.settlement i p hp
  exact Finmap.mem_of_lookup_eq_some hacct

theorem assets_mem (h : s.Banks) : s.cbAssets ∈ s.centralBank.accounts := by
  obtain ⟨acct, hacct, -⟩ := h.assets
  exact Finmap.mem_of_lookup_eq_some hacct

theorem settlement_ne_assets (h : s.Banks) {i : ParticipantID}
    {p : Participant Amount} (hp : s.participants.lookup i = some p) :
    p.settlementAccount ≠ s.cbAssets := by
  obtain ⟨acct, hacct, htype⟩ := h.settlement i p hp
  obtain ⟨acct', hacct', htype'⟩ := h.assets
  intro heq
  rw [heq, hacct'] at hacct
  cases hacct
  rw [htype] at htype'
  cases htype'

/-- Only the banks, the central bank and a counter that does not go back are
part of the invariant. -/
theorem congr {s' : Network Amount} (h : s.Banks)
    (hparts : s'.participants = s.participants)
    (hcb : s'.centralBank = s.centralBank)
    (hsub : s'.cbReserveSubledger = s.cbReserveSubledger)
    (hassets : s'.cbAssets = s.cbAssets) (hle : s.idCounter ≤ s'.idCounter) :
    s'.Banks where
  ids := hparts ▸ h.ids.mono hle
  bank := hparts ▸ h.bank
  centralBank := hcb ▸ h.centralBank
  cbDeclared := hcb ▸ h.cbDeclared
  reserves := hcb ▸ hsub ▸ h.reserves
  assets := hcb ▸ hassets ▸ h.assets
  settlement := hcb ▸ hparts ▸ h.settlement
  settlement_unique := hparts ▸ h.settlement_unique
  cbAccounts := hcb ▸ hassets ▸ hparts ▸ h.cbAccounts

/-- The deposit layer of a bank may grow. -/
theorem setDeposit (h : s.Banks) {i : ParticipantID} {p : Participant Amount}
    (hp : s.participants.lookup i = some p) {r : Register Amount} (hr : r.WF)
    (hdeclared : r.book.Declared) (hg : p.deposit.Grows r) :
    (s.setParticipant i (p.withDeposit r)).Banks := by
  have hlook : ∀ {j q}, (s.participants.insert i (p.withDeposit r)).lookup j = some q →
      ∃ q₀, s.participants.lookup j = some q₀ ∧
        q.settlementAccount = q₀.settlementAccount := by
    intro j q hq
    rcases Finmap.lookup_insert_eq_some.mp hq with ⟨rfl, rfl⟩ | ⟨-, hq⟩
    · exact ⟨p, hp, rfl⟩
    · exact ⟨q, hq, rfl⟩
  refine
    { ids := h.ids.update (Finmap.mem_of_lookup_eq_some hp) _
      bank := ?_
      centralBank := h.centralBank
      cbDeclared := h.cbDeclared
      reserves := h.reserves
      assets := h.assets
      settlement := ?_, settlement_unique := ?_, cbAccounts := ?_ }
  · -- bank
    have hbank := (h.bank _ p hp).withDeposit hr hdeclared hg
    exact Finmap.forall_lookup_insert h.bank hbank
  · -- settlement: a bank keeps its reserve account at the central bank
    intro j q hq
    obtain ⟨q₀, hq₀, heq⟩ := hlook hq
    rw [heq]
    exact h.settlement j q₀ hq₀
  · -- settlement_unique
    intro j k q q' hq hq' heq
    obtain ⟨q₀, hq₀, hs⟩ := hlook hq
    obtain ⟨q₁, hq₁, hs'⟩ := hlook hq'
    exact h.settlement_unique j k q₀ q₁ hq₀ hq₁ (by rw [← hs, ← hs', heq])
  · -- cbAccounts
    intro a acct ha
    rcases h.cbAccounts a acct ha with rfl | ⟨j, q, hq, rfl⟩
    · exact .inl rfl
    · refine .inr ?_
      by_cases hj : j = i
      · subst hj
        cases hp.symm.trans hq
        exact ⟨j, p.withDeposit r, Finmap.lookup_insert _, rfl⟩
      · exact ⟨j, q, (Finmap.lookup_insert_of_ne _ hj).trans hq, rfl⟩

/-- The ledger of a bank may be replaced by one with the same accounts. -/
theorem setLedger (h : s.Banks) {i : ParticipantID} {p : Participant Amount}
    (hp : s.participants.lookup i = some p) {b : Book Amount} (hb : b.WF)
    (hdeclared : b.Declared) (haccts : b.accounts = p.ledger.accounts) :
    (s.setParticipant i (p.withLedger b)).Banks := by
  have hwf := (h.bank i p hp).deposit
  refine h.setDeposit hp (hwf.withBook hb ?_) hdeclared (.of_eq haccts rfl)
  intro a acct ha
  rw [haccts]
  exact ha

/-- The ledger of the central bank may be replaced by one with the same
accounts and subledgers. -/
theorem setCentralBank (h : s.Banks) {b : Book Amount} (hb : b.WF)
    (hdeclared : b.Declared) (haccts : b.accounts = s.centralBank.accounts)
    (hsubs : b.subledgers = s.centralBank.subledgers) :
    (s.setCentralBank b).Banks where
  ids := h.ids
  bank := h.bank
  centralBank := hb
  cbDeclared := hdeclared
  reserves := by
    show s.cbReserveSubledger ∈ b.subledgers
    rw [hsubs]
    exact h.reserves
  assets := by
    show ∃ acct, b.accounts.lookup s.cbAssets = some acct ∧ _
    rw [haccts]
    exact h.assets
  settlement i p hp := by
    show ∃ acct, b.accounts.lookup p.settlementAccount = some acct ∧ _
    rw [haccts]
    exact h.settlement i p hp
  settlement_unique := h.settlement_unique
  cbAccounts a acct ha := h.cbAccounts a acct (haccts ▸ ha)

end Banks

/-! ## Postings -/

omit [LinearOrder Amount] [AddCommGroup Amount] in
/-- The network after an accepted posting in the ledger of bank `i`. -/
def posted (s : Network Amount) (now : Time) (i : ParticipantID)
    (p : Participant Amount) (req : PostTransactionRequest Amount) :
    Network Amount :=
  s.setParticipant i
    (p.withLedger (p.ledger.record now (p.ledger.newTransaction now req)))

omit [LinearOrder Amount] [AddCommGroup Amount] in
/-- The network after an accepted posting at the central bank. -/
def cbPosted (s : Network Amount) (now : Time)
    (req : PostTransactionRequest Amount) : Network Amount :=
  s.setCentralBank
    (s.centralBank.record now (s.centralBank.newTransaction now req))

theorem Banks.posted {s : Network Amount} (h : s.Banks) {now : Time}
    {i : ParticipantID} {p : Participant Amount}
    (hp : s.participants.lookup i = some p)
    {req : PostTransactionRequest Amount} (hacc : p.ledger.Accepts req)
    (hdeclared : ∀ e ∈ req.entries, e.direction.Declared) :
    (s.posted now i p req).Banks := by
  have hb := h.bank i p hp
  exact h.setLedger hp (hb.ledger.record hacc) (hb.declared.record hb.ledger now hdeclared) rfl

theorem Banks.cbPosted {s : Network Amount} (h : s.Banks) {now : Time}
    {req : PostTransactionRequest Amount} (hacc : s.centralBank.Accepts req)
    (hdeclared : ∀ e ∈ req.entries, e.direction.Declared) :
    (s.cbPosted now req).Banks :=
  h.setCentralBank (h.centralBank.record hacc) (h.cbDeclared.record h.centralBank now hdeclared)
    rfl rfl

section OnBank

variable {α : Type} {s : Network Amount} {i : ParticipantID} {p : Participant Amount}

omit [AddCommGroup Amount] [LinearOrder Amount]

theorem setParticipant_self (hp : s.participants.lookup i = some p) :
    s.setParticipant i p = s := by
  show { s with participants := s.participants.insert i p } = s
  rw [Finmap.insert_lookup_self hp]

theorem onLedger_of_ok {x : Call (Book Amount) Ledger.Err α}
    (hp : s.participants.lookup i = some p) {a : α}
    {b : Book Amount} (h : x p.ledger = .ok a b) :
    onLedger i x s = .ok a (s.setParticipant i (p.withLedger b)) := by
  rw [onLedger, Call.get_bind, hp, orThrow_some_bind]
  exact Call.zoom_of_ok h

/-- A call on a ledger that fails without effect there has none here. -/
theorem onLedger_of_error {x : Call (Book Amount) Ledger.Err α}
    (hp : s.participants.lookup i = some p)
    {e : Ledger.Err} (h : x p.ledger = .error e p.ledger) :
    onLedger i x s = .error (.ledger e) s := by
  rw [onLedger, Call.get_bind, hp, orThrow_some_bind]
  have hzoom : Call.zoom (fun _ => p.ledger)
      (fun b s => s.setParticipant i (p.withLedger b)) Err.ledger x s
        = .error (.ledger e) (s.setParticipant i p) := Call.zoom_of_error h
  rw [setParticipant_self hp] at hzoom
  exact hzoom

theorem onDeposit_of_ok {x : Call (Register Amount) Deposit.Err α}
    (hp : s.participants.lookup i = some p) {a : α}
    {r : Register Amount} (h : x p.deposit = .ok a r) :
    onDeposit i x s = .ok a (s.setParticipant i (p.withDeposit r)) := by
  rw [onDeposit, Call.get_bind, hp, orThrow_some_bind]
  exact Call.zoom_of_ok h

/-- A call on a deposit layer that fails without effect there has none here. -/
theorem onDeposit_of_error {x : Call (Register Amount) Deposit.Err α}
    (hp : s.participants.lookup i = some p)
    {e : Deposit.Err} (h : x p.deposit = .error e p.deposit) :
    onDeposit i x s = .error (.deposit e) s := by
  rw [onDeposit, Call.get_bind, hp, orThrow_some_bind]
  have hzoom : Call.zoom (fun _ => p.deposit)
      (fun r s => s.setParticipant i (p.withDeposit r)) Err.deposit x s
        = .error (.deposit e) (s.setParticipant i p) := Call.zoom_of_error h
  rw [setParticipant_self hp] at hzoom
  exact hzoom

end OnBank

/-- A posting in the ledger of a bank is recorded, or refused without effect. -/
theorem onLedger_post (now : Time) {s : Network Amount} {i : ParticipantID}
    {p : Participant Amount} (hp : s.participants.lookup i = some p)
    (req : PostTransactionRequest Amount) :
    (p.ledger.Accepts req → onLedger i (Book.postTransaction now req) s
      = .ok (p.ledger.newTransaction now req) (s.posted now i p req)) ∧
      (¬p.ledger.Accepts req → ∃ e, onLedger i (Book.postTransaction now req) s
        = .error (.ledger e) s ∧ Book.postTransaction now req p.ledger
          = .error e p.ledger) := by
  constructor
  · intro hacc
    exact onLedger_of_ok hp (Book.postTransaction_of_accepts hacc now)
  · intro hacc
    obtain ⟨e, he, -⟩ := Book.postTransaction_of_not_accepts hacc now
    exact ⟨e, onLedger_of_error hp he, he⟩

/-- A posting at the central bank is recorded, or refused without effect. -/
theorem onCentralBank_post (now : Time) (s : Network Amount)
    (req : PostTransactionRequest Amount) :
    (s.centralBank.Accepts req → onCentralBank (Book.postTransaction now req) s
      = .ok (s.centralBank.newTransaction now req) (s.cbPosted now req)) ∧
      (¬s.centralBank.Accepts req →
        ∃ e, onCentralBank (Book.postTransaction now req) s
          = .error (.ledger e) s ∧ Book.postTransaction now req s.centralBank
            = .error e s.centralBank) := by
  constructor
  · intro hacc
    exact Call.zoom_of_ok (Book.postTransaction_of_accepts hacc now)
  · intro hacc
    obtain ⟨e, he, -⟩ := Book.postTransaction_of_not_accepts hacc now
    exact ⟨e, Call.zoom_of_error he, he⟩

/-- A transfer between two Liability accounts of the central bank is accepted
if its key is unused. -/
theorem Banks.cbAccepts {s : Network Amount} (h : s.Banks)
    {req : PostTransactionRequest Amount} {debit : Ledger.AccountID}
    {i : ParticipantID} {p : Participant Amount} {amount : Amount}
    (hp : s.participants.lookup i = some p)
    (hentries : req.entries = transfer debit p.settlementAccount amount)
    (hpos : 0 < amount) (hdebit : debit ∈ s.centralBank.accounts)
    (hkey : req.idempotencyKey = "" ∨
      s.centralBank.idempotencyIndex.lookup req.idempotencyKey = none) :
    s.centralBank.Accepts req := by
  obtain ⟨acct, hacct, htype⟩ := h.settlement i p hp
  exact .transfer hentries hpos hdebit (h.settlement_mem hp) hkey
    (.transfer hpos hacct htype)

end Network

end CoreBanking.Payment
