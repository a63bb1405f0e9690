import CoreBanking.Payment.Accounting
import CoreBanking.Ledger.TrialBalance

/-!
# Balances are what the payment statuses say

In every state that a run reaches in which no posting of a settlement or a
return is refused, every balance is a sum over the deposits of the run and over
the payments by their status:

- `balances_reached`: the accounts of the customers and the suspense accounts;
- `reserves_reached`: the reserves of each bank, in its own ledger and at the
  central bank, and the settlement assets.

The results hold for amounts in any ordered type with a group structure, so for
exact integers and for 64-bit ones alike.
-/

namespace CoreBanking.Payment

open Ledger (Book)

variable {Amount : Type} [AddCommGroup Amount]

/-! ## Sums over deposits and payments -/

/-- What was deposited into an account. -/
def paidInto (l : List (Receipt Amount)) (i : ParticipantID) (id : Deposit.AccountID) :
    Amount :=
  (l.map fun r => if r.participant = i ∧ r.account = id then r.amount else 0).sum

/-- What was deposited at a bank. -/
def paidIntoBank (l : List (Receipt Amount)) (i : ParticipantID) : Amount :=
  (l.map fun r => if r.participant = i then r.amount else 0).sum

namespace Network

/-- The amounts of the payments from an account with one of the statuses. -/
def paymentsFrom (s : Network Amount) (i : ParticipantID) (id : Deposit.AccountID)
    (statuses : List PaymentStatus) : Amount :=
  s.payments.sum fun _ p =>
    if p.debtor.participant = i ∧ p.debtor.account = id ∧ p.status ∈ statuses
    then p.amount else 0

/-- The amounts of the payments to an account with one of the statuses. -/
def paymentsTo (s : Network Amount) (i : ParticipantID) (id : Deposit.AccountID)
    (statuses : List PaymentStatus) : Amount :=
  s.payments.sum fun _ p =>
    if p.creditor.participant = i ∧ p.creditor.account = id ∧ p.status ∈ statuses
    then p.amount else 0

/-- The amounts of the payments from a bank with one of the statuses. -/
def paymentsFromBank (s : Network Amount) (i : ParticipantID)
    (statuses : List PaymentStatus) : Amount :=
  s.payments.sum fun _ p =>
    if p.debtor.participant = i ∧ p.status ∈ statuses then p.amount else 0

/-- The amounts of the payments to a bank with one of the statuses. -/
def paymentsToBank (s : Network Amount) (i : ParticipantID)
    (statuses : List PaymentStatus) : Amount :=
  s.payments.sum fun _ p =>
    if p.creditor.participant = i ∧ p.status ∈ statuses then p.amount else 0

/-! ## Shares at a place -/

theorem shares_customer (s : Network Amount) (i : ParticipantID)
    (id : Deposit.AccountID) : s.shares (.bank i (.customer id))
      = s.paymentsTo i id [.settled]
        - s.paymentsFrom i id [.accepted, .cleared, .settled] := by
  rw [shares, Finmap.sum_apply, paymentsTo, paymentsFrom, ← Finmap.sum_sub]
  refine Finmap.sum_congr fun _ p _ => ?_
  rw [Payment.share]
  cases p.status <;>
    simp [reserves, PartyRef.place, credit_bank, Role.credited, Role.normal]

theorem shares_suspense (s : Network Amount) (i : ParticipantID) :
    s.shares (.bank i .suspense) = s.paymentsFromBank i [.accepted, .cleared] := by
  rw [shares, Finmap.sum_apply, paymentsFromBank]
  refine Finmap.sum_congr fun _ p _ => ?_
  rw [Payment.share]
  cases p.status <;>
    simp [reserves, PartyRef.place, credit_bank, Role.credited, Role.normal]

theorem shares_reserve (s : Network Amount) (i : ParticipantID) :
    s.shares (.bank i .reserve)
      = s.paymentsToBank i [.settled] - s.paymentsFromBank i [.settled] := by
  rw [shares, Finmap.sum_apply, paymentsToBank, paymentsFromBank, ← Finmap.sum_sub]
  refine Finmap.sum_congr fun _ p _ => ?_
  rw [Payment.share]
  cases p.status with
  | settled =>
    by_cases hc : p.creditor.participant = i <;> by_cases hd : p.debtor.participant = i <;>
      simp [reserves, PartyRef.place, credit_bank, Role.credited, Role.normal, hc, hd]
  | _ => simp [PartyRef.place, credit_bank]

theorem shares_centralBank (s : Network Amount) (i : ParticipantID) :
    s.shares (.centralBank i)
      = s.paymentsToBank i [.settled] - s.paymentsFromBank i [.settled] := by
  rw [shares, Finmap.sum_apply, paymentsToBank, paymentsFromBank, ← Finmap.sum_sub]
  refine Finmap.sum_congr fun _ p _ => ?_
  rw [Payment.share]
  cases p.status <;> simp [reserves, PartyRef.place]

/-! ## Deposits at a place -/

theorem receipts_customer (l : List (Receipt Amount)) (i : ParticipantID)
    (id : Deposit.AccountID) :
    (l.map Receipt.share).sum (.bank i (.customer id)) = paidInto l i id := by
  induction l with
  | nil => rfl
  | cons r l ih =>
    rw [List.map_cons, List.sum_cons, Pi.add_apply, ih, paidInto, paidInto, List.map_cons,
      List.sum_cons]
    simp [Receipt.share, reserves, credit_bank, Role.credited, Role.normal]

theorem receipts_suspense (l : List (Receipt Amount)) (i : ParticipantID) :
    (l.map Receipt.share).sum (.bank i .suspense) = 0 := by
  induction l with
  | nil => rfl
  | cons r l ih =>
    rw [List.map_cons, List.sum_cons, Pi.add_apply, ih]
    simp [Receipt.share, reserves, credit_bank]

theorem receipts_reserve (l : List (Receipt Amount)) (i : ParticipantID) :
    (l.map Receipt.share).sum (.bank i .reserve) = paidIntoBank l i := by
  induction l with
  | nil => rfl
  | cons r l ih =>
    rw [List.map_cons, List.sum_cons, Pi.add_apply, ih, paidIntoBank, paidIntoBank,
      List.map_cons, List.sum_cons]
    by_cases hi : r.participant = i <;>
      simp [Receipt.share, reserves, credit_bank, Role.credited, Role.normal, hi]

theorem receipts_centralBank (l : List (Receipt Amount)) (i : ParticipantID) :
    (l.map Receipt.share).sum (.centralBank i) = paidIntoBank l i := by
  induction l with
  | nil => rfl
  | cons r l ih =>
    rw [List.map_cons, List.sum_cons, Pi.add_apply, ih, paidIntoBank, paidIntoBank,
      List.map_cons, List.sum_cons]
    simp [Receipt.share, reserves]

/-! ## Every balance -/

variable [LinearOrder Amount]

omit [LinearOrder Amount] in
/-- A new network holds nothing. -/
theorem surplus_newNetwork (now : Time) : (newNetwork Amount now).surplus = 0 := by
  have hbanks : (newNetwork Amount now).participants = ∅ := by
    rw [newNetwork]
    split <;> rfl
  funext place
  rw [surplus, shares, payments_newNetwork, Finmap.sum_empty, sub_zero]
  cases place <;> simp [holdings, hbanks]

/-- The holdings after a run are what its deposits and its payments have moved. -/
theorem holdings_reached {start : Clock} {steps : List (Clock × Op Amount)}
    (h : Along exec Undisturbed (newNetwork Amount start.now) steps) :
    (reached start steps).holdings
      = ((receipts (newNetwork Amount start.now) steps).map Receipt.share).sum
        + (reached start steps).shares := by
  have hrun := surplus_run (wf_newNetwork start.now) h
  rw [surplus_newNetwork, zero_add, surplus] at hrun
  exact sub_eq_iff_eq_add.mp hrun

section Balances

variable {s : Network Amount} {i : ParticipantID} {b : Participant Amount}

/-- The balance of an account of a bank is what the bank holds there. -/
theorem Banks.bookBalance (h : s.Banks) (hb : s.participants.lookup i = some b)
    (role : Role) {a : Ledger.AccountID} (ha : b.accountOf role = some a) :
    b.ledger.bookBalance a = .ok (s.holdings (.bank i role)) := by
  obtain ⟨acct, hacct, -⟩ := (h.bank i b hb).chart.account ha
  rw [Book.bookBalance_of_lookup hacct, holdings_bank hb,
    Participant.balanceOf_of_account ha]

/-- So is the balance of its account at the central bank. -/
theorem Banks.cbBookBalance (h : s.Banks) (hb : s.participants.lookup i = some b) :
    s.centralBank.bookBalance b.settlementAccount
      = .ok (s.holdings (.centralBank i)) := by
  obtain ⟨acct, hacct, -⟩ := h.settlement i b hb
  rw [Book.bookBalance_of_lookup hacct, holdings_centralBank hb]

/-- The settlement assets are the sum of the reserves, by the trial balance of
the central bank. -/
theorem Banks.assets_balance (h : s.Banks) : s.centralBank.bookBalance s.cbAssets
    = .ok (s.participants.sum fun _ b => s.centralBank.balance b.settlementAccount) := by
  obtain ⟨assets, hassets, htype⟩ := h.assets
  let cb := s.centralBank
  have hdebit : cb.totalBalance [.asset, .expense] = cb.balance s.cbAssets := by
    rw [Book.totalBalance, Finmap.sum_eq_single hassets, if_pos (by simp [htype])]
    intro a acct ha hne
    rcases h.cbAccounts a acct ha with rfl | ⟨i, b, hb, rfl⟩
    · exact absurd rfl hne
    · obtain ⟨acct', hacct', htype'⟩ := h.settlement i b hb
      cases ha.symm.trans hacct'
      exact if_neg (by simp [htype'])
  have hcredit : cb.totalBalance [.liability, .equity, .revenue]
      = s.participants.sum fun _ b => cb.balance b.settlementAccount := by
    -- sum over the accounts of each bank, of which there is one
    have hbanks : (s.participants.sum fun _ b => cb.balance b.settlementAccount)
        = s.participants.sum fun _ b => cb.accounts.sum fun a _ =>
          if a = b.settlementAccount then cb.balance a else 0 := by
      refine Finmap.sum_congr fun i b hb => ?_
      obtain ⟨acct, hacct, -⟩ := h.settlement i b hb
      rw [Finmap.sum_eq_single hacct, if_pos rfl]
      exact fun a _ _ hne => if_neg hne
    rw [hbanks, Finmap.sum_comm, Book.totalBalance]
    refine Finmap.sum_congr fun a acct ha => ?_
    rcases h.cbAccounts a acct ha with rfl | ⟨i, b, hb, rfl⟩
    · cases hassets.symm.trans ha
      rw [if_neg (by simp [htype]), Finmap.sum_eq_zero]
      exact fun i b hb => if_neg (h.settlement_ne_assets hb).symm
    · obtain ⟨acct', hacct', htype'⟩ := h.settlement i b hb
      cases ha.symm.trans hacct'
      rw [if_pos (by simp [htype']), Finmap.sum_eq_single hb, if_pos rfl]
      intro j c hc hne
      exact if_neg fun heq => hne (h.settlement_unique j i c b hc hb heq.symm)
  rw [Book.bookBalance_of_lookup hassets, ← hcredit,
    ← h.centralBank.trialBalance h.cbDeclared, hdebit]

end Balances

/-- **Customer and suspense balances** are what the payment statuses say. -/
theorem balances_reached (start : Clock) (steps : List (Clock × Op Amount))
    (h : Along exec Undisturbed (newNetwork Amount start.now) steps) :
    let s := reached start steps
    let paidIn := receipts (newNetwork Amount start.now) steps
    (∀ i b, s.participants.lookup i = some b →
      ∀ id a, b.deposit.accounts.lookup id = some a →
        b.ledger.bookBalance a.glAccount = .ok (paidInto paidIn i id
          - s.paymentsFrom i id [.accepted, .cleared, .settled]
          + s.paymentsTo i id [.settled])) ∧
      ∀ i b, s.participants.lookup i = some b →
        b.ledger.bookBalance b.suspenseAccount
          = .ok (s.paymentsFromBank i [.accepted, .cleared]) := by
  intro s paidIn
  have hbanks : s.Banks := (wf_reached start steps).banks
  have hholdings : s.holdings = (paidIn.map Receipt.share).sum + s.shares :=
    holdings_reached h
  constructor
  · intro i b hb id a ha
    have haccount : b.accountOf (.customer id) = some a.glAccount :=
      Participant.accountOf_customer ha
    rw [hbanks.bookBalance hb _ haccount, hholdings, Pi.add_apply, receipts_customer,
      shares_customer]
    congr 1
    abel
  · intro i b hb
    rw [hbanks.bookBalance hb .suspense rfl, hholdings, Pi.add_apply,
      receipts_suspense, shares_suspense, zero_add]

/-- The clock of the runs below. -/
def noon : Clock := ⟨⟨12 * Time.hour, 0⟩, by decide⟩

/-- Alice pays Bob 40, Bob pays 15 back before the cut-off, a payment of 10 is
rejected, and one of 7 is pending in the next cycle. -/
def busyDay : List (Clock × Op ℤ) :=
  let alice : PartyRef := { participant := ⟨"bank_1"⟩, account := ⟨"dep_1"⟩ }
  let bob : PartyRef := { participant := ⟨"bank_2"⟩, account := ⟨"dep_1"⟩ }
  let transfer (debtor creditor : PartyRef) (amount : ℤ) : Op ℤ :=
    .initiatePayment
      { scheme := Scheme.sct.id, debtor := debtor, creditor := creditor, amount := amount }
  [.addParticipant "A", .addParticipant "B",
    .openCustomerAccount alice.participant "Alice",
    .openCustomerAccount bob.participant "Bob",
    .deposit alice.participant alice.account 100 "cash",
    .deposit bob.participant bob.account 20 "cash",
    .openCycle Scheme.sct.id, transfer alice bob 40, transfer bob alice 15,
    transfer alice bob 10, .rejectPayment ⟨"pay_6"⟩ "typo", .closeCycle ⟨"cyc_3"⟩,
    .settleCycle .byKey .byKey ⟨"cyc_3"⟩, .openCycle Scheme.sct.id,
    transfer alice bob 7].map fun op => (noon, op)

/-- Alice has 100 - 40 + 15 - 7, and 7 are in the suspense of her bank. -/
theorem balances_busyDay : ∃ b a,
    (reached noon busyDay).participants.lookup ⟨"bank_1"⟩ = some b ∧
      b.deposit.accounts.lookup ⟨"dep_1"⟩ = some a ∧
        b.ledger.bookBalance a.glAccount = .ok 68 ∧
        b.ledger.bookBalance b.suspenseAccount = .ok 7 := by
  obtain ⟨hcustomer, hsuspense⟩ := balances_reached noon busyDay (by decide +kernel)
  obtain ⟨b, hb⟩ := Option.isSome_iff_exists.mp (show
    ((reached noon busyDay).participants.lookup ⟨"bank_1"⟩).isSome by decide +kernel)
  obtain ⟨a, ha⟩ := Option.isSome_iff_exists.mp (show
    (((reached noon busyDay).participants.lookup ⟨"bank_1"⟩).bind
      fun b => b.deposit.accounts.lookup ⟨"dep_1"⟩).isSome by decide +kernel)
  rw [hb, Option.bind_some] at ha
  refine ⟨b, a, hb, ha, ?_, ?_⟩
  · rw [hcustomer _ b hb _ a ha]
    decide +kernel
  · rw [hsuspense _ b hb]
    decide +kernel

/-- **The reserve mirror**: the reserves of a bank in its own ledger and at the
central bank are what settling each payment gross would have made them. -/
theorem reserves_reached (start : Clock) (steps : List (Clock × Op Amount))
    (h : Along exec Undisturbed (newNetwork Amount start.now) steps) :
    let s := reached start steps
    let paidIn := receipts (newNetwork Amount start.now) steps
    (∀ i b, s.participants.lookup i = some b →
      b.ledger.bookBalance b.reserveAccount
          = s.centralBank.bookBalance b.settlementAccount ∧
        s.centralBank.bookBalance b.settlementAccount
          = .ok (paidIntoBank paidIn i + s.paymentsToBank i [.settled]
            - s.paymentsFromBank i [.settled])) ∧
      s.centralBank.bookBalance s.cbAssets
        = .ok (s.participants.sum fun _ b =>
          s.centralBank.balance b.settlementAccount) := by
  intro s paidIn
  have hbanks : s.Banks := (wf_reached start steps).banks
  have hholdings : s.holdings = (paidIn.map Receipt.share).sum + s.shares :=
    holdings_reached h
  refine ⟨fun i b hb => ?_, hbanks.assets_balance⟩
  have hsame : s.holdings (.bank i .reserve) = s.holdings (.centralBank i) := by
    rw [hholdings, Pi.add_apply, Pi.add_apply, receipts_reserve, receipts_centralBank,
      shares_reserve, shares_centralBank]
  constructor
  · rw [hbanks.bookBalance hb .reserve rfl, hbanks.cbBookBalance hb, hsame]
  · rw [hbanks.cbBookBalance hb, hholdings, Pi.add_apply, receipts_centralBank,
      shares_centralBank, add_sub_assoc]

/-- The bank of Bob has 20 + 40 - 15 on reserve in both ledgers. -/
theorem reserves_busyDay : ∃ b,
    (reached noon busyDay).participants.lookup ⟨"bank_2"⟩ = some b ∧
      b.ledger.bookBalance b.reserveAccount = .ok 45 ∧
      (reached noon busyDay).centralBank.bookBalance b.settlementAccount = .ok 45 := by
  obtain ⟨hbanks, -⟩ := reserves_reached noon busyDay (by decide +kernel)
  obtain ⟨b, hb⟩ := Option.isSome_iff_exists.mp (show
    ((reached noon busyDay).participants.lookup ⟨"bank_2"⟩).isSome by decide +kernel)
  obtain ⟨hmirror, hgross⟩ := hbanks _ b hb
  have hvalue : (reached noon busyDay).centralBank.bookBalance b.settlementAccount
      = .ok 45 := by
    rw [hgross]
    decide +kernel
  exact ⟨b, hb, hmirror.trans hvalue, hvalue⟩

end Network

end CoreBanking.Payment
