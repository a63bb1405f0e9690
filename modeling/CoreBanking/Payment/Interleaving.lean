import CoreBanking.Deposit.Holds
import CoreBanking.Payment.Balances

/-!
# Payments and holds that run at the same time

`InitiatePayment` checks what is available under the lock of the deposit layer, and posts
the debtor leg under the lock of the ledger. `CreateHold` reads the book balance under the
lock of the ledger, and records the hold while it still has that of the deposit layer.
Payments wait for each other, and so do holds and checks, but between the check of a payment
and its posting a hold may read and record.

- `Interleaved.exec`: one of these sections, taken by one of any number of calls;
- `hold_takes_payment`: an interleaving that overdraws an account;
- `available_iff_holdLeaves`: the account has enough at the end exactly if each hold leaves,
  when it is recorded, what a payment under way has been granted.
-/

namespace CoreBanking.Payment

open Ledger (Book Direction PostTransactionRequest Transaction transfer)
open Deposit (Register CreateHoldRequest)

variable {Amount : Type}

/-! ## One account -/

namespace Participant

section Left

variable [AddCommGroup Amount]

/-- What a customer has available, by the list of the account's holds. -/
def left (b : Participant Amount) (a : Deposit.Account Amount) (now : Time) : Amount :=
  b.ledger.balance a.glAccount - b.deposit.listed now a.id + a.overdraftLimit

variable [LinearOrder Amount] {b : Participant Amount} {id : Deposit.AccountID}
  {a : Deposit.Account Amount}

theorem WF.available_eq (h : b.WF) (ha : b.deposit.accounts.lookup id = some a)
    (now : Time) : b.deposit.available now a = .ok (b.left a now) := by
  rw [Register.available, h.deposit.bookBalance_eq ha,
    Register.computeActiveHolds_eq_listed (h.deposit.held _)]
  rfl

theorem WF.getBalance_eq (h : b.WF) (ha : b.deposit.accounts.lookup id = some a)
    (now : Time) : b.deposit.getBalance now id
      = .ok ⟨b.ledger.balance a.glAccount, b.deposit.listed now a.id, b.left a now⟩ := by
  have hholds := Register.computeActiveHolds_eq_listed (h.deposit.held id) now
  rw [Register.getBalance, Register.getAccount, ha, left, h.deposit.account_id id a ha]
  show (b.deposit.bookBalance a >>= fun _ => b.deposit.computeActiveHolds now id >>= fun _ =>
    _) = _
  rw [h.deposit.bookBalance_eq ha, hholds]
  rfl

/-- A debtor leg takes the amount. -/
theorem WF.left_posted (h : b.WF) (ha : b.deposit.accounts.lookup id = some a)
    {req : PostTransactionRequest Amount} {amount : Amount}
    (hentries : req.entries = transfer a.glAccount b.suspenseAccount amount)
    (now later : Time) :
    (b.withLedger (b.ledger.record now (b.ledger.newTransaction now req))).left a later
      = b.left a later - amount := by
  obtain ⟨g, hg, htype⟩ := h.deposit.gl id a ha
  have hbalance := h.ledger.balance_record hg now req
  rw [htype, hentries] at hbalance
  have heffect : Ledger.effect .credit a.glAccount
      (transfer a.glAccount b.suspenseAccount amount) = -amount := by
    rw [Ledger.effect_transfer_credit, if_neg (h.gl_ne_suspense id a ha), if_pos rfl,
      zero_sub]
  show (b.ledger.record now _).balance a.glAccount - b.deposit.listed later a.id + _ = _
  rw [hbalance, show Ledger.effect Ledger.AccountType.liability.normalBalance a.glAccount _
    = _ from heffect, left]
  abel

/-- A hold that does not expire takes the amount. -/
theorem WF.left_held (h : b.WF) (ha : b.deposit.accounts.lookup id = some a)
    {req : CreateHoldRequest Amount} (hreq : req.accountID = id)
    (hforever : req.expiresAt.IsZero) (now later : Time) :
    (b.withDeposit (b.deposit.addHoldTo now req)).left a later
      = b.left a later - req.amount := by
  have hreserved : (b.deposit.newHold now req).reserved later = req.amount :=
    if_pos ⟨rfl, fun hexpired => hexpired.1 hforever⟩
  have hid : req.accountID = a.id := hreq.trans (h.deposit.account_id id a ha).symm
  have hlisted : (b.deposit.addHoldTo now req).listed later a.id = _ :=
    h.deposit.listed_addHoldTo req later a.id
  rw [if_pos hid, hreserved] at hlisted
  show b.ledger.balance a.glAccount - (b.deposit.addHoldTo now req).listed later a.id + _ = _
  rw [hlisted, left]
  abel

end Left

end Participant

/-! ## Locked sections -/

/-- A network, and the calls that are between their two sections. -/
structure Interleaved (Amount : Type) where
  network : Network Amount
  /-- The payment that is checked and not posted yet. Its call holds the lock of the
  network. -/
  payment : Option (Network.CheckedPayment Amount)
  /-- The hold that is not recorded yet, with its account and the book balance that was
  read. Its call holds the lock of the deposit layer. -/
  hold : Option (CreateHoldRequest Amount × Deposit.Account Amount × Amount)

/-- The sections of the two calls. -/
inductive Section (Amount : Type) where
  | check (req : InitiatePaymentRequest Amount)
  | post
  | read (req : CreateHoldRequest Amount)
  | record

namespace Interleaved

/-- Before any call. -/
def start (s : Network Amount) : Interleaved Amount := ⟨s, none, none⟩

/-- All calls have returned. -/
def Idle (c : Interleaved Amount) : Prop := c.payment = none ∧ c.hold = none

instance (c : Interleaved Amount) : Decidable c.Idle :=
  inferInstanceAs (Decidable (c.payment = none ∧ c.hold = none))

variable [AddCommGroup Amount] [LinearOrder Amount]

/-- A call takes a section, the holds at bank `i`. It waits if it does not get its lock: a
check if another payment or a hold is under way, a reading if another hold is. -/
def exec (i : ParticipantID) (step : Clock × Section Amount) (c : Interleaved Amount) :
    Interleaved Amount :=
  match step.2, c.payment, c.hold with
  | .check req, none, none =>
    -- an id may be drawn even if the payment is refused
    match Network.checkPayment step.1.now req c.network with
    | .ok p s => ⟨s, some p, none⟩
    | .error _ s => ⟨s, none, none⟩
  -- the deposit layer is not asked again
  | .post, some p, hold => ⟨(Network.postPayment step.1.now p).final c.network, none, hold⟩
  | .read req, payment, none =>
    match Network.onDeposit i (Register.readBalance req) c.network with
    | .ok balance s => ⟨s, payment, some (req, balance)⟩
    | .error _ s => ⟨s, payment, none⟩
  | .record, payment, some (req, balance) =>
    -- the holds are counted now, the book balance is the one that was read
    ⟨(Network.onDeposit i (Register.recordHold step.1.now req balance)).final c.network,
      payment, none⟩
  | _, _, _ => c

/-- The amount that a payment under way has been granted. -/
def granted (c : Interleaved Amount) : Amount :=
  match c.payment with
  | none => 0
  | some p => p.payment.amount

end Interleaved

/-- The section is of a payment from an account, or of a hold on it that does not expire. -/
def Section.On (i : ParticipantID) (id : Deposit.AccountID) : Section Amount → Prop
  | .check req => req.debtor.participant = i ∧ req.debtor.account = id
  | .read req => req.accountID = id ∧ req.expiresAt.IsZero
  | _ => True

/-- The balance of a customer, as `GetBalance` returns it. -/
def Network.balanceAt [AddCommGroup Amount] (s : Network Amount) (i : ParticipantID)
    (id : Deposit.AccountID) (now : Time) : Option (Deposit.Balance Amount) :=
  (s.participants.lookup i).bind fun b => (b.deposit.getBalance now id).toOption

namespace Interleaved

variable [AddCommGroup Amount] [LinearOrder Amount]

/-- If the balance that was read covers a hold, then the balance there is now covers it
besides what is granted. -/
def Leaves (c : Interleaved Amount) (balance : Deposit.Balance Amount) :
    CreateHoldRequest Amount × Deposit.Account Amount × Amount → Prop
  | (req, acct, book) => ¬book - balance.holds + acct.overdraftLimit - req.amount < 0 →
      req.amount + c.granted ≤ balance.available

instance (c : Interleaved Amount) (balance : Deposit.Balance Amount) :
    ∀ hold, Decidable (c.Leaves balance hold)
  | (req, acct, book) => inferInstanceAs (Decidable (
      ¬book - balance.holds + acct.overdraftLimit - req.amount < 0 →
        req.amount + c.granted ≤ balance.available))

/-- A hold that is recorded leaves what a payment under way has been granted. -/
def HoldLeaves (i : ParticipantID) (id : Deposit.AccountID) (c : Interleaved Amount) :
    Clock × Section Amount → Prop
  | (t, .record) => ∀ hold ∈ c.hold, ∀ balance ∈ c.network.balanceAt i id t.now,
      c.Leaves balance hold
  | _ => True

instance (i : ParticipantID) (id : Deposit.AccountID) (c : Interleaved Amount) :
    ∀ step, Decidable (HoldLeaves i id c step)
  | (t, .record) => inferInstanceAs (Decidable (∀ hold ∈ c.hold,
      ∀ balance ∈ c.network.balanceAt i id t.now, c.Leaves balance hold))
  | (_, .check _) => .isTrue trivial
  | (_, .post) => .isTrue trivial
  | (_, .read _) => .isTrue trivial

/-! ## Between two sections -/

/-- A payment from the account that is checked. Its debtor leg can be posted. -/
structure Checked (i : ParticipantID) (a : Deposit.Account Amount) (b : Participant Amount)
    (last : Nat) (p : Network.CheckedPayment Amount) : Prop where
  bank : p.payment.debtor.participant = i
  gl : p.debtorGL = a.glAccount
  suspense : p.suspense = b.suspenseAccount
  positive : 0 < p.payment.amount
  drawn : ∃ n ≤ last, p.payment.id = ⟨ident "pay" n⟩
  unused : b.ledger.keyed p.payment.id.debitKey = none

/-- What holds of an account and its bank between two sections. -/
structure Ready (i : ParticipantID) (id : Deposit.AccountID) (a : Deposit.Account Amount)
    (c : Interleaved Amount) (b : Participant Amount) : Prop where
  bank : c.network.participants.lookup i = some b
  wf : b.WF
  account : b.deposit.accounts.lookup id = some a
  forever : b.deposit.Lasting id
  unused : ∀ n, c.network.idCounter < n →
    b.ledger.keyed (PaymentID.debitKey ⟨ident "pay" n⟩) = none
  payment : ∀ p, c.payment = some p → Checked i a b c.network.idCounter p
  hold : ∀ req acct book, c.hold = some (req, acct, book) →
    req.accountID = id ∧ 0 < req.amount ∧ req.expiresAt.IsZero ∧ acct = a

namespace Ready

variable {i : ParticipantID} {id : Deposit.AccountID} {a : Deposit.Account Amount}
  {c : Interleaved Amount} {b : Participant Amount}

/-- In a reached state, before any call. -/
theorem start {s : Network Amount} (h : s.WF) (hb : s.participants.lookup i = some b)
    (ha : b.deposit.accounts.lookup id = some a)
    (hforever : b.deposit.Lasting id) :
    Ready i id a (Interleaved.start s) b where
  bank := hb
  wf := h.banks.bank i b hb
  account := ha
  forever := hforever
  unused n hn := by
    have hfree : ColonFree (ident "pay" n) := colonFree_ident (by decide) n
    have hfresh : s.payments.lookup ⟨ident "pay" n⟩ = none :=
      h.records.paymentIDs.fresh (fun _ _ => PaymentID.mk.inj) hn
    rw [← Network.keyed_of_bank hb]
    exact h.legs.keys.unused h.records hfree (Finmap.lookup_eq_none.mp hfresh) i (by decide)
  payment p hp := by cases hp
  hold req acct book hhold := by cases hhold

/-- The time does not matter. -/
theorem left_eq (h : Ready i id a c b) (now later : Time) : b.left a now = b.left a later := by
  rw [Participant.left, Participant.left, h.wf.deposit.account_id id a h.account,
    h.forever.listed_eq now later]

theorem balanceAt_eq (h : Ready i id a c b) (now : Time) : c.network.balanceAt i id now
    = some ⟨b.ledger.balance a.glAccount, b.deposit.listed now a.id, b.left a now⟩ := by
  rw [Network.balanceAt, h.bank, Option.bind_some, h.wf.getBalance_eq h.account]
  rfl

/-- The debtor leg of a checked payment is not refused. -/
theorem accepts (h : Ready i id a c b) {p : Network.CheckedPayment Amount}
    (hp : c.payment = some p) : b.ledger.Accepts p.debtorLeg := by
  obtain ⟨-, hgl, hsuspense, hpos, -, hunused⟩ := h.payment p hp
  obtain ⟨acct, hacct, htype⟩ := h.wf.suspense
  obtain ⟨g, hg, -⟩ := h.wf.deposit.gl id a h.account
  refine Book.Accepts.transfer rfl hpos ?_ ?_ (.inr (h.wf.ledger.keyed_eq_none.mp hunused)) ?_
  · exact hgl ▸ Finmap.mem_of_lookup_eq_some hg
  · exact hsuspense ▸ h.wf.suspense_mem
  · exact Book.Sufficient.transfer hpos (hsuspense ▸ hacct) htype

end Ready

/-! ## One section -/

/-- What an account has available besides what is granted. -/
def spare (c : Interleaved Amount) (b : Participant Amount) (a : Deposit.Account Amount)
    (now : Time) : Amount :=
  b.left a now - c.granted

omit [LinearOrder Amount] in
theorem spare_of_none {c : Interleaved Amount} (h : c.payment = none)
    (b : Participant Amount) (a : Deposit.Account Amount) (now : Time) :
    c.spare b a now = b.left a now := by
  rw [spare, granted, h]
  exact sub_zero _

/-- The section leads to a state between two sections with no more to spare. From one that has
enough it leads to one that has exactly if the condition is met. -/
def Advances (i : ParticipantID) (id : Deposit.AccountID) (a : Deposit.Account Amount)
    (step : Clock × Section Amount) (c : Interleaved Amount) (b : Participant Amount) : Prop :=
  ∃ b', Ready i id a (exec i step c) b' ∧ ∀ now,
    (exec i step c).spare b' a now ≤ c.spare b a now ∧
      (0 ≤ c.spare b a now → (0 ≤ (exec i step c).spare b' a now ↔ HoldLeaves i id c step))

variable {i : ParticipantID} {id : Deposit.AccountID} {a : Deposit.Account Amount}
  {c : Interleaved Amount} {b : Participant Amount}

namespace Ready

/-- A section that waits. -/
theorem wait (h : Ready i id a c b) {step : Clock × Section Amount}
    (hwait : exec i step c = c) (hleaves : HoldLeaves i id c step) :
    Advances i id a step c b := by
  refine ⟨b, hwait.symm ▸ h, fun now => ?_⟩
  rw [hwait]
  exact ⟨le_rfl, fun hspare => iff_of_true hspare hleaves⟩

/-- The key of a later payment is another one. -/
theorem debitKey_ne {n m : Nat} (hne : n ≠ m) :
    PaymentID.debitKey ⟨ident "pay" n⟩ ≠ PaymentID.debitKey ⟨ident "pay" m⟩ := by
  have hfree : ∀ k, ColonFree (ident "pay" k) := fun k => colonFree_ident (by decide) k
  intro hkey
  exact hne (ident_inj.mp ((joinColon_inj (hfree n) (hfree m)).mp hkey).1)

/-- The posting takes what was granted. -/
theorem post (h : Ready i id a c b) {p : Network.CheckedPayment Amount}
    (hp : c.payment = some p) (t : Clock) : Advances i id a (t, .post) c b := by
  obtain ⟨hbank, hgl, hsuspense, hpos, ⟨m, hm, hid⟩, -⟩ := h.payment p hp
  have hacc := h.accepts hp
  have hexec : exec i (t, .post) c
      = ⟨(Network.postPayment t.now p).final c.network, none, c.hold⟩ := by
    rw [exec, hp]
  obtain ⟨hbanks, hcounter⟩ := Network.postPayment_banks (hbank ▸ h.bank) hacc t.now
  have hkeyed : ∀ n, c.network.idCounter < n →
      (b.ledger.record t.now (b.ledger.newTransaction t.now p.debtorLeg)).keyed
        (PaymentID.debitKey ⟨ident "pay" n⟩) = none := by
    intro n hn
    rw [h.wf.ledger.keyed_record hacc, if_neg]
    · exact h.unused n hn
    · -- the id of the payment was drawn before
      rintro ⟨hkey, -⟩
      have hkey' : PaymentID.debitKey ⟨ident "pay" n⟩ = p.payment.id.debitKey := hkey
      rw [hid] at hkey'
      exact debitKey_ne (by omega) hkey'
  refine ⟨b.withLedger (b.ledger.record t.now (b.ledger.newTransaction t.now p.debtorLeg)),
    ?_, fun now => ?_⟩
  · rw [hexec]
    refine
      { bank := ?_
        wf := ?_
        account := h.account
        forever := h.forever
        unused := fun n hn => hkeyed n (hcounter ▸ hn)
        payment := fun q hq => by cases hq
        hold := h.hold }
    · -- bank
      show ((Network.postPayment t.now p).final c.network).participants.lookup i = _
      rw [hbanks, Network.posted, hbank, Network.setParticipant_lookup, if_pos rfl]
    · -- wf
      exact h.wf.withDeposit
        (h.wf.deposit.withBook (h.wf.ledger.record hacc) fun _ _ hacct => hacct)
        (h.wf.declared.record h.wf.ledger t.now (Ledger.declared_transfer _ _ _))
        (.of_eq rfl rfl)
  · -- what is left goes down by what was granted, and nothing is granted any more
    have hentries : p.debtorLeg.entries
        = transfer a.glAccount b.suspenseAccount p.payment.amount := by
      rw [← hgl, ← hsuspense]
      rfl
    have hleft := h.wf.left_posted h.account hentries t.now now
    have hsame : (exec i (t, .post) c).spare
        (b.withLedger (b.ledger.record t.now (b.ledger.newTransaction t.now p.debtorLeg))) a now
          = c.spare b a now := by
      rw [hexec, spare, spare, hleft, granted, granted, hp]
      exact sub_zero _
    rw [hsame]
    exact ⟨le_rfl, fun hspare => iff_of_true hspare trivial⟩

/-- The reading changes nothing. -/
theorem read (h : Ready i id a c b) (hhold : c.hold = none) (t : Clock)
    {req : CreateHoldRequest Amount} (hon : Section.On i id (.read req)) :
    Advances i id a (t, .read req) c b := by
  rcases Register.readBalance_cases req b.deposit with
    ⟨e, he⟩ | ⟨acct, book, hacct, -, hpos, -, hok⟩
  · refine h.wait ?_ trivial
    rw [exec, hhold]
    dsimp only
    rw [Network.onDeposit_of_error h.bank he]
    cases c
    cases hhold
    rfl
  · have hcall := Network.onDeposit_of_ok h.bank hok
    have hself : c.network.setParticipant i (b.withDeposit b.deposit) = c.network :=
      Network.setParticipant_self h.bank
    have hexec : exec i (t, .read req) c = ⟨c.network, c.payment, some (req, acct, book)⟩ := by
      rw [exec, hhold]
      dsimp only
      rw [hcall, hself]
    -- the section is on the account, so it read this one
    have hsame : acct = a := by
      rw [hon.1, h.account] at hacct
      exact (Option.some.inj hacct).symm
    refine ⟨b, ?_, fun now => ?_⟩
    · rw [hexec]
      refine { h with hold := ?_ }
      intro req' acct' book' hsome
      cases hsome
      exact ⟨hon.1, hpos, hon.2, hsame⟩
    · rw [hexec]
      exact ⟨le_rfl, fun hspare => iff_of_true hspare trivial⟩

/-- A hold that is recorded takes its amount. -/
theorem record [IsOrderedAddMonoid Amount] (h : Ready i id a c b)
    {req : CreateHoldRequest Amount} {acct : Deposit.Account Amount} {book : Amount}
    (hhold : c.hold = some (req, acct, book)) (t : Clock) :
    Advances i id a (t, .record) c b := by
  obtain ⟨hreq, hpos, hforever, hacct⟩ := h.hold req acct book hhold
  subst hacct
  have hholds := Register.computeActiveHolds_eq_listed (h.wf.deposit.held id) t.now
  rw [← h.wf.deposit.account_id id acct h.account] at hholds
  have hrecord : Register.recordHold t.now req (acct, book) b.deposit = _ :=
    Register.recordHold_eq hholds req
  have hexec : exec i (t, .record) c = ⟨(Network.onDeposit i (Register.recordHold t.now req
      (acct, book))).final c.network, c.payment, none⟩ := by
    rw [exec, hhold]
  -- the hold is recorded if the balance that was read covers it
  have hleaves : HoldLeaves i id c (t, .record) ↔
      (¬book - b.deposit.listed t.now acct.id + acct.overdraftLimit - req.amount < 0 →
        req.amount + c.granted ≤ b.left acct t.now) := by
    rw [HoldLeaves, hhold, h.balanceAt_eq t.now]
    simp only [Option.mem_some_iff, forall_eq']
    rfl
  by_cases hcovered :
      ¬book - b.deposit.listed t.now acct.id + acct.overdraftLimit - req.amount < 0
  · -- recorded, whatever is available now
    rw [if_pos hcovered] at hrecord
    have hcall := Network.onDeposit_of_ok h.bank hrecord
    have hleft := fun now => h.wf.left_held h.account hreq hforever t.now now
    refine ⟨b.withDeposit (b.deposit.addHoldTo t.now req), ?_, fun now => ?_⟩
    · rw [hexec, Call.final_of_ok hcall]
      exact
        { bank := (Network.setParticipant_lookup ..).trans (if_pos rfl)
          wf := h.wf.withDeposit (h.wf.deposit.addHoldTo t.now hpos) h.wf.declared (.of_eq rfl rfl)
          account := h.account
          forever := h.forever.addHoldTo hforever t.now
          unused := h.unused
          payment := fun p hp =>
            let hp := h.payment p hp
            ⟨hp.bank, hp.gl, hp.suspense, hp.positive, hp.drawn, hp.unused⟩
          hold := fun _ _ _ hsome => by cases hsome }
    · have hspare : (exec i (t, .record) c).spare
          (b.withDeposit (b.deposit.addHoldTo t.now req)) acct now
            = c.spare b acct now - req.amount := by
        rw [hexec, spare, spare, hleft, granted, granted]
        exact sub_right_comm ..
      rw [hspare, hleaves]
      refine ⟨sub_le_self _ hpos.le, fun _ => ?_⟩
      rw [imp_iff_right hcovered, h.left_eq t.now now, spare, sub_sub, sub_nonneg, add_comm]
  · -- refused
    rw [if_neg hcovered] at hrecord
    have hcall := Network.onDeposit_of_error h.bank hrecord
    refine ⟨b, ?_, fun now => ?_⟩
    · rw [hexec, Call.final_of_error hcall]
      exact { h with hold := fun _ _ _ hsome => by cases hsome }
    · rw [hexec, Call.final_of_error hcall]
      exact ⟨le_rfl, fun hspare => iff_of_true hspare (hleaves.mpr (absurd · hcovered))⟩

/-- An id is drawn, and a payment may be under way with it. -/
theorem draw (h : Ready i id a c b) {payment : Option (Network.CheckedPayment Amount)}
    (hpayment : ∀ p, payment = some p → Checked i a b (c.network.idCounter + 1) p) :
    Ready i id a
      ⟨{ c.network with idCounter := c.network.idCounter + 1 }, payment, none⟩ b where
  bank := h.bank
  wf := h.wf
  account := h.account
  forever := h.forever
  unused n hn := h.unused n (Nat.lt_of_succ_lt hn)
  payment := hpayment
  hold _ _ _ hsome := by cases hsome

/-- The account and the bank that a check for the account finds are those of it, and what the
check asks of the deposit layer is that the amount is available. -/
theorem checks_le [IsOrderedAddMonoid Amount] (h : Ready i id a c b) {t : Time}
    {req : InitiatePaymentRequest Amount} (hon : Section.On i id (.check req)) {scheme : Scheme}
    {cycleID : CycleID} {debtor : Participant Amount} {acct : Deposit.Account Amount}
    (hc : c.network.Checks t req scheme cycleID debtor acct) :
    debtor = b ∧ acct = a ∧ req.amount ≤ b.left a t := by
  have hb : debtor = b := by
    have hbank := hc.debtor_exists.bank
    rw [hon.1, h.bank] at hbank
    exact (Option.some.inj hbank).symm
  subst hb
  have ha : acct = a := by
    have hacct := hc.debtor_exists.account
    rw [hon.2, h.account] at hacct
    exact (Option.some.inj hacct).symm
  subst ha
  obtain ⟨acct', available, hacct', -, havailable, hcovered⟩ :=
    Register.checkWithdrawal_eq_ok.mp
      (Network.validate_checks hc.valid hc.debtor_exists.bank)
  cases hc.debtor_exists.account.symm.trans hacct'
  cases (h.wf.available_eq h.account t).symm.trans havailable
  exact ⟨rfl, rfl, sub_nonneg.mp (not_lt.mp hcovered)⟩

/-- A payment is granted what is available. -/
theorem check [IsOrderedAddMonoid Amount] (h : Ready i id a c b) (hpayment : c.payment = none)
    (hhold : c.hold = none) (t : Clock) {req : InitiatePaymentRequest Amount}
    (hon : Section.On i id (.check req)) : Advances i id a (t, .check req) c b := by
  have hexec : ∀ r, Network.checkPayment t.now req c.network = r →
      exec i (t, .check req) c = match r with
        | .ok p s => ⟨s, some p, none⟩
        | .error _ s => ⟨s, none, none⟩ := by
    rintro r rfl
    rw [exec, hpayment, hhold]
  rcases Network.checkPayment_cases c.network t.now req with
    ⟨e, he⟩ | ⟨e, he⟩ | ⟨scheme, cycleID, debtor, acct, hc, hok⟩
  · refine h.wait ?_ trivial
    rw [hexec _ he]
    cases c
    cases hpayment
    cases hhold
    rfl
  · -- refused after the id was drawn: nothing is granted
    refine ⟨b, ?_, fun now => ?_⟩
    · rw [hexec _ he]
      exact h.draw fun _ hsome => by cases hsome
    · have hsame : (exec i (t, .check req) c).spare b a now = c.spare b a now := by
        rw [hexec _ he, spare_of_none hpayment]
        exact sub_zero _
      rw [hsame]
      exact ⟨le_rfl, fun henough => iff_of_true henough trivial⟩
  · obtain ⟨rfl, rfl, hle⟩ := h.checks_le hon hc
    refine ⟨debtor, ?_, fun now => ?_⟩
    · rw [hexec _ hok]
      refine h.draw fun p hsome => ?_
      cases hsome
      exact ⟨hon.1, rfl, rfl, hc.positive, ⟨_, le_rfl, rfl⟩,
        h.unused _ (Nat.lt_succ_self _)⟩
    · -- what is granted was found available at this very time
      have hgranted : (exec i (t, .check req) c).spare debtor acct now
          = debtor.left acct now - req.amount := by
        rw [hexec _ hok]
        rfl
      rw [hgranted, spare_of_none hpayment]
      refine ⟨sub_le_self _ hc.positive.le, fun _ => iff_of_true ?_ trivial⟩
      rw [h.left_eq now t.now]
      exact sub_nonneg.mpr hle

/-- Every section. -/
theorem advances [IsOrderedAddMonoid Amount] (h : Ready i id a c b)
    {step : Clock × Section Amount} (hon : step.2.On i id) : Advances i id a step c b := by
  obtain ⟨t, sec⟩ := step
  cases sec with
  | check req =>
    cases hpayment : c.payment with
    | some p =>
      refine h.wait ?_ trivial
      rw [exec, hpayment]
    | none =>
      cases hhold : c.hold with
      | some hold =>
        refine h.wait ?_ trivial
        rw [exec, hpayment, hhold]
      | none => exact h.check hpayment hhold t hon
  | post =>
    cases hpayment : c.payment with
    | none =>
      refine h.wait ?_ trivial
      rw [exec, hpayment]
    | some p => exact h.post hpayment t
  | read req =>
    cases hhold : c.hold with
    | some hold =>
      refine h.wait ?_ trivial
      rw [exec, hhold]
    | none => exact h.read hhold t hon
  | record =>
    cases hhold : c.hold with
    | none =>
      refine h.wait ?_ ?_
      · rw [exec, hhold]
      · rw [HoldLeaves, hhold]
        simp
    | some hold =>
      obtain ⟨req, acct, book⟩ := hold
      exact h.record hhold t

end Ready

/-! ## Whole runs -/

/-- The account has enough for what is granted. -/
def Covered (i : ParticipantID) (id : Deposit.AccountID) (a : Deposit.Account Amount)
    (now : Time) (c : Interleaved Amount) : Prop :=
  ∃ b, Ready i id a c b ∧ 0 ≤ c.spare b a now

/-- When nothing is granted, it has enough if its available balance is not negative. -/
theorem Ready.covered_iff (h : Ready i id a c b) (hidle : c.payment = none) (now later : Time) :
    Covered i id a later c ↔
      ∃ balance ∈ c.network.balanceAt i id now, 0 ≤ balance.available := by
  have hspare : c.spare b a later = b.left a now :=
    (spare_of_none hidle ..).trans (h.left_eq later now)
  rw [h.balanceAt_eq now]
  constructor
  · rintro ⟨b', h', henough⟩
    cases h.bank.symm.trans h'.bank
    exact ⟨_, rfl, hspare ▸ henough⟩
  · rintro ⟨balance, hbalance, henough⟩
    cases hbalance
    exact ⟨b, h, hspare.symm ▸ henough⟩

section

variable [IsOrderedAddMonoid Amount]

/-- For every interleaving of payments from an account and holds on it: if the account is not
overdrawn beyond its limit before, and its holds do not expire, it is not when all calls have
returned exactly if each hold leaves, when it is recorded, what a payment under way has been
granted. -/
theorem available_iff_holdLeaves (start : Clock)
    (steps : List (Clock × Network.Op Amount)) {i : ParticipantID} {b : Participant Amount}
    {id : Deposit.AccountID} {a : Deposit.Account Amount}
    (hb : (Network.reached start steps).participants.lookup i = some b)
    (ha : b.deposit.accounts.lookup id = some a) (hforever : b.deposit.Lasting id) (now : Time)
    (hcovered : ∃ balance ∈ (Network.reached start steps).balanceAt i id now,
      0 ≤ balance.available)
    (sections : List (Clock × Section Amount)) (hon : ∀ step ∈ sections, step.2.On i id)
    (hidle : (run (exec i) (Interleaved.start (Network.reached start steps)) sections).Idle)
    (later : Time) :
    (∃ balance ∈ (run (exec i) (Interleaved.start (Network.reached start steps))
      sections).network.balanceAt i id later, 0 ≤ balance.available) ↔
      Along (exec i) (HoldLeaves i id) (Interleaved.start (Network.reached start steps))
        sections := by
  have hready := Ready.start (Network.wf_reached start steps) hb ha hforever
  have hinv : ∀ step c, step.2.On i id → (∃ b, Ready i id a c b) →
      ∃ b, Ready i id a (exec i step c) b := by
    rintro step c hon ⟨b, h⟩
    obtain ⟨b', h', -⟩ := h.advances hon
    exact ⟨b', h'⟩
  -- what is spare never grows, so a run that ends covered was covered throughout
  have hback : ∀ step c, step.2.On i id → (∃ b, Ready i id a c b) →
      Covered i id a later (exec i step c) → Covered i id a later c := by
    rintro step c hon ⟨b, h⟩ ⟨b', h', henough⟩
    obtain ⟨b'', h'', hspare⟩ := h.advances hon
    cases h'.bank.symm.trans h''.bank
    exact ⟨b, h, henough.trans (hspare later).1⟩
  -- a section keeps it covered exactly if its hold leaves enough
  have hstep : ∀ step c, step.2.On i id → (∃ b, Ready i id a c b) → Covered i id a later c →
      (Covered i id a later (exec i step c) ↔ HoldLeaves i id c step) := by
    rintro step c hon - ⟨b, h, henough⟩
    obtain ⟨b', h', hspare⟩ := h.advances hon
    rw [← (hspare later).2 henough]
    constructor
    · rintro ⟨b'', h'', henough'⟩
      cases h'.bank.symm.trans h''.bank
      exact henough'
    · exact fun henough' => ⟨b', h', henough'⟩
  obtain ⟨b', hend⟩ := Along.invariant (fun step c h hstep => hinv step c hstep h)
    ⟨b, hready⟩ (Along.of_forall hon (Interleaved.start (Network.reached start steps)))
  rw [← hend.covered_iff hidle.1 later later]
  exact along_iff_end hinv hback hstep ⟨b, hready⟩
    ((hready.covered_iff rfl now later).mpr hcovered) hon

end

/-! ## A hold between the check and the posting -/

open Network (reached noon)

/-- Alice has 100 at bank A. -/
def funded : List (Clock × Network.Op ℤ) :=
  [.addParticipant "A", .addParticipant "B", .openCustomerAccount ⟨"bank_1"⟩ "Alice",
    .openCustomerAccount ⟨"bank_2"⟩ "Bob", .deposit ⟨"bank_1"⟩ ⟨"dep_1"⟩ 100 "cash",
    .openCycle Scheme.sct.id].map fun op => (noon, op)

/-- No holds are on her account. -/
theorem funded_alice : ∃ b a,
    (reached noon funded).participants.lookup ⟨"bank_1"⟩ = some b ∧
      b.deposit.accounts.lookup ⟨"dep_1"⟩ = some a ∧ b.deposit.Lasting ⟨"dep_1"⟩ := by
  obtain ⟨b, hb⟩ := Option.isSome_iff_exists.mp (show
    ((reached noon funded).participants.lookup ⟨"bank_1"⟩).isSome by decide +kernel)
  have haccount : (((reached noon funded).participants.lookup ⟨"bank_1"⟩).bind fun b =>
      b.deposit.accounts.lookup ⟨"dep_1"⟩).isSome := by
    decide +kernel
  have hholds : ((reached noon funded).participants.lookup ⟨"bank_1"⟩).map (fun b =>
      (b.deposit.accountHolds.lookup ⟨"dep_1"⟩).getD []) = some [] := by
    decide +kernel
  rw [hb, Option.bind_some] at haccount
  rw [hb, Option.map_some, Option.some.injEq] at hholds
  obtain ⟨a, ha⟩ := Option.isSome_iff_exists.mp haccount
  refine ⟨b, a, hb, ha, fun k hk => ?_⟩
  rw [hholds] at hk
  cases hk

/-- She pays an amount, and between the check and the posting the same amount is held. -/
def payAndHold (amount : ℤ) : List (Clock × Section ℤ) :=
  [.check
      { scheme := Scheme.sct.id
        debtor := { participant := ⟨"bank_1"⟩, account := ⟨"dep_1"⟩ }
        creditor := { participant := ⟨"bank_2"⟩, account := ⟨"dep_1"⟩ }
        amount := amount },
    .read { accountID := ⟨"dep_1"⟩, amount := amount },
    .record, .post].map fun sec => (noon, sec)

theorem payAndHold_on (amount : ℤ) :
    ∀ step ∈ payAndHold amount, step.2.On ⟨"bank_1"⟩ ⟨"dep_1"⟩ := by
  simp [payAndHold, Section.On, Time.IsZero, Time.zero]

/-- Of 60 each, both are accepted. -/
theorem hold_takes_payment :
    ¬∀ (start : Clock) (steps : List (Clock × Network.Op ℤ)) (i : ParticipantID)
        (id : Deposit.AccountID) (b : Participant ℤ) (a : Deposit.Account ℤ) (now later : Time)
        (sections : List (Clock × Section ℤ)),
      (reached start steps).participants.lookup i = some b →
      b.deposit.accounts.lookup id = some a → b.deposit.Lasting id →
      (∃ balance ∈ (reached start steps).balanceAt i id now, 0 ≤ balance.available) →
      (∀ step ∈ sections, step.2.On i id) →
      (run (exec i) (Interleaved.start (reached start steps)) sections).Idle →
      ∃ balance ∈ (run (exec i) (Interleaved.start (reached start steps))
        sections).network.balanceAt i id later, 0 ≤ balance.available := by
  intro hall
  obtain ⟨b, a, hb, ha, hforever⟩ := funded_alice
  obtain ⟨balance, hbalance, henough⟩ := hall noon funded _ _ b a noon.now noon.now
    (payAndHold 60) hb ha hforever (by decide +kernel) (payAndHold_on 60) (by decide +kernel)
  have hend : (run (exec ⟨"bank_1"⟩) (Interleaved.start (reached noon funded))
      (payAndHold 60)).network.balanceAt ⟨"bank_1"⟩ ⟨"dep_1"⟩ noon.now
        = some ⟨40, 60, -20⟩ := by
    decide +kernel
  cases hend.symm.trans hbalance
  exact absurd henough (by decide)

/-- Of 40 each, the hold leaves enough for the payment. -/
theorem hold_leaves_payment :
    ∃ balance ∈ (run (exec ⟨"bank_1"⟩) (Interleaved.start (reached noon funded))
      (payAndHold 40)).network.balanceAt ⟨"bank_1"⟩ ⟨"dep_1"⟩ noon.now,
        0 ≤ balance.available := by
  obtain ⟨b, a, hb, ha, hforever⟩ := funded_alice
  exact (available_iff_holdLeaves noon funded hb ha hforever noon.now (by decide +kernel)
    (payAndHold 40) (payAndHold_on 40) (by decide +kernel) noon.now).mpr (by decide +kernel)

end Interleaved

end CoreBanking.Payment
