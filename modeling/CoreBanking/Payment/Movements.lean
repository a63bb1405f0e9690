import CoreBanking.Ledger.Postings
import CoreBanking.Payment.Balances
import CoreBanking.Payment.Lifecycle
import Mathlib.Algebra.Order.Group.Int

/-!
# The customer movements of a network

`Network.movements` is the multiset of the debits and credits on the ledger accounts behind the
customers' deposit accounts that are posted between two states.

- `Op.customerMovements`: the movements of each operation of the network, and
  `Change.movements`: a call that goes through makes these and no others;
- `Network.Authorised`: the deposit layer would let a movement through;
- `movements_reached`: it is asked when a payment is initiated, and only then.
-/

namespace CoreBanking.Payment

open Ledger (Book Direction Entry PostTransactionRequest Transaction newEntries transfer)
open Deposit (Register)

/-- An amount moved on the ledger account behind a deposit account. -/
structure Movement (Amount : Type) where
  participant : ParticipantID
  account : Deposit.AccountID
  direction : Direction
  amount : Amount
deriving DecidableEq

variable {Amount : Type}

/-- An amount moved on the account of a party. -/
def PartyRef.movement (ref : PartyRef) (direction : Direction) (amount : Amount) :
    Movement Amount :=
  ⟨ref.participant, ref.account, direction, amount⟩

/-- What an entry on the account for a role moves for the customers of bank `i`. -/
def Role.movements (i : ParticipantID) (direction : Direction) (amount : Amount) :
    Role → Multiset (Movement Amount)
  | .customer id => {⟨i, id, direction, amount⟩}
  | _ => 0

/-- What a transfer between two accounts of bank `i` moves for its customers. -/
def transferMovements (i : ParticipantID) (source target : Role) (amount : Amount) :
    Multiset (Movement Amount) :=
  source.movements i .debit amount + target.movements i .credit amount

/-! ## The customers of a bank -/

namespace Participant

variable {b : Participant Amount}

/-- What some entries move for the customers of a bank. -/
def movementsOf (b : Participant Amount) (i : ParticipantID) (entries : Multiset (Entry Amount)) :
    Multiset (Movement Amount) :=
  b.deposit.accounts.sum fun id acct =>
    (entries.filter fun e => e.accountID = acct.glAccount).map fun e =>
      ⟨i, id, e.direction, e.amount⟩

@[simp] theorem movementsOf_zero (b : Participant Amount) (i : ParticipantID) :
    b.movementsOf i 0 = 0 :=
  Finmap.sum_eq_zero fun _ _ _ => rfl

theorem movementsOf_add (b : Participant Amount) (i : ParticipantID)
    (entries entries' : Multiset (Entry Amount)) :
    b.movementsOf i (entries + entries')
      = b.movementsOf i entries + b.movementsOf i entries' := by
  rw [movementsOf, movementsOf, movementsOf, ← Finmap.sum_add]
  refine Finmap.sum_congr fun id acct _ => ?_
  rw [Multiset.filter_add, Multiset.map_add]

variable [AddCommGroup Amount] [LinearOrder Amount]

/-- An entry on the account for a role. -/
theorem Chart.movementsOf_entry (h : b.Chart) (i : ParticipantID) {role : Role} {e : Entry Amount}
    (hrole : b.accountOf role = some e.accountID) :
    b.movementsOf i {e} = role.movements i e.direction e.amount := by
  -- no other customer has the account
  have hother : ∀ id acct, b.deposit.accounts.lookup id = some acct → role ≠ .customer id →
      (Multiset.filter (fun e => e.accountID = acct.glAccount) {e}).map
        (fun e => (⟨i, id, e.direction, e.amount⟩ : Movement Amount)) = 0 := by
    intro id acct hacct hne
    have haccount := accountOf_customer hacct
    rw [Multiset.filter_singleton, if_neg (mt (h.accountOf_eq_iff hrole haccount).mp hne),
      Multiset.empty_eq_zero, Multiset.map_zero]
  cases role with
  | customer id =>
    obtain ⟨acct, hacct, hgl⟩ := Option.map_eq_some_iff.mp hrole
    rw [movementsOf, Finmap.sum_eq_single hacct fun id' acct' hacct' hne =>
      hother id' acct' hacct' fun heq => hne (Role.customer.inj heq).symm]
    rw [Multiset.filter_singleton, if_pos hgl.symm, Multiset.map_singleton, Role.movements]
  | suspense => exact Finmap.sum_eq_zero fun id acct hacct => hother id acct hacct (by simp)
  | reserve => exact Finmap.sum_eq_zero fun id acct hacct => hother id acct hacct (by simp)

/-- A transfer between the accounts for two roles. -/
theorem Chart.movementsOf_transfer (h : b.Chart) (i : ParticipantID) {source target : Role}
    {debit credit : Ledger.AccountID} (hsource : b.accountOf source = some debit)
    (htarget : b.accountOf target = some credit) (amount : Amount) :
    b.movementsOf i ↑(transfer debit credit amount) = transferMovements i source target amount := by
  have hentries : (↑(transfer debit credit amount) : Multiset (Entry Amount))
      = {⟨⟨""⟩, debit, amount, .debit⟩} + {⟨⟨""⟩, credit, amount, .credit⟩} := rfl
  rw [hentries, movementsOf_add, h.movementsOf_entry i hsource, h.movementsOf_entry i htarget]
  rfl

end Participant

namespace Network

/-- The transactions on the ledger of a bank. -/
def transactionsOf (s : Network Amount) (i : ParticipantID) :
    GoMap Ledger.TransactionID (Transaction Amount) :=
  (s.participants.lookup i).elim ∅ fun b => b.ledger.transactions

theorem transactionsOf_eq {s : Network Amount} {i : ParticipantID} {b : Participant Amount}
    (hb : s.participants.lookup i = some b) : s.transactionsOf i = b.ledger.transactions := by
  rw [transactionsOf, hb]
  rfl

/-- The customer movements that are posted between two states, as often as they are posted. -/
def movements (s s' : Network Amount) : Multiset (Movement Amount) :=
  s'.participants.sum fun i b =>
    b.movementsOf i (newEntries (s.transactionsOf i) b.ledger.transactions)

/-- The later network has the same banks with the same customers, and their ledgers keep
what they have posted. -/
structure Keeps (s s' : Network Amount) : Prop where
  bank : ∀ i b, s.participants.lookup i = some b → ∃ b',
    s'.participants.lookup i = some b' ∧ b'.deposit.accounts = b.deposit.accounts ∧
      b.ledger.Keeps b'.ledger
  old : ∀ i b', s'.participants.lookup i = some b' →
    ∃ b, s.participants.lookup i = some b

section Stretches

variable {s t u : Network Amount}

theorem Keeps.of_eq (h : t.participants = s.participants) : s.Keeps t where
  bank _ b hb := ⟨b, h ▸ hb, rfl, .of_eq rfl⟩
  old _ b hb := ⟨b, h ▸ hb⟩

theorem Keeps.trans (h : s.Keeps t) (h' : t.Keeps u) : s.Keeps u where
  bank i b hb := by
    obtain ⟨bt, hbt, haccounts, hkeeps⟩ := h.bank i b hb
    obtain ⟨bu, hbu, haccounts', hkeeps'⟩ := h'.bank i bt hbt
    exact ⟨bu, hbu, haccounts'.trans haccounts, hkeeps.trans hkeeps'⟩
  old i b hb := by
    obtain ⟨bt, hbt⟩ := h'.old i b hb
    exact h.old i bt hbt

/-- Movements are posted in the banks. -/
theorem movements_congr (h : u.participants = t.participants) :
    s.movements u = s.movements t := by
  rw [movements, movements, h]

/-- Nothing is moved if no bank with customers has posted. -/
theorem movements_eq_zero (h : ∀ i b', t.participants.lookup i = some b' →
    b'.deposit.accounts = ∅ ∨ ∃ b, s.participants.lookup i = some b ∧
      b'.ledger.transactions = b.ledger.transactions) :
    s.movements t = 0 := by
  refine Finmap.sum_eq_zero fun i b' hb' => ?_
  rcases h i b' hb' with hnobody | ⟨b, hb, hsame⟩
  · rw [Participant.movementsOf, hnobody, Finmap.sum_empty]
  · rw [transactionsOf_eq hb, hsame, Ledger.newEntries_self, Participant.movementsOf_zero]

theorem movements_of_eq (h : t.participants = s.participants) : s.movements t = 0 :=
  movements_eq_zero fun _ b' hb' => .inr ⟨b', h ▸ hb', rfl⟩

/-- What is moved in two stretches. -/
theorem Keeps.movements_eq (h : s.Keeps t) (h' : t.Keeps u) :
    s.movements u = s.movements t + t.movements u := by
  have hfirst : s.movements t = u.participants.sum fun i b =>
      b.movementsOf i (newEntries (s.transactionsOf i) (t.transactionsOf i)) := by
    refine (Finmap.sum_eq_of_subset (fun i b hb => ?_) fun i b hb hnone => ?_).symm
    · obtain ⟨b', hb', haccounts, -⟩ := h'.bank i b hb
      refine ⟨b', hb', ?_⟩
      rw [transactionsOf_eq hb, Participant.movementsOf, Participant.movementsOf, haccounts]
    · obtain ⟨b', hb'⟩ := h'.old i b hb
      exact absurd (Finmap.mem_of_lookup_eq_some hb') hnone
  rw [hfirst, movements, movements, ← Finmap.sum_add]
  refine Finmap.sum_congr fun i b hb => ?_
  obtain ⟨bt, hbt⟩ := h'.old i b hb
  obtain ⟨bs, hbs⟩ := h.old i bt hbt
  obtain ⟨bt', hbt', -, hkeeps⟩ := h.bank i bs hbs
  cases hbt.symm.trans hbt'
  obtain ⟨b', hb', -, hkeeps'⟩ := h'.bank i bt hbt
  cases hb.symm.trans hb'
  rw [transactionsOf_eq hbs, transactionsOf_eq hbt, hkeeps.newEntries_eq hkeeps',
    Participant.movementsOf_add]

end Stretches

/-! ## Single postings -/

section Postings

variable [AddCommGroup Amount] [LinearOrder Amount] {s : Network Amount} {now : Time}
  {i : ParticipantID} {b : Participant Amount}

omit [AddCommGroup Amount] [LinearOrder Amount] in
/-- The ledger of one bank goes on. -/
theorem Keeps.setLedger (hb : s.participants.lookup i = some b) {book : Book Amount}
    (h : b.ledger.Keeps book) : s.Keeps (s.setParticipant i (b.withLedger book)) where
  bank j c hc := by
    rw [setParticipant_lookup]
    split
    · next heq =>
      subst heq
      cases hb.symm.trans hc
      exact ⟨_, rfl, rfl, h⟩
    · exact ⟨c, hc, rfl, .of_eq rfl⟩
  old j c hc := by
    rw [setParticipant_lookup] at hc
    split at hc
    · next heq => exact ⟨b, heq ▸ hb⟩
    · exact ⟨c, hc⟩

/-- What is moved when the ledger of one bank goes on by a transfer between two of its
accounts. -/
theorem Banks.movements_setLedger (h : s.Banks) (hb : s.participants.lookup i = some b)
    (source target : Role) {debit credit : Ledger.AccountID} {amount : Amount}
    (hsource : b.accountOf source = some debit) (htarget : b.accountOf target = some credit)
    {book : Book Amount} (hnew : newEntries b.ledger.transactions book.transactions
      = ↑(transfer debit credit amount)) :
    s.movements (s.setParticipant i (b.withLedger book))
      = transferMovements i source target amount := by
  have hset : (s.setParticipant i (b.withLedger book)).participants.lookup i
      = some (b.withLedger book) := by
    rw [setParticipant_lookup, if_pos rfl]
  rw [movements, Finmap.sum_eq_single hset]
  · rw [transactionsOf_eq hb]
    exact (congrArg (b.movementsOf i) hnew).trans
      ((h.bank i b hb).chart.movementsOf_transfer i hsource htarget amount)
  · -- the other banks post nothing
    intro j c hc hne
    rw [setParticipant_lookup, if_neg hne] at hc
    rw [transactionsOf_eq hc, Ledger.newEntries_self, Participant.movementsOf_zero]

theorem Banks.keeps_posted (h : s.Banks) (hb : s.participants.lookup i = some b)
    (req : PostTransactionRequest Amount) : s.Keeps (s.posted now i b req) :=
  .setLedger hb ((h.bank i b hb).ledger.keeps_record now req)

/-- A posting of a transfer. -/
theorem Banks.movements_posted (h : s.Banks) (hb : s.participants.lookup i = some b)
    (source target : Role) {debit credit : Ledger.AccountID} {amount : Amount}
    {req : PostTransactionRequest Amount} (hsource : b.accountOf source = some debit)
    (htarget : b.accountOf target = some credit)
    (hentries : req.entries = transfer debit credit amount) :
    s.movements (s.posted now i b req) = transferMovements i source target amount :=
  h.movements_setLedger hb source target hsource htarget
    ((h.bank i b hb).ledger.newEntries_transfer hentries)

/-- The reversal of a transfer. -/
theorem Banks.movements_reversed (h : s.Banks) (hb : s.participants.lookup i = some b)
    (source target : Role) {debit credit : Ledger.AccountID} {amount : Amount}
    {txID : Ledger.TransactionID} {original : Transaction Amount}
    (hsource : b.accountOf source = some debit)
    (htarget : b.accountOf target = some credit)
    (hmoves : original.Moves debit credit amount)
    (hstored : b.ledger.transactions.lookup txID = some original) (description : String) :
    s.movements (s.reversed now i b txID original description)
      = transferMovements i target source amount :=
  h.movements_setLedger hb target source htarget hsource
    ((h.bank i b hb).ledger.newEntries_reversal hstored hmoves now description)

end Postings

/-! ## Settlements -/

section Settlements

variable [AddCommGroup Amount] [LinearOrder Amount] {s : Network Amount} {now : Time}
  {c : ClearingCycle Amount}

/-- The mirrors of a settlement move nothing for customers. -/
theorem Banks.movements_mirrors (h : s.Banks) {l : List (ParticipantID × Amount)}
    (hmirrors : Along (withMirror now c) (MirrorAccepted c) s l) :
    s.Keeps (run (withMirror now c) s l) ∧ s.movements (run (withMirror now c) s l) = 0 := by
  let Inv (t : Network Amount) : Prop := t.Banks ∧ s.Keeps t ∧ s.movements t = 0
  have hstep : ∀ d t, Inv t → MirrorAccepted c t d → Inv (withMirror now c d t) := by
    rintro d t ⟨hbanks, hkeeps, hnone⟩ hmirror
    rcases withMirror_cases now hmirror with ⟨-, heq⟩ | ⟨b, -, hb, hacc, heq⟩
    · rw [heq]
      exact ⟨hbanks, hkeeps, hnone⟩
    · -- between suspense and reserve, one way or the other
      have hposted : t.Keeps (t.posted now d.1 b (mirrorRequest c d.1 b d.2)) :=
        hbanks.keeps_posted hb _
      have hinternal : t.movements (t.posted now d.1 b (mirrorRequest c d.1 b d.2)) = 0 := by
        by_cases hnet : 0 < d.2
        · have hentries : (mirrorRequest c d.1 b d.2).entries
              = transfer b.reserveAccount b.suspenseAccount d.2 := if_pos hnet
          rw [hbanks.movements_posted hb .reserve .suspense rfl rfl hentries]
          rfl
        · have hentries : (mirrorRequest c d.1 b d.2).entries
              = transfer b.suspenseAccount b.reserveAccount (-d.2) := if_neg hnet
          rw [hbanks.movements_posted hb .suspense .reserve rfl rfl hentries]
          rfl
      rw [heq]
      refine ⟨hbanks.posted hb hacc (mirrorRequest_declared _ _ _ _), hkeeps.trans hposted, ?_⟩
      rw [hkeeps.movements_eq hposted, hnone, hinternal, add_zero]
  exact (hmirrors.invariant hstep ⟨h, .of_eq rfl, movements_of_eq rfl⟩).2

omit [AddCommGroup Amount] [LinearOrder Amount] in
/-- What the payees of some payments are paid. -/
def credits (payments : GoMap PaymentID (Payment Amount)) (ids : List PaymentID) :
    Multiset (Movement Amount) :=
  ↑(ids.flatMap fun pid =>
    (payments.lookup pid).toList.map fun p => p.creditor.movement .credit p.amount)

omit [AddCommGroup Amount] [LinearOrder Amount] in
theorem credits_cons {payments : GoMap PaymentID (Payment Amount)} {pid : PaymentID}
    {p : Payment Amount} (hp : payments.lookup pid = some p) (ids : List PaymentID) :
    credits payments (pid :: ids)
      = {p.creditor.movement .credit p.amount} + credits payments ids := by
  rw [credits, List.flatMap_cons, hp]
  rfl

omit [AddCommGroup Amount] [LinearOrder Amount] in
theorem credits_relabel {payments payments' : GoMap PaymentID (Payment Amount)}
    (h : Relabels payments payments') (ids : List PaymentID) :
    credits payments' ids = credits payments ids := by
  have hone : ∀ pid, (payments'.lookup pid).map (fun p => p.creditor.movement .credit p.amount)
      = (payments.lookup pid).map fun p => p.creditor.movement .credit p.amount := by
    intro pid
    cases hp' : payments'.lookup pid with
    | some p' =>
      obtain ⟨p, hp, hterms⟩ := h.origin hp'
      rw [hp, hterms]
      rfl
    | none =>
      cases hp : payments.lookup pid with
      | none => rfl
      | some p =>
        obtain ⟨p', hkept, -⟩ := h.kept hp
        cases hkept.symm.trans hp'
  simp only [credits, ← Option.toList_map, hone]

/-- A creditor leg pays the creditor. -/
theorem Creditable.movements {pid : PaymentID} {p : Payment Amount}
    {creditor : Participant Amount} {acct : Deposit.Account Amount}
    (hc : s.Creditable pid p creditor acct) (h : s.Banks) (now : Time) :
    s.Keeps (s.withCreditorLeg now pid) ∧
      s.movements (s.withCreditorLeg now pid)
        = {p.creditor.movement .credit p.amount} := by
  have hbank := hc.creditor_exists.bank
  have htarget : creditor.accountOf (.customer p.creditor.account) = some acct.glAccount :=
    Participant.accountOf_customer hc.creditor_exists.account
  rw [withCreditorLeg_eq hc.stored hc.creditor_exists]
  constructor
  · exact (h.keeps_posted hbank _).trans (.of_eq rfl)
  · have hposted : s.movements (s.posted now p.creditor.participant creditor
        (creditRequest p creditor acct.glAccount))
          = transferMovements p.creditor.participant .suspense
            (.customer p.creditor.account) p.amount :=
      h.movements_posted hbank _ _ rfl htarget rfl
    exact (movements_congr rfl).trans (hposted.trans (zero_add _))

/-- The creditor legs of a settlement pay the creditors of its payments. -/
theorem movements_creditors {ids : List PaymentID}
    (hlegs : Along (withCreditorLeg now) CreditorPaid s ids) :
    s.Keeps (run (withCreditorLeg now) s ids) ∧
      s.movements (run (withCreditorLeg now) s ids) = credits s.payments ids := by
  induction ids generalizing s with
  | nil =>
    exact ⟨.of_eq rfl, movements_of_eq rfl⟩
  | cons pid ids ih =>
    obtain ⟨⟨hcore, p, creditor, acct, hc⟩, hlegs'⟩ := hlegs
    obtain ⟨hkeeps, hpaid⟩ := hc.movements hcore.banks now
    obtain ⟨hkeeps', hrest⟩ := ih hlegs'
    have hterms : p.SameTerms (creditedPayment now p creditor acct.glAccount) := rfl
    have hrelabel : Relabels s.payments (s.withCreditorLeg now pid).payments := by
      rw [withCreditorLeg_eq hc.stored hc.creditor_exists]
      exact .insert hc.stored hterms
    refine ⟨hkeeps.trans hkeeps', ?_⟩
    rw [run, hkeeps.movements_eq hkeeps', hpaid, hrest, credits_relabel hrelabel,
      ← credits_cons hc.stored]

end Settlements

/-! ## Operations -/

section Operations

/-- What an operation moves for customers when it goes through. The operations of the deposit
layers are not the network's own. -/
def Op.customerMovements (s : Network Amount) : Op Amount → Multiset (Movement Amount)
  | .deposit i account amount _ => {⟨i, account, .credit, amount⟩}
  | .initiatePayment req => {req.debtor.movement .debit req.amount}
  | .settleCycle _ _ id =>
    (s.cycles.lookup id).elim 0 fun c => credits s.payments c.paymentIDs
  | .rejectPayment id _ =>
    (s.payments.lookup id).elim 0 fun p => {p.debtor.movement .credit p.amount}
  | .returnPayment id _ =>
    (s.payments.lookup id).elim 0 fun p =>
      {p.debtor.movement .credit p.amount} + {p.creditor.movement .debit p.amount}
  | _ => 0

variable [AddCommGroup Amount] [LinearOrder Amount] {s s' : Network Amount} {now : Time}

/-- Settling the positions moves nothing for customers. -/
theorem PositionsSettled.movements {order₁ order₂ : MapOrder ParticipantID Amount}
    {c : ClearingCycle Amount} {tx : Option Ledger.TransactionID}
    (hp : PositionsSettled now order₁ order₂ c s (.ok tx s')) (h : s.Banks) :
    s.Keeps s' ∧ s.movements s' = 0 := by
  cases hp with
  | nothing => exact ⟨.of_eq rfl, movements_of_eq rfl⟩
  | settled req hreq hacc hmirrors =>
    have hkeeps : s.Keeps (s.cbPosted now req) := .of_eq rfl
    obtain ⟨hkeeps', hnone⟩ := (h.cbSettled hreq hacc).movements_mirrors hmirrors
    refine ⟨hkeeps.trans hkeeps', ?_⟩
    rw [hkeeps.movements_eq hkeeps', hnone, add_zero]
    exact movements_of_eq rfl

/-- A settlement pays the creditors of its cycle. -/
theorem SettleOutcome.movements {order₁ order₂ : MapOrder ParticipantID Amount}
    {id : CycleID} {st : Settlement Amount}
    (ho : SettleOutcome now order₁ order₂ id s (.ok st s')) (h : s.WF) :
    s.movements s'
      = (s.cycles.lookup id).elim 0 fun c => credits s.payments c.paymentIDs := by
  generalize hr : EStateM.Result.ok st s' = r at ho
  cases ho with
  | settled c hc hclosed tx t u hpositions ht hlegs hu =>
    cases hr
    obtain ⟨hkeeps, hnone⟩ := hpositions.movements h.banks
    obtain ⟨hkeeps', hpaid⟩ := movements_creditors hlegs
    have hpayments : t.payments = s.payments := by
      obtain ⟨banks, cb, rfl⟩ := hpositions.frame
      rfl
    have hall : s.movements u = credits s.payments c.paymentIDs := by
      rw [hu, hkeeps.movements_eq hkeeps', hnone, hpaid, hpayments, zero_add]
    refine (movements_congr rfl).trans (hall.trans ?_)
    rw [hc]
    rfl
  | _ => cases hr

/-- A rejection gives the debtor the money back. -/
theorem movements_withRejected (h : s.WF) {id : PaymentID} {p : Payment Amount}
    {reason : String} {debtor : Participant Amount} {txID : Ledger.TransactionID}
    {original : Transaction Amount} (hp : s.payments.lookup id = some p)
    (hst : p.status = .accepted) (hleg : p.debtorLegTx = some txID)
    (hb : s.participants.lookup p.debtor.participant = some debtor)
    (hstored : debtor.ledger.transactions.lookup txID = some original) :
    s.movements (s.withRejected now id p reason debtor txID original)
      = {p.debtor.movement .credit p.amount} := by
  obtain ⟨c, hcyc, -⟩ := h.open_of_accepted hp hst
  obtain ⟨a, hparty, hmoves⟩ := h.legs.debtor_moved h.banks hp hleg hb hstored
  have hreversed : s.movements (s.reversed now p.debtor.participant debtor txID original
      ("Reject payment " ++ p.id.val ++ ": " ++ reason)) = _ :=
    h.banks.movements_reversed hb _ .suspense (Participant.accountOf_customer hparty.account)
      rfl hmoves hstored _
  rw [withRejected_eq hcyc]
  exact (movements_congr rfl).trans (hreversed.trans (zero_add _))

/-- A return gives the debtor the money back and takes it from the creditor. -/
theorem movements_withReturned (h : s.WF) {id : PaymentID} {p : Payment Amount}
    {reason : String} {debtor creditor : Participant Amount}
    {da ca : Deposit.Account Amount} (hr : s.Refundable id p reason debtor da)
    (hparty : (s.withRefund now p reason debtor da.glAccount).Party p.creditor creditor ca) :
    s.movements (s.withReturned now id p reason debtor creditor da.glAccount ca.glAccount)
      = {p.debtor.movement .credit p.amount} + {p.creditor.movement .debit p.amount} := by
  let s₁ := s.withRefund now p reason debtor da.glAccount
  let s₂ := s₁.posted now p.creditor.participant creditor
    (returnCreditRequest p reason creditor ca.glAccount)
  have hbanks₁ : s₁.Banks :=
    h.banks.posted hr.debtor_exists.bank hr.accepts (Ledger.declared_transfer _ _ _)
  have hkeeps : s.Keeps s₁ := h.banks.keeps_posted hr.debtor_exists.bank _
  have hkeeps' : s₁.Keeps s₂ := hbanks₁.keeps_posted hparty.bank _
  have hrefund : s.movements s₁ = {p.debtor.movement .credit p.amount} :=
    (h.banks.movements_posted hr.debtor_exists.bank .reserve _ rfl
      (Participant.accountOf_customer hr.debtor_exists.account) rfl).trans (zero_add _)
  have hclaw : s₁.movements s₂ = {p.creditor.movement .debit p.amount} :=
    (hbanks₁.movements_posted hparty.bank _ .reserve
      (Participant.accountOf_customer hparty.account) rfl rfl).trans (add_zero _)
  -- the settlement at the central bank moves nothing of a customer
  have hboth := hkeeps.movements_eq hkeeps'
  rw [hrefund, hclaw] at hboth
  exact (movements_congr rfl).trans hboth

/-- A call of an operation of the network moves what it is for and nothing else. -/
theorem Change.movements {op : Op Amount} (hc : Change now s op none s') (h : s.WF)
    (hop : ∀ i rop, op ≠ .register i rop) : s.movements s' = op.customerMovements s := by
  -- a call that succeeds: the outcomes that failed do not arise
  generalize hf : (none : Option Err) = failure at hc
  cases hc with
  | refused => cases hf
  | scheme => exact movements_of_eq rfl
  | bank name acct p hnew =>
    refine movements_eq_zero fun i b' hb' => ?_
    rcases (Finmap.lookup_insert_fresh (h.banks.fresh_bank hnew)).mp hb' with ⟨-, rfl⟩ | hold
    · exact .inl hnew.accounts
    · exact .inr ⟨b', hold, rfl⟩
  | register i b rop r hrop hb hc =>
    cases hrop with
    | register => exact absurd rfl (hop i rop)
    | customer name =>
      refine movements_eq_zero fun j c' hc' => .inr ?_
      rw [setParticipant_lookup] at hc'
      split at hc'
      · next heq =>
        subst heq
        cases hc'
        exact ⟨b, hb, hc.transactions_eq (by simp)⟩
      · exact ⟨c', hc', rfl⟩
  | deposit i account amount description b a hpos hb ha hacc hcb =>
    have htarget : b.accountOf (.customer account) = some a.glAccount :=
      Participant.accountOf_customer ha
    have hposted : s.movements (s.posted now i b
        (depositRequest b a.glAccount amount description)) = _ :=
      h.banks.movements_posted hb .reserve _ rfl htarget rfl
    exact (movements_congr rfl).trans (hposted.trans (zero_add _))
  | mandated => exact movements_of_eq rfl
  | revoked => exact movements_of_eq rfl
  | opened => exact movements_of_eq rfl
  | closed => exact movements_of_eq rfl
  | settle order₁ order₂ id r ho =>
    cases r with
    | error e s' => cases hf
    | ok st s' => exact ho.movements h
  | idDrawn => cases hf
  | initiated req scheme cycleID cycle debtor acct hi =>
    have hsource : debtor.accountOf (.customer req.debtor.account) = some acct.glAccount :=
      Participant.accountOf_customer hi.debtor_exists.account
    have hposted : s.movements (s.posted now req.debtor.participant debtor (debitRequest now
        (s.initialPayment now req scheme cycleID) debtor acct.glAccount)) = _ :=
      h.banks.movements_posted hi.debtor_exists.bank _ .suspense hsource rfl rfl
    exact (movements_congr rfl).trans (hposted.trans (add_zero _))
  | rejected id reason p debtor txID original hp hst hleg hb hstored hposted =>
    rw [movements_withRejected h hp hst hleg hb hstored]
    rw [Op.customerMovements, hp]
    rfl
  | refunded => cases hf
  | returned id reason p debtor creditor da ca hr hparty hacc hcb =>
    rw [movements_withReturned h hr hparty]
    rw [Op.customerMovements, hr.stored]
    rfl

end Operations

/-! ## The authority of the deposit layer -/

section Authority

variable [AddCommGroup Amount] [LinearOrder Amount] {s s' : Network Amount} {now : Time}

/-- The deposit layer lets a movement through: a debit takes no more than what an Active
account has available, and a credit goes to an account that is neither Frozen nor Closed. -/
def Authorised (s : Network Amount) (now : Time) (m : Movement Amount) : Prop :=
  ∃ b acct, s.participants.lookup m.participant = some b ∧
    b.deposit.accounts.lookup m.account = some acct ∧
    (m.direction = .debit → acct.status = .active ∧
      ∃ available, b.deposit.available now acct = .ok available ∧ m.amount ≤ available) ∧
    (m.direction = .credit → acct.status ≠ .frozen ∧ acct.status ≠ .closed)

/-- The debit of a payment is authorised when the payment is initiated. -/
theorem Initiates.authorised [IsOrderedAddMonoid Amount]
    {req : InitiatePaymentRequest Amount} {scheme : Scheme} {cycleID : CycleID}
    {cycle : ClearingCycle Amount} {debtor : Participant Amount}
    {acct : Deposit.Account Amount}
    (hi : s.Initiates now req scheme cycleID cycle debtor acct) :
    s.Authorised now (req.debtor.movement .debit req.amount) := by
  -- both schemes end their validation with the check of the funds
  have hcheck : debtor.deposit.checkWithdrawal now req.debtor.account req.amount = .ok () :=
    validate_checks hi.valid hi.debtor_exists.bank
  obtain ⟨a, available, ha, hactive, havailable, hsuff⟩ :=
    Register.checkWithdrawal_eq_ok.mp hcheck
  rw [not_lt, sub_nonneg] at hsuff
  exact ⟨debtor, a, hi.debtor_exists.bank, ha,
    fun _ => ⟨hactive, available, havailable, hsuff⟩, fun hcredit => by cases hcredit⟩

theorem Change.initiates {req : InitiatePaymentRequest Amount}
    (hc : Change now s (.initiatePayment req) none s') :
    ∃ scheme cycleID cycle debtor acct,
      s.Initiates now req scheme cycleID cycle debtor acct := by
  generalize hf : (none : Option Err) = failure at hc
  cases hc with
  | refused => cases hf
  | register i b rop r hop => cases hop
  | idDrawn => cases hf
  | initiated _ scheme cycleID cycle debtor acct hi =>
    exact ⟨scheme, cycleID, cycle, debtor, acct, hi⟩

/-- A payment is new only after it was initiated. -/
theorem Change.payment_new {op : Op Amount} {failure : Option Err}
    (hc : Change now s op failure s') (h : s.WF) {pid : PaymentID} {p : Payment Amount}
    (hnone : s.payments.lookup pid = none) (hp : s'.payments.lookup pid = some p) :
    ∃ req scheme cycleID cycle debtor acct, failure = none ∧ op = .initiatePayment req ∧
      s.Initiates now req scheme cycleID cycle debtor acct ∧
      p.debtor = req.debtor ∧ p.creditor = req.creditor ∧ p.amount = req.amount := by
  -- overwriting a stored payment makes no new one
  have hwrite : ∀ {id : PaymentID} {q q' : Payment Amount},
      s.payments.lookup id = some q → (s.payments.insert id q').lookup pid ≠ some p := by
    intro id q q' hq hsome
    rcases Finmap.lookup_insert_eq_some.mp hsome with ⟨rfl, -⟩ | ⟨-, hold⟩
    · cases hnone.symm.trans hq
    · cases hnone.symm.trans hold
  cases hc with
  | initiated req scheme cycleID cycle debtor acct hi =>
    rcases Finmap.lookup_insert_eq_some.mp hp with ⟨-, rfl⟩ | ⟨-, hold⟩
    · exact ⟨req, scheme, cycleID, cycle, debtor, acct, rfl, rfl, hi, rfl, rfl, rfl⟩
    · cases hnone.symm.trans hold
  | closed id c hcyc hopen =>
    have hp' : (run markCleared s.payments c.paymentIDs).lookup pid = some p := hp
    rw [lookup_markCleared, hnone] at hp'
    cases hp'
  | settle order₁ order₂ id r ho =>
    cases ho with
    | notClosed => cases hnone.symm.trans hp
    | refused => cases hnone.symm.trans hp
    | stuck c hcyc hclosed req hreq hacc pre =>
      obtain ⟨banks, hbanks⟩ := run_withMirror_frame now c pre (s.cbPosted now req)
      rw [Call.state_error, hbanks] at hp
      cases hnone.symm.trans hp
    | settled c hcyc hclosed tx t u hpositions ht hlegs hu =>
      obtain ⟨banks, cb, rfl⟩ := hpositions.frame
      subst hu
      have hpay := lookup_run_withCreditorLeg (h.cycles.nodup id c hcyc) hlegs pid
      by_cases hmem : pid ∈ c.paymentIDs
      · -- the payments that are settled were there
        obtain ⟨q, -, hq, -⟩ := hpay.2 hmem
        cases hnone.symm.trans hq
      · cases hnone.symm.trans ((hpay.1 hmem).symm.trans hp)
  | rejected id reason q debtor txID original hq hst =>
    obtain ⟨c, hcyc, -⟩ := h.open_of_accepted hq hst
    rw [withRejected_eq hcyc] at hp
    exact absurd hp (hwrite hq)
  | returned id reason q debtor creditor da ca hr => exact absurd hp (hwrite hr.stored)
  | _ => cases hnone.symm.trans hp

/-- Every payment goes back to a call of `InitiatePayment`, at which the deposit layer has
authorised its debit. -/
theorem payments_initiated [IsOrderedAddMonoid Amount] (start : Clock)
    (steps : List (Clock × Op Amount)) {pid : PaymentID} {p : Payment Amount}
    (hp : (reached start steps).payments.lookup pid = some p) :
    ∃ pre clock req, pre ++ [(clock, .initiatePayment req)] <+: steps ∧
      Call.failure (call clock.now (.initiatePayment req) (reached start pre)) = none ∧
      req.debtor = p.debtor ∧ req.creditor = p.creditor ∧ req.amount = p.amount ∧
      (reached start pre).Authorised clock.now (p.debtor.movement .debit p.amount) := by
  -- on the last call: the payment was there before it, or it is new
  induction steps using List.reverseRecOn generalizing p with
  | nil =>
    rw [reached, run, payments_newNetwork] at hp
    cases hp
  | append_singleton steps step ih =>
    have hnext : reached start (steps ++ [step]) = exec step (reached start steps) :=
      run_append _ _ _
    rw [hnext] at hp
    have hwf := wf_reached start steps
    have hchange := hwf.call_change step.1.now step.2
    cases hold : (reached start steps).payments.lookup pid with
    | some q =>
      have hev := hchange.evolves hwf pid
      rw [hold] at hev
      change Evolves (some q) ((exec step (reached start steps)).payments.lookup pid) at hev
      rw [hp] at hev
      obtain ⟨pre, clock, req, hpre, hok, hd, hc, ha, hauthorised⟩ := ih hold
      rw [hev.sameTerms]
      exact ⟨pre, clock, req, hpre.trans (List.prefix_append _ _), hok, hd, hc, ha,
        hauthorised⟩
    | none =>
      obtain ⟨req, scheme, cycleID, cycle, debtor, acct, hok, hop, hi, hd, hc, ha⟩ :=
        hchange.payment_new hwf hold hp
      obtain ⟨clock, op⟩ := step
      dsimp only at hop
      subst hop
      refine ⟨steps, clock, req, List.prefix_rfl, hok, hd.symm, hc.symm, ha.symm, ?_⟩
      rw [hd, ha]
      exact hi.authorised

/-- **The deposit layer is asked when a payment is initiated.** -/
theorem movements_reached [IsOrderedAddMonoid Amount] (start : Clock)
    (steps : List (Clock × Op Amount)) (clock : Clock) {op : Op Amount}
    (hop : ∀ i rop, op ≠ .register i rop) {s' : Network Amount}
    (hok : call clock.now op (reached start steps) = .ok () s') :
    let s := reached start steps
    s.movements s' = op.customerMovements s ∧
      (∀ req, op = .initiatePayment req → ∀ m ∈ s.movements s', s.Authorised clock.now m) ∧
      ∀ pid p, s.payments.lookup pid = some p →
        ∃ pre earlier req, pre ++ [(earlier, .initiatePayment req)] <+: steps ∧
          Call.failure (call earlier.now (.initiatePayment req) (reached start pre)) = none ∧
          req.debtor = p.debtor ∧ req.creditor = p.creditor ∧ req.amount = p.amount ∧
          (reached start pre).Authorised earlier.now (p.debtor.movement .debit p.amount) := by
  intro s
  have hwf : s.WF := wf_reached start steps
  have hchange : Change clock.now s op none s' := by
    have hc := hwf.call_change clock.now op
    rw [Changes, hok] at hc
    exact hc
  have hmoved := hchange.movements hwf hop
  refine ⟨hmoved, ?_, fun pid p hp => payments_initiated start steps hp⟩
  rintro req rfl m hm
  rw [hmoved] at hm
  cases Multiset.mem_singleton.mp hm
  obtain ⟨scheme, cycleID, cycle, debtor, acct, hi⟩ := hchange.initiates
  exact hi.authorised

/-- Bob pays on what he got from Alice, and Alice's account is frozen. -/
def frozenDay : List (Clock × Op ℤ) :=
  let alice : PartyRef := { participant := ⟨"bank_1"⟩, account := ⟨"dep_1"⟩ }
  let bob : PartyRef := { participant := ⟨"bank_2"⟩, account := ⟨"dep_1"⟩ }
  let transfer (debtor creditor : PartyRef) : Op ℤ :=
    .initiatePayment
      { scheme := Scheme.sct.id, debtor := debtor, creditor := creditor, amount := 40 }
  [.addParticipant "A", .addParticipant "B",
    .openCustomerAccount alice.participant "Alice",
    .openCustomerAccount bob.participant "Bob",
    .deposit alice.participant alice.account 100 "cash",
    .openCycle Scheme.sct.id, transfer alice bob, .closeCycle ⟨"cyc_3"⟩,
    .settleCycle .byKey .byKey ⟨"cyc_3"⟩, .openCycle Scheme.sct.id, transfer bob alice,
    .register alice.participant (.freeze alice.account)].map fun op => (noon, op)

/-- Her payment of 40 can be returned. -/
theorem movements_frozenReturn : ∃ s',
    call noon.now (.returnPayment ⟨"pay_4"⟩ "fraud") (reached noon frozenDay) = .ok () s' ∧
      ⟨⟨"bank_1"⟩, ⟨"dep_1"⟩, .credit, 40⟩ ∈ (reached noon frozenDay).movements s' ∧
      ⟨⟨"bank_2"⟩, ⟨"dep_1"⟩, .debit, 40⟩ ∈ (reached noon frozenDay).movements s' :=
  ⟨_, Call.eq_ok_of_failure (by decide +kernel), by decide +kernel, by decide +kernel⟩

/-- The return of Alice's payment credits her frozen account, and debits the account of Bob,
who has nothing left. -/
theorem return_unauthorised :
    (¬∀ (start : Clock) (steps : List (Clock × Op ℤ)) (clock : Clock) (op : Op ℤ)
        (s' : Network ℤ), (∀ i rop, op ≠ .register i rop) →
      call clock.now op (reached start steps) = .ok () s' →
        ∀ m ∈ (reached start steps).movements s', m.direction = .credit →
          (reached start steps).Authorised clock.now m) ∧
    ¬∀ (start : Clock) (steps : List (Clock × Op ℤ)) (clock : Clock) (op : Op ℤ)
        (s' : Network ℤ), (∀ i rop, op ≠ .register i rop) →
      call clock.now op (reached start steps) = .ok () s' →
        ∀ m ∈ (reached start steps).movements s', m.direction = .debit →
          (reached start steps).Authorised clock.now m := by
  obtain ⟨s', hok, hcredit, hdebit⟩ := movements_frozenReturn
  constructor
  · intro hall
    obtain ⟨b, a, hb, ha, -, hallowed⟩ :=
      hall noon frozenDay noon _ s' (by simp) hok _ hcredit rfl
    have hfrozen : (((reached noon frozenDay).participants.lookup ⟨"bank_1"⟩).bind fun b =>
        (b.deposit.accounts.lookup ⟨"dep_1"⟩).map (·.status)) = some .frozen := by
      decide +kernel
    rw [hb, Option.bind_some, ha, Option.map_some, Option.some.injEq] at hfrozen
    exact (hallowed rfl).1 hfrozen
  · intro hall
    obtain ⟨b, a, hb, ha, hallowed, -⟩ :=
      hall noon frozenDay noon _ s' (by simp) hok _ hdebit rfl
    -- the payee has nothing available
    have hempty : (((reached noon frozenDay).participants.lookup ⟨"bank_2"⟩).bind fun b =>
        (b.deposit.accounts.lookup ⟨"dep_1"⟩).map fun a => b.deposit.available noon.now a)
          = some (.ok 0) := by
      decide +kernel
    rw [hb, Option.bind_some, ha, Option.map_some, Option.some.injEq] at hempty
    obtain ⟨-, available, havailable, hle⟩ := hallowed rfl
    cases hempty.symm.trans havailable
    exact absurd hle (by decide)

/-- Alice may pay 40 of her 100. -/
theorem movements_frozenDay :
    let s := reached noon (frozenDay.take 6)
    let req : InitiatePaymentRequest ℤ :=
      { scheme := Scheme.sct.id
        debtor := { participant := ⟨"bank_1"⟩, account := ⟨"dep_1"⟩ }
        creditor := { participant := ⟨"bank_2"⟩, account := ⟨"dep_1"⟩ }
        amount := 40 }
    s.movements (Call.state (call noon.now (.initiatePayment req) s))
        = {⟨⟨"bank_1"⟩, ⟨"dep_1"⟩, .debit, 40⟩} ∧
      s.Authorised noon.now ⟨⟨"bank_1"⟩, ⟨"dep_1"⟩, .debit, 40⟩ := by
  intro s req
  have hok : call noon.now (.initiatePayment req) s
      = .ok () (Call.state (call noon.now (.initiatePayment req) s)) :=
    Call.eq_ok_of_failure (by decide +kernel)
  obtain ⟨hmoved, hauthorised, -⟩ :=
    movements_reached noon (frozenDay.take 6) noon (by simp) hok
  refine ⟨hmoved, hauthorised req rfl _ ?_⟩
  rw [hmoved]
  exact Multiset.mem_singleton_self _

end Authority

end Network

end CoreBanking.Payment
