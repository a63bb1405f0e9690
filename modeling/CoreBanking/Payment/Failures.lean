import CoreBanking.Payment.Balances
import CoreBanking.Payment.Persistence

/-!
# Calls that stop half way

The postings of a call go to several ledgers one after the other, and there is
no transaction across ledgers, so a posting that a bank refuses leaves those
before it in place. Two operations can stop so:

- `SettleCycle`, after the settlement at the central bank, at the mirror of a
  net payer whose reserve is short (`settleCycle_failed`);
- `ReturnPayment`, after the refund of the debtor, when the reserve of the
  creditor's bank is short (`returnPayment_failed`).

The keys of the postings that were made stay in use, so neither call can ever be
repeated with success (`Stuck.settleCycle_eq`, `Unreturnable.returnPayment_eq`).

The results hold for amounts in any ordered type with a group structure, so for
exact integers and for 64-bit ones alike.
-/

namespace CoreBanking.Payment

open Ledger (Book PostTransactionRequest Transaction)
open Deposit (Register)

variable {Amount : Type} [AddCommGroup Amount] [LinearOrder Amount]

namespace Network

variable {s s' : Network Amount} {now : Time}

/-! ## Settlements -/

/-- The central bank has settled the cycle, which is still recorded as closed. -/
structure Stuck (s : Network Amount) (id : CycleID) (c : ClearingCycle Amount) :
    Prop where
  stored : s.cycles.lookup id = some c
  closed : c.status = .closed
  settled : s.cbKeyed c.id.settleKey ≠ none
  moves : ∃ i net, c.netPositions.lookup i = some net ∧ net ≠ 0
  sized : ∀ i net, c.netPositions.lookup i = some net → net < 0 → 0 < -net

namespace Stuck

variable {id : CycleID} {c : ClearingCycle Amount}

theorem entries_ne_nil (hst : s.Stuck id c) (h : s.WF)
    (order : MapOrder ParticipantID Amount) :
    s.settlementEntries (order.toList c.netPositions) ≠ [] := by
  obtain ⟨i, net, hnet, hne⟩ := hst.moves
  have hmem := h.positions.keys id c hst.stored i (Finmap.mem_of_lookup_eq_some hnet)
  obtain ⟨b, hb⟩ := Finmap.mem_iff.mp hmem
  obtain ⟨e, he, -⟩ := exists_settlementEntry (order.mem_toList.mpr hnet) hne hb
  exact List.ne_nil_of_mem he

/-- The central bank accepts no second settlement. -/
theorem not_accepts (hst : s.Stuck id c) (h : s.WF)
    (entries : List (Ledger.Entry Amount)) :
    ¬s.centralBank.Accepts (settleRequest c entries) := by
  intro hacc
  rcases hacc.key with hempty | hnone
  · exact joinColon_ne_empty _ _ hempty
  · exact hst.settled (h.banks.centralBank.keyed_eq_none.mpr hnone)

/-- Every call of `SettleCycle` fails on the key of the first. -/
theorem settleCycle_eq (hst : s.Stuck id c) (h : s.WF) (now : Time)
    (order₁ order₂ : MapOrder ParticipantID Amount) :
    settleCycle now order₁ order₂ id s
      = .error (.ledger .duplicateIdempotencyKey) s := by
  have ho := h.settleCycle_outcome now order₁ order₂ id
  generalize settleCycle now order₁ order₂ id s = r at ho ⊢
  cases ho with
  | notClosed e he hno => exact absurd hst.closed (hno c hst.stored)
  | refused d hd hclosed e hr =>
    cases hst.stored.symm.trans hd
    have hsized : ∀ d ∈ order₁.toList c.netPositions, d.2 < 0 → 0 < -d.2 :=
      fun d hd => hst.sized d.1 d.2 (order₁.mem_toList.mp hd)
    have hdup : Book.postTransaction now (settleRequest c _) s.centralBank = _ :=
      Book.postTransaction_duplicate hr.entries
        (fun e he => settlementEntries_positive hsized he)
        (fun e he => h.banks.settlementEntries_accounts he) (by
          rw [← h.banks.centralBank.keyed_eq_none, not_or]
          exact ⟨joinColon_ne_empty _ _, hst.settled⟩) now
    cases hdup.symm.trans hr.error
    rfl
  | stuck d hd hclosed req hreq hacc =>
    cases hst.stored.symm.trans hd
    exact absurd (hreq ▸ hacc) (hst.not_accepts h _)
  | settled d hd hclosed tx t u hpositions =>
    cases hst.stored.symm.trans hd
    cases hpositions with
    | nothing hentries => exact absurd hentries (hst.entries_ne_nil h order₁)
    | settled req hreq hacc => exact absurd (hreq ▸ hacc) (hst.not_accepts h _)

/-- No call gets the cycle out of this state. -/
theorem exec (hst : s.Stuck id c) (h : s.WF) (step : Clock × Op Amount) :
    (exec step s).Stuck id c := by
  have hc := h.call_change step.1.now step.2
  refine ⟨?_, hst.closed, (hc.keysKept h).centralBank _ hst.settled, hst.moves, hst.sized⟩
  rcases hc.cycle_kept h hst.stored hst.closed with hkept | ⟨hok, order₁, order₂, hop⟩
  · exact hkept
  · rw [hop, call, Call.failure_discard, hst.settleCycle_eq h] at hok
    cases hok

theorem run (hst : s.Stuck id c) (h : s.WF) (steps : List (Clock × Op Amount)) :
    (run Network.exec s steps).WF ∧ (run Network.exec s steps).Stuck id c := by
  let Inv (t : Network Amount) : Prop := t.WF ∧ t.Stuck id c
  have hstep : ∀ step t, Inv t → Inv (Network.exec step t) :=
    fun step t ht => ⟨exec_wf step t ht.1, ht.2.exec ht.1 step⟩
  exact run_invariant hstep ⟨h, hst⟩ steps

end Stuck

/-- A settlement that stopped at the mirror of `short`, after those of the
positions in `mirrored`. -/
structure HalfSettled (s s' : Network Amount) (order : MapOrder ParticipantID Amount)
    (c : ClearingCycle Amount) (mirrored : List (ParticipantID × Amount))
    (short : ParticipantID × Amount) : Prop where
  visited : ∃ rest, order.toList c.netPositions = mirrored ++ short :: rest
  /-- The bank has to pay on balance, and its reserve does not cover that. -/
  netPayer : short.2 < 0
  reserve : ∃ b, s.participants.lookup short.1 = some b ∧
    b.ledger.balance b.reserveAccount + short.2 < 0
  /-- The positions have moved at the central bank, and those in `mirrored` in the
  ledgers of their banks. -/
  moved : s'.holdings = s.holdings
    + (c.netPositions.sum fun i net => credit (.centralBank i) net)
    + (mirrored.map fun d =>
      credit (.bank d.1 .suspense) d.2 - credit (.bank d.1 .reserve) d.2).sum

omit [LinearOrder Amount] in
/-- Mirrors move nothing of customers. -/
theorem mirrored_customer (l : List (ParticipantID × Amount)) (i : ParticipantID)
    (id : Deposit.AccountID) :
    (l.map fun d => credit (.bank d.1 .suspense) d.2
      - credit (.bank d.1 .reserve) d.2).sum (.bank i (.customer id)) = 0 := by
  induction l with
  | nil => rfl
  | cons d l ih =>
    have hsuspense : credit (.bank d.1 .suspense) d.2 (.bank i (.customer id)) = 0 :=
      credit_role_of_ne (by simp) ..
    have hreserve : credit (.bank d.1 .reserve) d.2 (.bank i (.customer id)) = 0 :=
      credit_role_of_ne (by simp) ..
    rw [List.map_cons, List.sum_cons, Pi.add_apply, ih, Pi.sub_apply, hsuspense, hreserve,
      sub_zero, add_zero]

theorem HalfSettled.customers {order : MapOrder ParticipantID Amount}
    {c : ClearingCycle Amount} {mirrored : List (ParticipantID × Amount)}
    {short : ParticipantID × Amount} (hh : HalfSettled s s' order c mirrored short)
    (i : ParticipantID) (id : Deposit.AccountID) :
    s'.holdings (.bank i (.customer id)) = s.holdings (.bank i (.customer id)) := by
  have hcb : (c.netPositions.sum fun j net => credit (.centralBank j) net)
      (.bank i (.customer id)) = 0 := by
    rw [Finmap.sum_apply]
    exact Finmap.sum_eq_zero fun j net _ => credit_centralBank_bank ..
  rw [hh.moved, Pi.add_apply, Pi.add_apply, hcb, mirrored_customer, add_zero, add_zero]

/-- A call of `SettleCycle` that fails changes nothing, or stops at a mirror. -/
theorem settleCycle_error (h : s.WF) {order₁ order₂ : MapOrder ParticipantID Amount}
    {id : CycleID} {e : Err} (herr : settleCycle now order₁ order₂ id s = .error e s') :
    s' = s ∨ ∃ c mirrored short, e = .ledger .insufficientBalance ∧ s'.Stuck id c ∧
      HalfSettled s s' order₂ c mirrored short ∧
      ∃ banks cb, s' = { s with participants := banks, centralBank := cb } := by
  have ho := h.settleCycle_outcome now order₁ order₂ id
  rw [herr] at ho
  cases ho with
  | notClosed => exact .inl rfl
  | refused => exact .inl rfl
  | stuck c hc hclosed req hreq hacc pre post d hlist hmirrors b hb hne hrefused e he =>
    right
    have hkey : req.idempotencyKey = c.id.settleKey := hreq ▸ rfl
    have hkeys : ∀ i v, c.netPositions.lookup i = some v → i ∈ s.participants :=
      fun i _ hv => h.positions.keys id c hc i (Finmap.mem_of_lookup_eq_some hv)
    have hmem : d ∈ order₂.toList c.netPositions := by
      rw [hlist]
      exact List.mem_append_right _ List.mem_cons_self
    have hd : c.netPositions.lookup d.1 = some d.2 := order₂.mem_toList.mp hmem
    -- the central bank has accepted every position
    have hsized : ∀ i net, c.netPositions.lookup i = some net → net < 0 → 0 < -net := by
      intro i net hnet hneg
      obtain ⟨p, hp⟩ := Finmap.mem_iff.mp (hkeys i net hnet)
      obtain ⟨entry, hentry, hamount⟩ :=
        exists_settlementEntry (order₁.mem_toList.mpr hnet) hneg.ne hp
      have hpos := hacc.positive entry (by rw [hreq]; exact hentry)
      rwa [hamount, if_neg hneg.not_gt] at hpos
    have hunused : s.cbKeyed c.id.settleKey = none := by
      rw [← hkey]
      exact h.banks.centralBank.keyed_eq_none.mpr
        (hacc.key.resolve_left (hkey ▸ joinColon_ne_empty _ _))
    obtain ⟨rfl, hneg, hshort⟩ := mirror_refused (h.banks.bank d.1 b hb) hne
      (hsized d.1 d.2 hd) (h.toCore.mirror_unused hc hunused hb) hrefused he
    obtain ⟨banks, hbanks⟩ := run_withMirror_frame now c pre (s.cbPosted now req)
    refine ⟨c, pre, d, rfl, ?_, ⟨⟨post, hlist⟩, hneg, ⟨b, hb, hshort⟩, ?_⟩,
      banks, (s.cbPosted now req).centralBank, hbanks⟩
    · have hsettled : (s.cbPosted now req).cbKeyed c.id.settleKey ≠ none :=
        cbPosted_settled h.banks hkey hacc
      rw [hbanks]
      exact ⟨hc, hclosed, hsettled, ⟨d.1, d.2, hd, hne⟩, hsized⟩
    · rw [holdings_mirrors (h.banks.cbSettled hreq hacc) hmirrors,
        holdings_cbSettled h.banks hkeys hreq]

/-- **A settlement that fails** leaves the payments, the cycles, the settlements
and the accounts of the customers as they were. If it leaves anything else, it
stopped at a net payer whose reserve is short, and the cycle can never be settled
any more. -/
theorem settleCycle_failed (start : Clock) (steps : List (Clock × Op Amount))
    (now : Time) (order₁ order₂ : MapOrder ParticipantID Amount) (id : CycleID)
    (e : Err) (s' : Network Amount)
    (herr : settleCycle now order₁ order₂ id (reached start steps) = .error e s') :
    let s := reached start steps
    s'.payments = s.payments ∧ s'.cycles = s.cycles ∧ s'.settlements = s.settlements ∧
      (∀ i acct, s'.holdings (.bank i (.customer acct))
        = s.holdings (.bank i (.customer acct))) ∧
      (s' = s ∨ ∃ c mirrored short, e = .ledger .insufficientBalance ∧
        s.cycles.lookup id = some c ∧ c.status = .closed ∧
        HalfSettled s s' order₂ c mirrored short ∧
        ∀ later now order₁ order₂,
          settleCycle now order₁ order₂ id (run exec s' later)
            = .error (.ledger .duplicateIdempotencyKey) (run exec s' later)) := by
  intro s
  have h : s.WF := wf_reached start steps
  rcases settleCycle_error h herr with
    rfl | ⟨c, mirrored, short, he, hstuck, hhalf, banks, cb, hs'⟩
  · exact ⟨rfl, rfl, rfl, fun _ _ => rfl, .inl rfl⟩
  have hwf : s'.WF := by
    have hsettle := (h.settleCycle_outcome now order₁ order₂ id).wf h
    rwa [herr] at hsettle
  have hcycles : s'.cycles = s.cycles := by rw [hs']
  refine ⟨by rw [hs'], hcycles, by rw [hs'], hhalf.customers, .inr ⟨c, mirrored, short, he,
    hcycles ▸ hstuck.stored, hstuck.closed, hhalf, ?_⟩⟩
  intro later now order₁ order₂
  obtain ⟨hlater, hstill⟩ := hstuck.run hwf later
  exact hstill.settleCycle_eq hlater now order₁ order₂

/-- Bob may overdraw his account by 50 and pays 40 to Alice, at another bank. -/
def overdraftDay : List (Clock × Op ℤ) :=
  let alice : PartyRef := { participant := ⟨"bank_1"⟩, account := ⟨"dep_1"⟩ }
  let bob : PartyRef := { participant := ⟨"bank_2"⟩, account := ⟨"dep_1"⟩ }
  [.addParticipant "A", .addParticipant "B",
    .openCustomerAccount alice.participant "Alice",
    .register bob.participant (.openAccount ⟨"sub_3"⟩ "Bob" 50),
    .openCycle Scheme.sct.id,
    .initiatePayment
      { scheme := Scheme.sct.id, debtor := bob, creditor := alice, amount := 40 },
    .closeCycle ⟨"cyc_3"⟩].map fun op => (noon, op)

/-- The bank of Bob has no reserves. After the settlement has failed it has paid at
the central bank, and funding it does not help. -/
theorem settleCycle_not_atomic :
    let s := reached noon overdraftDay
    let settled := settleCycle noon.now .byKey .byKey ⟨"cyc_3"⟩ s
    let funded := exec (noon, .deposit ⟨"bank_2"⟩ ⟨"dep_1"⟩ 100 "cash") (Call.state settled)
    Call.failure settled = some (.ledger .insufficientBalance) ∧
      s.centralBank.bookBalance ⟨"acct_11"⟩ = .ok 0 ∧
      (Call.state settled).centralBank.bookBalance ⟨"acct_11"⟩ = .ok (-40) ∧
      Call.failure (settleCycle noon.now .byKey .byKey ⟨"cyc_3"⟩ funded)
        = some (.ledger .duplicateIdempotencyKey) := by
  decide +kernel

/-- Nothing that is done later lets that cycle be settled. -/
theorem settleCycle_failed_overdraftDay : ∃ s',
    settleCycle noon.now .byKey .byKey ⟨"cyc_3"⟩ (reached noon overdraftDay)
        = .error (.ledger .insufficientBalance) s' ∧
      ∀ later now order₁ order₂,
        settleCycle now order₁ order₂ ⟨"cyc_3"⟩ (run exec s' later)
          = .error (.ledger .duplicateIdempotencyKey) (run exec s' later) := by
  let r := settleCycle noon.now .byKey .byKey ⟨"cyc_3"⟩ (reached noon overdraftDay)
  have herr : r = .error (.ledger .insufficientBalance) (Call.state r) :=
    Call.eq_error_of_failure (by decide +kernel)
  have hmoved : (Call.state r).centralBank.bookBalance ⟨"acct_11"⟩
      ≠ (reached noon overdraftDay).centralBank.bookBalance ⟨"acct_11"⟩ := by
    decide +kernel
  obtain ⟨-, -, -, -, hsame | ⟨c, mirrored, short, -, -, -, -, hlater⟩⟩ :=
    settleCycle_failed noon overdraftDay noon.now .byKey .byKey ⟨"cyc_3"⟩ _ _ herr
  · exact absurd (by rw [hsame]) hmoved
  · exact ⟨_, herr, hlater⟩

/-! ## Returns -/

/-- The debtor of a payment has been refunded, but it is still recorded as
settled. -/
structure Unreturnable (s : Network Amount) (id : PaymentID) (p : Payment Amount) :
    Prop where
  stored : s.payments.lookup id = some p
  settled : p.status = .settled
  scheme : p.scheme ∈ s.schemes
  refunded : s.keyed p.debtor.participant p.id.returnDebitKey ≠ none

namespace Unreturnable

variable {id : PaymentID} {p : Payment Amount}

/-- Every call of `ReturnPayment` fails on the key of the refund. -/
theorem returnPayment_eq (hu : s.Unreturnable id p) (h : s.WF) (now : Time)
    (reason : String) :
    returnPayment now id reason s = .error (.ledger .duplicateIdempotencyKey) s := by
  obtain ⟨debtor, da, hd⟩ := h.records.debtor id p hu.stored
  obtain ⟨creditor, ca, hc⟩ := h.records.creditor id p hu.stored
  obtain ⟨sc, hsc⟩ := Finmap.mem_iff.mp hu.scheme
  have hreturn : ∃ sc ∈ s.schemes.lookup p.scheme, sc.allowsReturn :=
    ⟨sc, hsc, by cases sc <;> rfl⟩
  have hwf := h.banks.bank _ debtor hd.bank
  obtain ⟨g, hg, -⟩ := hwf.deposit.gl _ da hd.account
  have hused := hu.refunded
  rw [keyed_of_bank hd.bank] at hused
  have hkey : ¬(p.id.returnDebitKey = "" ∨
      debtor.ledger.idempotencyIndex.lookup p.id.returnDebitKey = none) := by
    rw [← hwf.ledger.keyed_eq_none, not_or]
    exact ⟨joinColon_ne_empty _ _, hused⟩
  have hdup : Book.postTransaction now (returnDebitRequest p reason debtor da.glAccount)
      debtor.ledger = .error .duplicateIdempotencyKey debtor.ledger :=
    (Book.postTransaction_transfer rfl (h.records.positive id p hu.stored)
      hwf.reserve_mem (Finmap.mem_of_lookup_eq_some hg) now).1 hkey
  rw [returnPayment, Call.get_bind, hu.stored, orThrow_some_bind,
    require_bind_of hreturn, require_bind_of hu.settled, hd.bank, orThrow_some_bind,
    hc.bank, orThrow_some_bind, hd.glAccount, Call.ofExcept_ok_bind, hc.glAccount,
    Call.ofExcept_ok_bind]
  exact Call.bind_of_error (onLedger_of_error hd.bank hdup) _

/-- No call gets the payment out of this state. -/
theorem exec (hu : s.Unreturnable id p) (h : s.WF) (step : Clock × Op Amount) :
    (exec step s).Unreturnable id p := by
  have hc := h.call_change step.1.now step.2
  refine ⟨?_, hu.settled, hc.scheme_kept h hu.scheme, (hc.keysKept h).bank _ _ hu.refunded⟩
  rcases hc.payment_kept h hu.stored hu.settled with hkept | ⟨reason, debtor, da, hf⟩
  · exact hkept
  · have hused := hu.refunded
    rw [keyed_of_bank hf.debtor_exists.bank] at hused
    rcases hf.accepts.key with hempty | hnone
    · exact absurd hempty (joinColon_ne_empty _ _)
    · have hledger := (h.banks.bank _ debtor hf.debtor_exists.bank).ledger
      exact absurd (hledger.keyed_eq_none.mpr hnone) hused

theorem run (hu : s.Unreturnable id p) (h : s.WF) (steps : List (Clock × Op Amount)) :
    (run Network.exec s steps).WF ∧ (run Network.exec s steps).Unreturnable id p := by
  let Inv (t : Network Amount) : Prop := t.WF ∧ t.Unreturnable id p
  have hstep : ∀ step t, Inv t → Inv (Network.exec step t) :=
    fun step t ht => ⟨exec_wf step t ht.1, ht.2.exec ht.1 step⟩
  exact run_invariant hstep ⟨h, hu⟩ steps

end Unreturnable

/-- A return of payment `p` that stopped after the refund. -/
structure HalfReturned (s s' : Network Amount) (p : Payment Amount) : Prop where
  settled : p.status = .settled
  /-- The reserve of the creditor's bank does not cover the payment. -/
  reserve : ∃ b, s'.participants.lookup p.creditor.participant = some b ∧
    b.ledger.balance b.reserveAccount - p.amount < 0
  /-- The debtor has the amount back, and its bank has more on reserve, but only in
  its own ledger. -/
  moved : s'.holdings = s.holdings + (credit p.debtor.place p.amount
    - credit (.bank p.debtor.participant .reserve) p.amount)

/-- A call of `ReturnPayment` that fails changes nothing, or stops after the
refund. -/
theorem returnPayment_error (h : s.WF) {id : PaymentID} {reason : String} {e : Err}
    (herr : returnPayment now id reason s = .error e s') :
    s' = s ∨ ∃ p, e = .ledger .insufficientBalance ∧ s'.WF ∧ s'.Unreturnable id p ∧
      HalfReturned s s' p ∧ ∃ banks, s' = { s with participants := banks } := by
  rcases returnPayment_cases h.records.parties
      (fun id p _ _ hp hst hd hc => h.return_accepts hp hst hd hc) now id reason with
    ⟨e', he'⟩ | ⟨p, debtor, da, hf, creditor, ca, hparty,
      ⟨hrefused, e', hpost, herr'⟩ | ⟨-, -, hok⟩⟩
  · cases he'.symm.trans herr
    exact .inl rfl
  · cases herr'.symm.trans herr
    right
    let s₁ := s.withRefund now p reason debtor da.glAccount
    have hwf : s₁.WF := h.withRefund hf
    have hp : s₁.payments.lookup id = some p := hf.stored
    have hpos := h.records.positive id p hf.stored
    have hbank := hwf.banks.bank _ creditor hparty.bank
    obtain ⟨g, hg, -⟩ := hbank.deposit.gl _ ca hparty.account
    have hmem := Finmap.mem_of_lookup_eq_some hg
    have hunused := (hwf.legs.legs id p hp).unreturned (by simp [hf.settled])
    rw [keyed_of_bank hparty.bank, hbank.ledger.keyed_eq_none] at hunused
    have hshort : ¬creditor.ledger.Sufficient
        (Ledger.transfer ca.glAccount creditor.reserveAccount p.amount) :=
      fun hsuff => hrefused
        (.transfer rfl hpos hmem hbank.reserve_mem (.inr hunused) hsuff)
    have hrefusal : Book.postTransaction now
        (returnCreditRequest p reason creditor ca.glAccount) creditor.ledger
          = .error .insufficientBalance creditor.ledger :=
      (Book.postTransaction_transfer rfl hpos hmem hbank.reserve_mem now).2
        (.inr hunused) hshort
    cases hrefusal.symm.trans hpost
    have hrefunded : s₁.keyed p.debtor.participant p.id.returnDebitKey ≠ none := by
      rw [show s₁.keyed _ _ = _ from
        keyed_posted h.banks hf.debtor_exists.bank hf.accepts .., if_pos]
      · exact Option.some_ne_none _
      · exact ⟨rfl, rfl, joinColon_ne_empty _ _⟩
    have hdebtor : debtor.accountOf (.customer p.debtor.account) = some da.glAccount :=
      Participant.accountOf_customer hf.debtor_exists.account
    have hscheme : p.scheme ∈ s₁.schemes := by
      obtain ⟨sc, hsc, -⟩ := hf.scheme
      exact Finmap.mem_of_lookup_eq_some hsc
    refine ⟨p, rfl, hwf, ⟨hp, hf.settled, hscheme, hrefunded⟩, ⟨hf.settled, ?_, ?_⟩,
      _, rfl⟩
    · refine ⟨creditor, hparty.bank, ?_⟩
      by_contra hcovered
      exact hshort (hbank.sufficient_of_reserve (hbank.chart.gl_ne_reserve hparty.account)
        hcovered)
    · exact holdings_posted h.banks hf.debtor_exists.bank .reserve _ rfl hdebtor rfl
  · cases hok.symm.trans herr

/-- **A return that fails** leaves the payments and the central bank as they were.
If it leaves anything else, it has refunded the debtor while the reserve of the
creditor's bank was short, and the payment can never be returned any more. -/
theorem returnPayment_failed (start : Clock) (steps : List (Clock × Op Amount))
    (now : Time) (id : PaymentID) (reason : String) (e : Err) (s' : Network Amount)
    (herr : returnPayment now id reason (reached start steps) = .error e s') :
    let s := reached start steps
    s'.payments = s.payments ∧ s'.centralBank = s.centralBank ∧
      (s' = s ∨ ∃ p, e = .ledger .insufficientBalance ∧
        s.payments.lookup id = some p ∧ HalfReturned s s' p ∧
        ∀ later now reason, returnPayment now id reason (run exec s' later)
          = .error (.ledger .duplicateIdempotencyKey) (run exec s' later)) := by
  intro s
  rcases returnPayment_error (wf_reached start steps) herr with
    rfl | ⟨p, he, hwf, hu, hhalf, banks, hs'⟩
  · exact ⟨rfl, rfl, .inl rfl⟩
  have hpayments : s'.payments = s.payments := by rw [hs']
  refine ⟨hpayments, by rw [hs'], .inr ⟨p, he, hpayments ▸ hu.stored, hhalf, ?_⟩⟩
  intro later now reason
  obtain ⟨hlater, hstill⟩ := hu.run hwf later
  exact hstill.returnPayment_eq hlater now reason

/-- Alice pays 100 to Bob, who pays them on to Carol at a third bank. -/
def returnDay : List (Clock × Op ℤ) :=
  let alice : PartyRef := { participant := ⟨"bank_1"⟩, account := ⟨"dep_1"⟩ }
  let bob : PartyRef := { participant := ⟨"bank_2"⟩, account := ⟨"dep_1"⟩ }
  let carol : PartyRef := { participant := ⟨"bank_3"⟩, account := ⟨"dep_1"⟩ }
  let transfer (debtor creditor : PartyRef) : Op ℤ :=
    .initiatePayment
      { scheme := Scheme.sct.id, debtor := debtor, creditor := creditor, amount := 100 }
  [.addParticipant "A", .addParticipant "B", .addParticipant "C",
    .openCustomerAccount alice.participant "Alice",
    .openCustomerAccount bob.participant "Bob",
    .openCustomerAccount carol.participant "Carol",
    .deposit alice.participant alice.account 100 "cash",
    .openCycle Scheme.sct.id, transfer alice bob, .closeCycle ⟨"cyc_4"⟩,
    .settleCycle .byKey .byKey ⟨"cyc_4"⟩, .openCycle Scheme.sct.id, transfer bob carol,
    .closeCycle ⟨"cyc_7"⟩, .settleCycle .byKey .byKey ⟨"cyc_7"⟩].map fun op => (noon, op)

/-- The bank of Bob has passed its reserves on. After the return has failed Alice has
her 100 back, her bank counts them as reserves that the central bank does not owe it,
and funding the bank of Bob does not help. -/
theorem returnPayment_not_atomic :
    let s := reached noon returnDay
    let returned := returnPayment noon.now ⟨"pay_5"⟩ "fraud" s
    let funded := exec (noon, .deposit ⟨"bank_2"⟩ ⟨"dep_1"⟩ 500 "cash")
      (Call.state returned)
    Call.failure returned = some (.ledger .insufficientBalance) ∧
      ((s.participants.lookup ⟨"bank_1"⟩).map fun b =>
        b.ledger.bookBalance b.reserveAccount) = some (.ok 0) ∧
      (((Call.state returned).participants.lookup ⟨"bank_1"⟩).map fun b =>
        b.ledger.bookBalance b.reserveAccount) = some (.ok 100) ∧
      (((Call.state returned).participants.lookup ⟨"bank_1"⟩).map fun b =>
        (Call.state returned).centralBank.bookBalance b.settlementAccount)
          = some (.ok 0) ∧
      Call.failure (returnPayment noon.now ⟨"pay_5"⟩ "fraud" funded)
        = some (.ledger .duplicateIdempotencyKey) := by
  decide +kernel

/-- Nothing that is done later lets that payment be returned. -/
theorem returnPayment_failed_returnDay : ∃ s',
    returnPayment noon.now ⟨"pay_5"⟩ "fraud" (reached noon returnDay)
        = .error (.ledger .insufficientBalance) s' ∧
      ∀ later now reason, returnPayment now ⟨"pay_5"⟩ reason (run exec s' later)
        = .error (.ledger .duplicateIdempotencyKey) (run exec s' later) := by
  let r := returnPayment noon.now ⟨"pay_5"⟩ "fraud" (reached noon returnDay)
  have herr : r = .error (.ledger .insufficientBalance) (Call.state r) :=
    Call.eq_error_of_failure (by decide +kernel)
  have hmoved : (Call.state r).holdings (.bank ⟨"bank_1"⟩ .reserve)
      ≠ (reached noon returnDay).holdings (.bank ⟨"bank_1"⟩ .reserve) := by
    decide +kernel
  obtain ⟨-, -, hsame | ⟨p, -, -, -, hlater⟩⟩ :=
    returnPayment_failed noon returnDay noon.now ⟨"pay_5"⟩ "fraud" _ _ herr
  · exact absurd (by rw [hsame]) hmoved
  · exact ⟨_, herr, hlater⟩

end Network

end CoreBanking.Payment
