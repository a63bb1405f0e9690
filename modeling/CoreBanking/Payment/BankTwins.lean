import CoreBanking.Base.Agree
import CoreBanking.Payment.Holdings

/-!
# Banks that differ in client postings only

A client may open accounts of its own in the ledger of a bank and post to them. Two states
of a bank that such a posting tells apart (`Participant.Twins`) hold the same at every role
and have used the same keys, one of them left aside. Ids that were drawn from the ledger
may differ: those of transactions, and of the accounts behind deposit accounts.

- `Chart.twins_record`: a client posting that touches no role makes a twin;
- `Twins.accepts_iff`, `Twins.record`: twins accept the same transfers between roles, and
  stay twins;
- `Twins.recordReversal`, `Twins.openAccount`: they stay twins under a reversal and a new
  account;
- `Twins.checkWithdrawal_eq`: they let the same withdrawals through.
-/

namespace CoreBanking.Payment

open Ledger (Book Entry PostTransactionRequest Transaction transfer)
open Deposit (Register)

variable {Amount : Type} [AddCommGroup Amount] [LinearOrder Amount]

/-! ## One bank -/

namespace Participant

section Acceptance

variable {b : Participant Amount} {source target : Role} {debit credit : Ledger.AccountID}

/-- Of the accounts with a role, only the reserve is subject to the balance check. -/
theorem Chart.sufficient_iff (h : b.Chart) (hsource : b.accountOf source = some debit)
    (htarget : b.accountOf target = some credit) (amount : Amount) :
    b.ledger.Sufficient (transfer debit credit amount) ↔
      (Role.moved source target amount .reserve < 0 →
        ¬b.balanceOf .reserve + Role.moved source target amount .reserve < 0) := by
  obtain ⟨acct, hacct, htype⟩ := h.reserve
  have hnormal : acct.type.normalBalance = Role.reserve.normal := by rw [htype]; rfl
  have hreserve : b.accountOf .reserve = some b.reserveAccount := rfl
  have heffect := h.effect_transfer hsource htarget hreserve amount
  have hbalance : b.balanceOf .reserve
      = b.ledger.computeBookBalance b.reserveAccount acct.type :=
    Book.balance_of_lookup hacct
  rw [hbalance, ← heffect, ← hnormal]
  constructor
  · exact fun hsuff => hsuff b.reserveAccount acct hacct (.inl htype)
  · intro hcovered a acct' hacct' hkind hneg
    -- an account that the transfer lowers has one of the two roles
    have hrole : ∃ role, b.accountOf role = some a := by
      by_contra hnone
      rw [Ledger.effect_eq_zero] at hneg
      · exact lt_irrefl _ hneg
      · intro e he heq
        rcases List.mem_pair.mp he with rfl | rfl
        · exact hnone ⟨source, hsource.trans (congrArg some heq)⟩
        · exact hnone ⟨target, htarget.trans (congrArg some heq)⟩
    obtain ⟨role, ha⟩ := hrole
    obtain ⟨acct'', hacct'', hdirection⟩ := h.account ha
    cases hacct'.symm.trans hacct''
    have hdebit : acct'.type.normalBalance = .debit := by
      rcases hkind with hkind | hkind <;> rw [hkind] <;> rfl
    cases role with
    | customer id => cases hdirection.symm.trans hdebit
    | suspense => cases hdirection.symm.trans hdebit
    | reserve =>
      cases ha
      cases hacct.symm.trans hacct'
      exact hcovered hneg

/-- When a transfer between two roles is accepted. -/
theorem Chart.accepts_iff (h : b.Chart) (hsource : b.accountOf source = some debit)
    (htarget : b.accountOf target = some credit) {amount : Amount}
    {req : PostTransactionRequest Amount}
    (hentries : req.entries = transfer debit credit amount) :
    b.ledger.Accepts req ↔ 0 < amount ∧
      (req.idempotencyKey = "" ∨ b.ledger.keyed req.idempotencyKey = none) ∧
      (Role.moved source target amount .reserve < 0 →
        ¬b.balanceOf .reserve + Role.moved source target amount .reserve < 0) := by
  rw [h.ledger.keyed_eq_none, ← h.sufficient_iff hsource htarget]
  constructor
  · intro hacc
    refine ⟨?_, hacc.key, hentries ▸ hacc.sufficient⟩
    refine hacc.positive { accountID := debit, amount := amount, direction := .debit } ?_
    rw [hentries]
    exact List.mem_cons_self
  · rintro ⟨hpos, hkey, hsuff⟩
    obtain ⟨acct, hacct, -⟩ := h.account hsource
    obtain ⟨acct', hacct', -⟩ := h.account htarget
    exact .transfer hentries hpos (Finmap.mem_of_lookup_eq_some hacct)
      (Finmap.mem_of_lookup_eq_some hacct') hkey hsuff

end Acceptance

/-- A transaction of one bank and one of another: they have the same status, and their
reversals do the same to every role. -/
def Matches (b b' : Participant Amount) (t t' : Transaction Amount) : Prop :=
  t'.status = t.status ∧ ∀ role, b'.effectOf role (t'.entries.map Entry.reversed)
    = b.effectOf role (t.entries.map Entry.reversed)

/-- Two states of a bank that agree in everything the network reads, the transactions under
`ignored` keys left aside. -/
structure Twins (ignored : String → Prop) (b b' : Participant Amount) : Prop where
  left : b.Chart
  right : b'.Chart
  same : b' = { b with deposit := b'.deposit }
  subledgers : b'.ledger.subledgers = b.ledger.subledgers
  counter : b'.deposit.idCounter = b.deposit.idCounter
  holds : b'.deposit.holds = b.deposit.holds
  accountHolds : b'.deposit.accountHolds = b.deposit.accountHolds
  accounts : ∀ id, Option.Rel (fun a a' => a' = { a with glAccount := a'.glAccount })
    (b.deposit.accounts.lookup id) (b'.deposit.accounts.lookup id)
  balances : ∀ role, b'.balanceOf role = b.balanceOf role
  keyed : ∀ key, ¬ignored key →
    Option.Rel (b.Matches b') (b.ledger.keyed key) (b'.ledger.keyed key)

variable {ignored : String → Prop} {b b' : Participant Amount}

omit [LinearOrder Amount] in
/-- What is under a key is related to itself. -/
theorem keyed_refl (b : Participant Amount) (key : String) :
    Option.Rel (b.Matches b) (b.ledger.keyed key) (b.ledger.keyed key) := by
  cases b.ledger.keyed key with
  | none => exact .none
  | some t => exact .some ⟨rfl, fun role => rfl⟩

theorem Chart.twins (h : b.Chart) (ignored : String → Prop) : b.Twins ignored b where
  left := h
  right := h
  same := rfl
  subledgers := rfl
  counter := rfl
  holds := rfl
  accountHolds := rfl
  accounts id := by
    cases b.deposit.accounts.lookup id with
    | none => exact .none
    | some a => exact .some rfl
  balances role := rfl
  keyed key _ := b.keyed_refl key

/-- A client posting that touches no role, under a key of its own. -/
theorem Chart.twins_record (h : b.Chart) {req : PostTransactionRequest Amount}
    (hacc : b.ledger.Accepts req)
    (hentries : ∀ e ∈ req.entries, ∀ role, b.accountOf role ≠ some e.accountID)
    (now : Time) : b.Twins (fun key => key = req.idempotencyKey ∧ key ≠ "")
      (b.withLedger (b.ledger.record now (b.ledger.newTransaction now req))) where
  left := h
  right := h.withLedger (h.ledger.record hacc) fun _ _ ha => ha
  same := rfl
  subledgers := rfl
  counter := rfl
  holds := rfl
  accountHolds := rfl
  accounts := (h.twins fun _ => False).accounts
  balances role := by
    rw [h.balanceOf_record, effectOf_eq_zero hentries, add_zero]
  keyed key hkey := by
    show Option.Rel _ _ ((b.ledger.record now (b.ledger.newTransaction now req)).keyed key)
    rw [h.ledger.keyed_record hacc, if_neg hkey]
    exact b.keyed_refl key

namespace Twins

/-- More keys may be left aside. -/
theorem mono (h : b.Twins ignored b') {ignored' : String → Prop}
    (hsub : ∀ key, ignored key → ignored' key) : b.Twins ignored' b' :=
  { h with keyed := fun key hvisible => h.keyed key fun hkey => hvisible (hsub key hkey) }

/-- Apart from their deposit layers the two are the same. -/
theorem withDeposit_eq (h : b.Twins ignored b') (r : Register Amount) :
    b'.withDeposit r = b.withDeposit r := by
  rw [h.same]
  rfl

/-- The ledgers may be replaced by others with the same accounts. -/
theorem withLedger (h : b.Twins ignored b') {c c' : Book Amount} (hc : c.WF) (hc' : c'.WF)
    (haccts : c.accounts = b.ledger.accounts) (haccts' : c'.accounts = b'.ledger.accounts)
    (hsubs : c'.subledgers = c.subledgers)
    (hbalances : ∀ role, (b'.withLedger c').balanceOf role = (b.withLedger c).balanceOf role)
    (hkeyed : ∀ key, ¬ignored key →
      Option.Rel (b.Matches b') (c.keyed key) (c'.keyed key)) :
    (b.withLedger c).Twins ignored (b'.withLedger c') where
  left := h.left.withLedger hc fun _ _ ha => haccts ▸ ha
  right := h.right.withLedger hc' fun _ _ ha => haccts' ▸ ha
  same := h.withDeposit_eq _
  subledgers := hsubs
  counter := h.counter
  holds := h.holds
  accountHolds := h.accountHolds
  accounts := h.accounts
  balances := hbalances
  keyed := hkeyed

section Post

variable {source target : Role} {debit credit debit' credit' : Ledger.AccountID}
  {amount : Amount} {req req' : PostTransactionRequest Amount}

/-- A transfer between two roles is accepted by both or by neither. -/
theorem accepts_iff (h : b.Twins ignored b') (hsource : b.accountOf source = some debit)
    (htarget : b.accountOf target = some credit)
    (hsource' : b'.accountOf source = some debit')
    (htarget' : b'.accountOf target = some credit')
    (hentries : req.entries = transfer debit credit amount)
    (hentries' : req'.entries = transfer debit' credit' amount)
    (hkey : req'.idempotencyKey = req.idempotencyKey)
    (hvisible : ¬ignored req.idempotencyKey) :
    b.ledger.Accepts req ↔ b'.ledger.Accepts req' := by
  rw [h.left.accepts_iff hsource htarget hentries,
    h.right.accepts_iff hsource' htarget' hentries', hkey,
    rel_eq_none_iff (h.keyed _ hvisible), h.balances]

/-- It leaves twins. -/
theorem record (h : b.Twins ignored b') (hsource : b.accountOf source = some debit)
    (htarget : b.accountOf target = some credit)
    (hsource' : b'.accountOf source = some debit')
    (htarget' : b'.accountOf target = some credit')
    (hentries : req.entries = transfer debit credit amount)
    (hentries' : req'.entries = transfer debit' credit' amount)
    (hkey : req'.idempotencyKey = req.idempotencyKey) (hacc : b.ledger.Accepts req)
    (hacc' : b'.ledger.Accepts req') (now : Time) : Twins ignored
      (b.withLedger (b.ledger.record now (b.ledger.newTransaction now req)))
      (b'.withLedger (b'.ledger.record now (b'.ledger.newTransaction now req'))) := by
  have heffect : ∀ role, b'.effectOf role req'.entries = b.effectOf role req.entries := by
    intro role
    rw [hentries, hentries', h.left.effectOf_transfer hsource htarget,
      h.right.effectOf_transfer hsource' htarget']
  have hreversed : ∀ role,
      b'.effectOf role ((b'.ledger.newTransaction now req').entries.map Entry.reversed)
        = b.effectOf role ((b.ledger.newTransaction now req).entries.map Entry.reversed) := by
    intro role
    rw [effectOf_moves_reversed (b.ledger.newTransaction_moves now hentries),
      effectOf_moves_reversed (b'.ledger.newTransaction_moves now hentries'),
      h.left.effectOf_transfer htarget hsource, h.right.effectOf_transfer htarget' hsource']
  refine h.withLedger (h.left.ledger.record hacc) (h.right.ledger.record hacc') rfl rfl
    h.subledgers (fun role => ?_) fun key hvisible => ?_
  · rw [h.left.balanceOf_record, h.right.balanceOf_record, h.balances, heffect]
  · rw [h.left.ledger.keyed_record hacc, h.right.ledger.keyed_record hacc', hkey]
    split
    · exact .some ⟨rfl, hreversed⟩
    · exact h.keyed key hvisible

end Post

/-- So does the reversal of what is under a key. -/
theorem recordReversal (h : b.Twins ignored b') {key : String} {t t' : Transaction Amount}
    (ht : b.ledger.keyed key = some t) (ht' : b'.ledger.keyed key = some t')
    (hmatches : b.Matches b' t t')
    (hstatus : t.status ≠ .reversed) (now : Time) (description : String) : Twins ignored
      (b.withLedger (b.ledger.recordReversal now t.id t description))
      (b'.withLedger (b'.ledger.recordReversal now t'.id t' description)) := by
  have hstatus' : t'.status ≠ .reversed := hmatches.1 ▸ hstatus
  obtain ⟨-, hstored, -⟩ := h.left.ledger.keyed_eq_some.mp ht
  obtain ⟨-, hstored', -⟩ := h.right.ledger.keyed_eq_some.mp ht'
  refine h.withLedger (h.left.ledger.recordReversal hstored hstatus)
    (h.right.ledger.recordReversal hstored' hstatus') rfl rfl h.subledgers
    (fun role => ?_) fun key' hvisible' => ?_
  · rw [h.left.balanceOf_recordReversal hstored, h.right.balanceOf_recordReversal hstored',
      h.balances, hmatches.2]
  · rw [h.left.ledger.keyed_recordReversal ht hstatus,
      h.right.ledger.keyed_recordReversal ht' hstatus']
    split
    · exact .some ⟨rfl, hmatches.2⟩
    · exact h.keyed key' hvisible'

/-- What is under a key has no entry on an account that is opened later, nor has its reversal. -/
theorem effectOf_keyed_withDeposit (hb : b.Chart) {r : Register Amount}
    (hg : b.deposit.Grows r) {key : String} {t : Transaction Amount}
    (ht : b.ledger.keyed key = some t) (role : Role) :
    (b.withDeposit r).effectOf role (t.entries.map Entry.reversed)
      = b.effectOf role (t.entries.map Entry.reversed) := by
  refine Chart.effectOf_withDeposit hg (fun e he => ?_) role
  obtain ⟨e₀, he₀, rfl⟩ := List.mem_map.mp he
  exact hb.ledger.accounts _ _ (hb.ledger.keyed_eq_some.mp ht).2.1 e₀ he₀

/-- So does a new customer account. -/
theorem openAccount (h : b.Twins ignored b') (now : Time) (subledger : Ledger.SubledgerID)
    (name : String) (limit : Amount) : Twins ignored
      (b.withDeposit (b.deposit.addAccount now subledger name limit))
      (b'.withDeposit (b'.deposit.addAccount now subledger name limit)) := by
  have hopened (r : Register Amount) : Register.Change now r
      (.openAccount subledger name limit) (r.addAccount now subledger name limit) := .opened ..
  have hg := (hopened b.deposit).grows h.left.deposit
  have hg' := (hopened b'.deposit).grows h.right.deposit
  let acct := b.deposit.newDepositAccount now subledger name limit
  let acct' := b'.deposit.newDepositAccount now subledger name limit
  have hid : acct'.id = acct.id :=
    congrArg (fun n => (⟨ident "dep" (n + 1)⟩ : Deposit.AccountID)) h.counter
  refine
    { left := h.left.grow (h.left.deposit.addAccount ..) hg
      right := h.right.grow (h.right.deposit.addAccount ..) hg'
      same := h.withDeposit_eq _
      subledgers := h.subledgers
      counter := congrArg (· + 2) h.counter
      holds := h.holds
      accountHolds := h.accountHolds
      accounts := fun id => ?_
      balances := fun role => ?_
      keyed := fun key hvisible => ?_ }
  · show Option.Rel _ ((b.deposit.accounts.insert acct.id acct).lookup id)
      ((b'.deposit.accounts.insert acct'.id acct').lookup id)
    rw [Finmap.lookup_insert_ite, Finmap.lookup_insert_ite, hid]
    split
    · refine .some ?_
      show _ = (⟨acct.id, acct'.glAccount, name, .active, limit, now⟩ : Deposit.Account Amount)
      rw [← hid]
      rfl
    · exact h.accounts id
  · rw [h.left.balanceOf_withDeposit hg rfl, h.right.balanceOf_withDeposit hg' rfl, h.balances]
  · show Option.Rel _ (b.ledger.keyed key) (b'.ledger.keyed key)
    cases ht : b.ledger.keyed key with
    | none =>
      rw [(rel_eq_none_iff (h.keyed key hvisible)).mp ht]
      exact .none
    | some t =>
      obtain ⟨t', ht', hstatus, hreversed⟩ := rel_of_some (ht ▸ h.keyed key hvisible)
      rw [ht']
      refine .some ⟨hstatus, fun role => ?_⟩
      rw [effectOf_keyed_withDeposit h.left hg ht, effectOf_keyed_withDeposit h.right hg' ht',
        hreversed]

/-! ### What is read of the deposit layer -/

theorem lookup_account (h : b.Twins ignored b') {id : Deposit.AccountID}
    {a : Deposit.Account Amount} (ha : b.deposit.accounts.lookup id = some a) :
    ∃ gl, b'.deposit.accounts.lookup id = some { a with glAccount := gl } := by
  obtain ⟨a', ha', heq⟩ := rel_of_some (ha ▸ h.accounts id)
  exact ⟨a'.glAccount, heq ▸ ha'⟩

theorem computeActiveHolds_eq (h : b.Twins ignored b') (now : Time)
    (id : Deposit.AccountID) :
    b'.deposit.computeActiveHolds now id = b.deposit.computeActiveHolds now id := by
  have hstep : b'.deposit.addHold now = b.deposit.addHold now := by
    funext total holdID
    rw [Register.addHold, Register.addHold, h.holds]
  rw [Register.computeActiveHolds, Register.computeActiveHolds, h.accountHolds, hstep]

theorem available_eq (h : b.Twins ignored b') (now : Time) {id : Deposit.AccountID}
    {a : Deposit.Account Amount} {gl : Ledger.AccountID}
    (ha : b.deposit.accounts.lookup id = some a)
    (ha' : b'.deposit.accounts.lookup id = some { a with glAccount := gl }) :
    b'.deposit.available now { a with glAccount := gl } = b.deposit.available now a := by
  have hbook : b'.deposit.bookBalance { a with glAccount := gl } = b.deposit.bookBalance a := by
    rw [h.left.deposit.bookBalance_eq ha, h.right.deposit.bookBalance_eq ha']
    have hbalance := h.balances (.customer id)
    rw [balanceOf_of_account (accountOf_customer ha),
      balanceOf_of_account (accountOf_customer ha')] at hbalance
    exact congrArg Except.ok hbalance
  rw [Register.available, Register.available, hbook, h.computeActiveHolds_eq]

/-- The same withdrawals pass the check. -/
theorem checkWithdrawal_eq (h : b.Twins ignored b') (now : Time) (id : Deposit.AccountID)
    (amount : Amount) :
    b'.deposit.checkWithdrawal now id amount = b.deposit.checkWithdrawal now id amount := by
  cases ha : b.deposit.accounts.lookup id with
  | none =>
    have ha' := (rel_eq_none_iff (h.accounts id)).mp ha
    simp only [Register.checkWithdrawal, Register.getAccount, ha, ha']
    rfl
  | some a =>
    obtain ⟨gl, ha'⟩ := h.lookup_account ha
    have havailable := h.available_eq now ha ha'
    simp only [Register.checkWithdrawal, Register.getAccount, ha, ha']
    show (Deposit.requireActive a >>= fun _ =>
      b'.deposit.available now { a with glAccount := gl } >>= _) = _
    rw [havailable]
    rfl

end Twins

end Participant

end CoreBanking.Payment
