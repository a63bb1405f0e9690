import CoreBanking.Deposit.Effects
import CoreBanking.Ledger.Keyed
import CoreBanking.Ledger.TrialBalance

/-!
# The invariant of a register

`Register.WF` says that the deposit accounts are backed by Liability accounts
of a well-formed book, each by its own, and that the hold index only names
positive holds. `Register.Grows` says what a later register keeps of an earlier
one: every account, its backing account and its limit. Every change keeps the
first and makes the second (`Change.wf`, `Change.grows`).

What `CheckWithdrawal` lets through, the balance and the overdraft limit cover
(`WF.checkWithdrawal_covered`), since holds are positive.
-/

namespace CoreBanking.Deposit

open Ledger (Book)

namespace Register

variable {Amount : Type}

/-! ## Growth -/

/-- What a later register keeps of an earlier one. New ledger accounts are
Liability accounts behind new deposit accounts. -/
structure Grows (r r' : Register Amount) : Prop where
  glAccounts : ∀ a acct, r.book.accounts.lookup a = some acct →
    r'.book.accounts.lookup a = some acct
  glNew : ∀ a acct, r'.book.accounts.lookup a = some acct →
    r.book.accounts.lookup a = some acct ∨
      (acct.type = .liability ∧
        ∃ id a', r'.accounts.lookup id = some a' ∧ a'.glAccount = a)
  accounts : ∀ id a, r.accounts.lookup id = some a →
    ∃ a', r'.accounts.lookup id = some a' ∧ a'.glAccount = a.glAccount ∧
      a'.overdraftLimit = a.overdraftLimit
  new : ∀ id a', r'.accounts.lookup id = some a' →
    (∃ a, r.accounts.lookup id = some a ∧ a'.glAccount = a.glAccount ∧
      a'.overdraftLimit = a.overdraftLimit) ∨
      r.book.accounts.lookup a'.glAccount = none

namespace Grows

/-- A register with the same accounts in both layers. -/
theorem of_eq {r r' : Register Amount} (hbook : r'.book.accounts = r.book.accounts)
    (haccts : r'.accounts = r.accounts) : r.Grows r' where
  glAccounts _ _ h := hbook ▸ h
  glNew _ _ h := .inl (hbook ▸ h)
  accounts _ a h := ⟨a, haccts ▸ h, rfl, rfl⟩
  new _ a h := .inl ⟨a, haccts ▸ h, rfl, rfl⟩

end Grows

/-! ## The invariant -/

variable [AddCommGroup Amount] [LinearOrder Amount]

/-- The invariant of a register. -/
structure WF (r : Register Amount) : Prop where
  book : r.book.WF
  accountIDs : KeysUpTo AccountID.mk "dep" r.idCounter r.accounts
  account_id : ∀ id a, r.accounts.lookup id = some a → a.id = id
  gl : ∀ id a, r.accounts.lookup id = some a →
    ∃ g, r.book.accounts.lookup a.glAccount = some g ∧ g.type = .liability
  gl_unique : ∀ id id' a a', r.accounts.lookup id = some a →
    r.accounts.lookup id' = some a' → a.glAccount = a'.glAccount → id = id'
  holdIDs : KeysUpTo HoldID.mk "hld" r.idCounter r.holds
  held : ∀ id, ∀ k ∈ (r.accountHolds.lookup id).getD [], k ∈ r.holds
  positive : ∀ k h, r.holds.lookup k = some h → 0 < h.amount

theorem wf_newRegister {b : Book Amount} (h : b.WF) : (newRegister b).WF where
  book := h
  accountIDs := KeysUpTo.empty
  account_id _ _ h := by simp [newRegister] at h
  gl _ _ h := by simp [newRegister] at h
  gl_unique _ _ _ _ h := by simp [newRegister] at h
  holdIDs := KeysUpTo.empty
  held _ _ h := by simp [newRegister] at h
  positive _ _ h := by simp [newRegister] at h

namespace WF

variable {r : Register Amount}

/-- The log is not part of the invariant, and drawing an id keeps it. -/
theorem log (h : r.WF) (now : Time) (eventType : AuditEventType)
    (entityID : String) (payload : Payload Amount) :
    (r.log now eventType entityID payload).WF where
  book := h.book
  accountIDs := h.accountIDs.mono (Nat.le_succ _)
  account_id := h.account_id
  gl := h.gl
  gl_unique := h.gl_unique
  holdIDs := h.holdIDs.mono (Nat.le_succ _)
  held := h.held
  positive := h.positive

/-- The book may be replaced by one that has the accounts of the old one. -/
theorem withBook (h : r.WF) {b : Book Amount} (hb : b.WF)
    (haccts : ∀ a acct, r.book.accounts.lookup a = some acct →
      b.accounts.lookup a = some acct) : (r.withBook b).WF where
  book := hb
  accountIDs := h.accountIDs
  account_id := h.account_id
  gl id a ha := by
    obtain ⟨g, hg, htype⟩ := h.gl id a ha
    exact ⟨g, haccts _ g hg, htype⟩
  gl_unique := h.gl_unique
  holdIDs := h.holdIDs
  held := h.held
  positive := h.positive

/-- The status of an account is not part of the invariant. -/
theorem withStatus (h : r.WF) {now : Time} {id : AccountID}
    {acct : Account Amount} (hacct : r.accounts.lookup id = some acct)
    (status : AccountStatus) (eventType : AuditEventType) :
    (r.withStatus now id acct status eventType).WF := by
  have hlook : ∀ k a, (r.accounts.insert id { acct with status := status }).lookup k
      = some a → ∃ a₀, r.accounts.lookup k = some a₀ ∧ a.id = a₀.id ∧
        a.glAccount = a₀.glAccount := by
    exact Finmap.forall_lookup_insert (fun k a ha => ⟨a, ha, rfl, rfl⟩) ⟨acct, hacct, rfl, rfl⟩
  refine WF.log ?_ ..
  refine
    { book := h.book
      accountIDs := h.accountIDs.update (Finmap.mem_of_lookup_eq_some hacct) _
      account_id := ?_, gl := ?_, gl_unique := ?_
      holdIDs := h.holdIDs
      held := h.held
      positive := h.positive }
  · -- account_id
    intro k a ha
    obtain ⟨a₀, ha₀, hid, -⟩ := hlook _ _ ha
    rw [hid]
    exact h.account_id k a₀ ha₀
  · -- gl
    intro k a ha
    obtain ⟨a₀, ha₀, -, hgl⟩ := hlook _ _ ha
    rw [hgl]
    exact h.gl k a₀ ha₀
  · -- gl_unique
    intro k k' a a' ha ha' heq
    obtain ⟨a₀, ha₀, -, hgl⟩ := hlook _ _ ha
    obtain ⟨a₁, ha₁, -, hgl'⟩ := hlook _ _ ha'
    exact h.gl_unique k k' a₀ a₁ ha₀ ha₁ (by rw [← hgl, ← hgl', heq])

/-- The id of the next ledger account is not in use. -/
theorem fresh_glAccount (h : r.WF) (now : Time) (subledger : Ledger.SubledgerID)
    (name : String) : r.book.accounts.lookup
      (r.book.newAccount now subledger name .liability).id = none :=
  h.book.accountIDs.fresh (fun _ _ => Ledger.AccountID.mk.inj) (Nat.lt_succ_self _)

/-- The id of the next deposit account is not in use. -/
theorem fresh_account (h : r.WF) (now : Time) (subledger : Ledger.SubledgerID)
    (name : String) (limit : Amount) :
    r.accounts.lookup (r.newDepositAccount now subledger name limit).id = none :=
  h.accountIDs.fresh (fun _ _ => AccountID.mk.inj) (Nat.lt_succ_self _)

/-- A new account is backed by a new Liability account. -/
theorem addAccount (h : r.WF) (now : Time) (subledger : Ledger.SubledgerID)
    (name : String) (limit : Amount) :
    (r.addAccount now subledger name limit).WF := by
  have hgl := h.fresh_glAccount now subledger name
  have hfresh := h.fresh_account now subledger name limit
  have hext : r.book.Extends (r.book.addAccount now
      (r.book.newAccount now subledger name .liability)) := .addAccount hgl
  refine WF.log ?_ ..
  refine
    { book := h.book.addAccount now subledger name .liability
      accountIDs := h.accountIDs.insert (Nat.le_succ _) le_rfl _
      account_id := ?_, gl := ?_, gl_unique := ?_
      holdIDs := h.holdIDs.mono (Nat.le_succ _)
      held := h.held
      positive := h.positive }
  · -- account_id
    intro k a ha
    rcases (Finmap.lookup_insert_fresh hfresh).mp ha with ⟨rfl, rfl⟩ | ha
    · rfl
    · exact h.account_id k a ha
  · -- gl
    intro k a ha
    rcases (Finmap.lookup_insert_fresh hfresh).mp ha with ⟨rfl, rfl⟩ | ha
    · exact ⟨_, Finmap.lookup_insert _, rfl⟩
    · obtain ⟨g, hg, htype⟩ := h.gl k a ha
      exact ⟨g, hext.accounts _ g hg, htype⟩
  · -- gl_unique
    intro k k' a a' ha ha' heq
    -- an old account is not backed by the new ledger account
    have hold : ∀ k a, r.accounts.lookup k = some a → a.glAccount ≠
        (r.book.newAccount now subledger name .liability).id := by
      intro k a ha heq
      obtain ⟨g, hg, -⟩ := h.gl k a ha
      rw [heq, hgl] at hg
      cases hg
    rcases (Finmap.lookup_insert_fresh hfresh).mp ha with ⟨rfl, rfl⟩ | ha
    · rcases (Finmap.lookup_insert_fresh hfresh).mp ha' with ⟨rfl, rfl⟩ | ha'
      · rfl
      · exact absurd heq.symm (hold k' a' ha')
    · rcases (Finmap.lookup_insert_fresh hfresh).mp ha' with ⟨rfl, rfl⟩ | ha'
      · exact absurd heq (hold k a ha)
      · exact h.gl_unique k k' a a' ha ha' heq

/-- A new hold is positive and indexed. -/
theorem addHoldTo (h : r.WF) (now : Time) {req : CreateHoldRequest Amount}
    (hpos : 0 < req.amount) : (r.addHoldTo now req).WF := by
  refine WF.log ?_ ..
  refine
    { book := h.book
      accountIDs := h.accountIDs.mono (Nat.le_succ _)
      account_id := h.account_id
      gl := h.gl
      gl_unique := h.gl_unique
      holdIDs := h.holdIDs.insert (Nat.le_succ _) le_rfl _
      held := ?_, positive := ?_ }
  · -- held
    intro id k hk
    rw [Finmap.mem_insert]
    dsimp only at hk
    rw [Finmap.lookup_insert_ite] at hk
    split at hk
    · rcases List.mem_append.mp hk with hk | hk
      · exact .inr (h.held _ k hk)
      · exact .inl (List.mem_singleton.mp hk)
    · exact .inr (h.held id k hk)
  · -- positive
    exact Finmap.forall_lookup_insert h.positive hpos

/-- The status of a hold is not part of the invariant. -/
theorem withHold (h : r.WF) {id : HoldID} {hd : Hold Amount}
    (hh : r.holds.lookup id = some hd) (status : HoldStatus) :
    (r.withHold id hd status).WF where
  book := h.book
  accountIDs := h.accountIDs
  account_id := h.account_id
  gl := h.gl
  gl_unique := h.gl_unique
  holdIDs := h.holdIDs.update (Finmap.mem_of_lookup_eq_some hh) _
  held id' k hk := Finmap.mem_insert.mpr (.inr (h.held id' k hk))
  positive := Finmap.forall_lookup_insert h.positive (h.positive id hd hh)

/-- Snapshots are not part of the invariant. -/
theorem withSnapshot (h : r.WF) (id : AccountID) (snap : Snapshot Amount) :
    (r.withSnapshot id snap).WF where
  book := h.book
  accountIDs := h.accountIDs
  account_id := h.account_id
  gl := h.gl
  gl_unique := h.gl_unique
  holdIDs := h.holdIDs
  held := h.held
  positive := h.positive

end WF

/-- The backing account of a deposit account has a balance. -/
theorem WF.bookBalance_eq {r : Register Amount} (h : r.WF) {id : AccountID}
    {a : Account Amount} (ha : r.accounts.lookup id = some a) :
    r.bookBalance a = .ok (r.book.balance a.glAccount) := by
  obtain ⟨g, hg, -⟩ := h.gl id a ha
  rw [bookBalance, Book.bookBalance_of_lookup hg]
  rfl

/-- A capture moves its amount from the account of the hold to the counterparty. -/
theorem WF.balance_afterCapture {r : Register Amount} (h : r.WF) {id : AccountID}
    {a : Account Amount} (ha : r.accounts.lookup id = some a) (now : Time) (k : HoldID)
    (hd : Hold Amount) (acct : Account Amount) (counterparty : Ledger.AccountID)
    (captureAmount : Amount) (description : String) :
    (r.afterCapture now k hd (captureRequest acct hd counterparty captureAmount
        description)).book.balance a.glAccount
      = r.book.balance a.glAccount
        + ((if a.glAccount = counterparty then hd.captured captureAmount else 0)
          - (if a.glAccount = acct.glAccount then hd.captured captureAmount else 0)) := by
  obtain ⟨g, hg, hliability⟩ := h.gl id a ha
  have hrec := h.book.balance_record hg now
    (captureRequest acct hd counterparty captureAmount description)
  rw [hliability] at hrec
  exact hrec.trans (congrArg _ (Ledger.effect_transfer_credit _ _ _ _))

namespace Change

variable {now : Time} {r r' : Register Amount} {op : Op Amount}

theorem wf (hc : Change now r op r') (h : r.WF) : r'.WF := by
  cases hc with
  | opened subledger name limit => exact h.addAccount now subledger name limit
  | status id st eventType acct htarget hacct =>
    exact h.withStatus hacct st eventType
  | held req hpos => exact h.addHoldTo now hpos
  | released id hd hh => exact (h.withHold hh .released).log ..
  | captured id counterparty amount description hd req hh hkey hacc =>
    have hrec : (r.book.record now (r.book.newTransaction now req)).WF :=
      h.book.record hacc
    have hb := h.withBook hrec fun _ _ ha => ha
    exact (hb.withHold hh .captured).log ..
  | snapshot id date snap => exact (h.withSnapshot id snap).log ..

/-- New ledger accounts are Liabilities, and a capture posts a transfer. -/
theorem declared (hc : Change now r op r') (h : r.WF) (hbook : r.book.Declared) :
    r'.book.Declared := by
  cases hc with
  | opened subledger name limit => exact hbook.addAccount h.book now subledger name trivial
  | captured id counterparty amount description hd req hh hkey hacc hentries =>
    obtain ⟨debit, moved, hentries⟩ := hentries
    exact hbook.record h.book now (hentries ▸ Ledger.declared_transfer debit counterparty moved)
  | status | held | released | snapshot => exact hbook

theorem grows (hc : Change now r op r') (h : r.WF) : r.Grows r' := by
  cases hc with
  | opened subledger name limit =>
    have hgl := h.fresh_glAccount now subledger name
    have hfresh := h.fresh_account now subledger name limit
    refine ⟨(Ledger.Book.Extends.addAccount hgl).accounts, ?_, ?_, ?_⟩
    · -- glNew: the new ledger account is behind the new deposit account
      intro a acct ha
      rcases (Finmap.lookup_insert_fresh hgl).mp ha with ⟨rfl, rfl⟩ | ha
      · exact .inr ⟨rfl, _, _, Finmap.lookup_insert _, rfl⟩
      · exact .inl ha
    · -- accounts
      intro id a ha
      exact ⟨a, (Finmap.lookup_insert_fresh hfresh).mpr (.inr ha), rfl, rfl⟩
    · -- new
      intro id a ha
      rcases (Finmap.lookup_insert_fresh hfresh).mp ha with ⟨rfl, rfl⟩ | ha
      · exact .inr hgl
      · exact .inl ⟨a, ha, rfl, rfl⟩
  | status id st eventType acct htarget hacct =>
    refine ⟨fun _ _ ha => ha, fun _ _ ha => .inl ha, ?_, ?_⟩
    · intro k a ha
      by_cases hk : k = id
      · subst hk
        cases hacct.symm.trans ha
        exact ⟨_, Finmap.lookup_insert _, rfl, rfl⟩
      · exact ⟨a, (Finmap.lookup_insert_of_ne _ hk).trans ha, rfl, rfl⟩
    · exact Finmap.forall_lookup_insert (fun k a ha => .inl ⟨a, ha, rfl, rfl⟩)
        (.inl ⟨acct, hacct, rfl, rfl⟩)
  | held => exact .of_eq rfl rfl
  | released => exact .of_eq rfl rfl
  | captured => exact .of_eq rfl rfl
  | snapshot => exact .of_eq rfl rfl

/-- No operation of a register posts under a key. -/
theorem keyed_eq (hc : Change now r op r') (h : r.WF) (key : String) :
    r'.book.keyed key = r.book.keyed key := by
  cases hc with
  | captured id counterparty amount description hd req hh hkey hacc =>
    show (r.book.record now (r.book.newTransaction now req)).keyed key = _
    rw [h.book.keyed_record hacc, hkey, if_neg fun hk => hk.2 hk.1]
  | opened => rfl
  | status => rfl
  | held => rfl
  | released => rfl
  | snapshot => rfl

theorem keepsKeys (hc : Change now r op r') : r.book.KeepsKeys r'.book := by
  cases hc with
  | opened => exact .of_eq rfl
  | status => exact .of_eq rfl
  | held => exact .of_eq rfl
  | released => exact .of_eq rfl
  | captured id counterparty captureAmount description h req hh hkey hacc =>
    exact hacc.keepsKeys now
  | snapshot => exact .of_eq rfl

/-- Only a capture posts. -/
theorem transactions_eq (hc : Change now r op r')
    (hop : ∀ id counterparty amount description,
      op ≠ .captureHold id counterparty amount description) :
    r'.book.transactions = r.book.transactions := by
  cases hc with
  | captured id counterparty amount description =>
    exact absurd rfl (hop id counterparty amount description)
  | opened => rfl
  | status => rfl
  | held => rfl
  | released => rfl
  | snapshot => rfl

/-- The limit of an account is the one it was opened with. -/
theorem overdraftLimit (hc : Change now r op r')
    (hop : ∀ subledger name limit, op = .openAccount subledger name limit → limit = 0)
    (h : ∀ id a, r.accounts.lookup id = some a → a.overdraftLimit = 0) :
    ∀ id a, r'.accounts.lookup id = some a → a.overdraftLimit = 0 := by
  cases hc with
  | opened subledger name limit =>
    exact Finmap.forall_lookup_insert h (hop subledger name limit rfl)
  | status k st eventType acct htarget hacct =>
    have hsame := h k acct hacct
    exact Finmap.forall_lookup_insert h hsame
  | held => exact h
  | released => exact h
  | captured => exact h
  | snapshot => exact h

end Change

/-! ## Withdrawals -/

section Withdrawals

variable [IsOrderedAddMonoid Amount] {r : Register Amount} {now : Time}

/-- A hold adds to the sum of holds, or nothing. -/
theorem WF.le_addHold (h : r.WF) {total total' : Amount} {k : HoldID}
    (hok : r.addHold now total k = .ok total') : total ≤ total' := by
  rw [addHold] at hok
  cases hk : r.holds.lookup k with
  | none =>
    rw [hk] at hok
    cases hok
  | some hd =>
    simp only [hk] at hok
    have hpos := h.positive k hd hk
    split at hok
    · cases hok
      exact le_rfl
    · split at hok
      · cases hok
        exact le_rfl
      · cases hok
        exact le_add_of_nonneg_right hpos.le

theorem WF.computeActiveHolds_nonneg (h : r.WF) {id : AccountID} {holds : Amount}
    (hok : r.computeActiveHolds now id = .ok holds) : 0 ≤ holds := by
  have hloop : ∀ (ks : List HoldID) (total : Amount),
      ks.foldlM (r.addHold now) total = .ok holds → total ≤ holds := by
    intro ks
    induction ks with
    | nil =>
      intro total hok
      cases hok
      exact le_rfl
    | cons k ks ih =>
      intro total hok
      rw [List.foldlM_cons] at hok
      cases hstep : r.addHold now total k with
      | error e =>
        rw [hstep] at hok
        cases hok
      | ok total' =>
        rw [hstep] at hok
        exact (h.le_addHold hstep).trans (ih total' hok)
  exact hloop _ 0 hok

/-- A withdrawal that passes the check is covered by the balance and the
overdraft limit. -/
theorem WF.checkWithdrawal_covered (h : r.WF) {id : AccountID} {amount : Amount}
    (hok : r.checkWithdrawal now id amount = .ok ()) :
    ∃ a, r.accounts.lookup id = some a ∧
      amount ≤ r.book.balance a.glAccount + a.overdraftLimit := by
  obtain ⟨a, left, ha, -, havail, hsuff⟩ := checkWithdrawal_eq_ok.mp hok
  obtain ⟨g, hg, -⟩ := h.gl id a ha
  rw [available, bookBalance, Book.bookBalance_of_lookup hg] at havail
  cases hholds : r.computeActiveHolds now a.id with
  | error e =>
    rw [hholds] at havail
    cases havail
  | ok holds =>
    rw [hholds] at havail
    cases havail
    refine ⟨a, ha, ?_⟩
    have hnonneg := h.computeActiveHolds_nonneg hholds
    rw [not_lt, sub_nonneg] at hsuff
    refine hsuff.trans (add_le_add_left ?_ _)
    exact sub_le_self _ hnonneg

end Withdrawals

end Register

end CoreBanking.Deposit
