import CoreBanking.Deposit.Holds
import CoreBanking.Ledger.References

/-!
# References within a register

The list of an account names holds that are there, and a deposit account a Liability
account of the ledger that backs no other one (`Register.Linked`).

- `book_reached`: the ledger of a register is in a state that calls on it alone could have
  led to, so that what holds of every run of a book holds of it;
- `linked_reached`: in every run all the references lead to something;
- `Linked.call_safe`: then no operation reads through a missing entry, and neither do those
  that only read (`Linked.checkWithdrawal_not_panics`, `Linked.getBalance_not_panics`).
-/

namespace CoreBanking.Deposit

open Ledger (Book newBook)

/-- The run-time panic of reading through a missing map entry, in either layer. -/
def Err.Panics : Err → Prop
  | .nilDereference => True
  | .ledger e => e.Panics
  | _ => False

namespace Register

variable {Amount : Type} [AddCommGroup Amount] [LinearOrder Amount]

/-- Every reference in the register leads to something. -/
structure Linked (r : Register Amount) : Prop where
  book : r.book.Linked
  held : ∀ id, ∀ k ∈ (r.accountHolds.lookup id).getD [],
    ∃ h, r.holds.lookup k = some h ∧ h.accountID = id
  gl : ∀ id a, r.accounts.lookup id = some a →
    ∃ g, r.book.accounts.lookup a.glAccount = some g ∧ g.type = .liability
  gl_unique : ∀ id id' a a', r.accounts.lookup id = some a →
    r.accounts.lookup id' = some a' → a.glAccount = a'.glAccount → id = id'

theorem WF.linked {r : Register Amount} (h : r.WF) (hi : r.Indexed) (hr : r.book.Resolves) :
    r.Linked where
  book := h.book.linked hr
  held id k hk := (hi.listed id k).mp hk
  gl := h.gl
  gl_unique := h.gl_unique

/-! ## The book of a register -/

/-- Each step makes at most one call on the ledger. -/
theorem exec_book (step : Time × Step Amount) (r : Register Amount) :
    ∃ ops : List (Time × Book.Op Amount), (exec step r).book = run Book.exec r.book ops := by
  obtain ⟨now, step⟩ := step
  cases step with
  | ledger op => exact ⟨[(now, op)], rfl⟩
  | register op =>
    rcases exec_register now op r with heq | ht
    · rw [heq]
      exact ⟨[], rfl⟩
    generalize hexec : exec (now, .register op) r = r' at ht ⊢
    cases ht with
    | opened subledger name limit =>
      have heq := openAccount_eq r now subledger name limit
      have hbook := Book.createAccount_eq r.book now subledger name .liability
      cases hsub : r.book.subledgers.lookup subledger with
      | none =>
        rw [hsub] at heq
        have hsame : exec (now, .register (.openAccount subledger name limit)) r = r :=
          Call.final_of_error (Call.discard_of_error heq)
        rw [← hexec, hsame]
        exact ⟨[], rfl⟩
      | some sl =>
        rw [hsub] at hbook
        have hcall : Book.exec (now, .createAccount subledger name .liability) r.book
            = r.book.addAccount now (r.book.newAccount now subledger name .liability) :=
          Call.final_of_ok (Call.discard_of_ok hbook)
        exact ⟨[(now, .createAccount subledger name .liability)], hcall.symm⟩
    | captured k counterparty captureAmount description h acct hk hactive hacct hacc =>
      have hcall : Book.exec (now, .postTransaction _) r.book = r.book.record now _ :=
        Call.final_of_ok (Call.discard_of_ok (Book.postTransaction_of_accepts hacc now))
      exact ⟨[(now, .postTransaction _)], hcall.symm⟩
    | status => exact ⟨[], rfl⟩
    | held => exact ⟨[], rfl⟩
    | released => exact ⟨[], rfl⟩
    | snapshot => exact ⟨[], rfl⟩

/-- The ledger of a register is one that a run of its own leads to. -/
theorem book_reached (steps : List (Time × Step Amount)) :
    (reached steps).book.Reachable := by
  have hstep : ∀ (step : Time × Step Amount) (r : Register Amount), r.book.Reachable →
      (exec step r).book.Reachable := by
    intro step r hr
    obtain ⟨ops, hops⟩ := exec_book step r
    rw [hops]
    exact hr.run ops
  exact run_invariant hstep (Book.reachable_newBook Amount) steps

/-- Some run leads to the register. -/
def Reachable (r : Register Amount) : Prop := ∃ steps, r = reached steps

theorem Reachable.run {r : Register Amount} (h : r.Reachable)
    (steps : List (Time × Step Amount)) : (run exec r steps).Reachable := by
  obtain ⟨before, rfl⟩ := h
  exact ⟨before ++ steps, (run_append _ before steps).symm⟩

theorem Reachable.exec {r : Register Amount} (h : r.Reachable) (step : Time × Step Amount) :
    (exec step r).Reachable :=
  h.run [step]

/-- A register over a book that some run leads to. -/
theorem reachable_newRegister {b : Book Amount} (h : b.Reachable) :
    (newRegister b).Reachable := by
  obtain ⟨ops, rfl⟩ := h
  induction ops using List.reverseRecOn with
  | nil => exact ⟨[], rfl⟩
  | append_singleton ops step ih =>
    rw [Book.reached, run_append]
    exact ih.exec (step.1, .ledger step.2)

theorem resolves_reached (steps : List (Time × Step Amount)) :
    (reached steps).book.Resolves := by
  obtain ⟨ops, hops⟩ := book_reached steps
  rw [hops]
  exact Book.resolves_reached ops

theorem linked_reached (steps : List (Time × Step Amount)) : (reached steps).Linked :=
  (wf_reached steps).linked (indexed_reached steps) (resolves_reached steps)

/-! ## No lookup misses -/

variable {r : Register Amount} {now : Time} {id : AccountID} {e : Err}

omit [LinearOrder Amount] in
theorem bookBalance_not_panics {acct : Account Amount} (he : r.bookBalance acct = .error e) :
    ¬e.Panics := by
  rw [bookBalance, Book.bookBalance] at he
  cases hacct : r.book.accounts.lookup acct.glAccount with
  | none =>
    rw [hacct] at he
    cases he
    rintro ⟨⟩
  | some g =>
    rw [hacct] at he
    cases he

omit [AddCommGroup Amount] [LinearOrder Amount] in
theorem requireActive_not_panics {acct : Account Amount} (he : requireActive acct = .error e) :
    ¬e.Panics := by
  rw [requireActive] at he
  split at he <;> cases he <;> exact not_false

namespace Linked

omit [LinearOrder Amount] in
/-- The holds on the list of an account are all there. -/
theorem computeActiveHolds_eq (h : r.Linked) (now : Time) (id : AccountID) :
    r.computeActiveHolds now id = .ok (r.listed now id) := by
  have hstored : ∀ k ∈ (r.accountHolds.lookup id).getD [], k ∈ r.holds := by
    intro k hk
    obtain ⟨hd, hhd, -⟩ := h.held id k hk
    exact Finmap.mem_of_lookup_eq_some hhd
  exact computeActiveHolds_eq_listed hstored now

omit [LinearOrder Amount] in
theorem available_not_panics (h : r.Linked) {acct : Account Amount}
    (he : r.available now acct = .error e) : ¬e.Panics := by
  rcases Call.except_bind_eq_error.mp he with he | ⟨book, -, he⟩
  · exact bookBalance_not_panics he
  · rw [h.computeActiveHolds_eq] at he
    cases he

omit [LinearOrder Amount] in
theorem getBalance_not_panics (h : r.Linked) (he : r.getBalance now id = .error e) :
    ¬e.Panics := by
  rcases Call.except_bind_eq_error.mp he with he | ⟨acct, -, he⟩
  · rw [getAccount] at he
    split at he <;> cases he
    exact not_false
  rcases Call.except_bind_eq_error.mp he with he | ⟨book, -, he⟩
  · exact bookBalance_not_panics he
  · rw [h.computeActiveHolds_eq] at he
    cases he

theorem checkWithdrawal_not_panics (h : r.Linked) {amount : Amount}
    (he : r.checkWithdrawal now id amount = .error e) : ¬e.Panics := by
  rcases Call.except_bind_eq_error.mp he with he | ⟨acct, -, he⟩
  · rw [getAccount] at he
    split at he <;> cases he
    exact not_false
  rcases Call.except_bind_eq_error.mp he with he | ⟨-, -, he⟩
  · exact requireActive_not_panics he
  rcases Call.except_bind_eq_error.mp he with he | ⟨available, -, he⟩
  · exact h.available_not_panics he
  · split at he <;> cases he
    exact not_false

end Linked

/-- The call does not panic. -/
abbrev Safe {α : Type} (x : Call (Register Amount) Err α) (r : Register Amount) : Prop :=
  Call.Guarantees (fun _ => True) (fun e => ¬e.Panics) x r fun _ _ => True

omit [AddCommGroup Amount] [LinearOrder Amount] in
theorem changeStatus_safe (source target : AccountStatus) (eventType : AuditEventType)
    (now : Time) (id : AccountID) (r : Register Amount) :
    Safe (changeStatus source target eventType now id) r := by
  refine .read (.orThrow (fun _ => ⟨trivial, not_false⟩) fun acct _ => ?_)
  exact .require (fun _ => ⟨trivial, not_false⟩) fun _ => .of_ok rfl trivial trivial

/-- Calls on the ledger do not panic. -/
theorem onBook_safe {α : Type} {x : Call (Book Amount) Ledger.Err α} (op : Book.Op Amount)
    (hx : Book.call now op = x.discard) : Safe (onBook x) r := by
  have hzoom : Call.Guarantees (fun _ => True) (fun e => ¬Err.Panics e) (onBook x) r _ :=
    (Book.call_guarantees op hx r.book).zoom (fun _ _ => trivial) fun e he => he
  exact hzoom.mono (fun _ _ => trivial) fun _ _ _ _ => trivial

/-! ### Operations -/

theorem openAccount_safe (now : Time) (subledger : Ledger.SubledgerID) (name : String)
    (limit : Amount) (r : Register Amount) : Safe (openAccount now subledger name limit) r :=
  .bind (onBook_safe (.createAccount subledger name .liability) rfl)
    fun _ _ _ _ => .of_ok rfl trivial trivial

theorem close_safe (now : Time) (id : AccountID) (r : Register Amount) :
    Safe (close now id) r := by
  refine .read (.orThrow (fun _ => ⟨trivial, not_false⟩) fun acct _ => ?_)
  refine .require (fun _ => ⟨trivial, not_false⟩) fun _ => ?_
  refine .ofExcept (fun e he => ⟨trivial, bookBalance_not_panics he⟩) fun book _ => ?_
  exact .require (fun _ => ⟨trivial, not_false⟩) fun _ => .of_ok rfl trivial trivial

/-- The holds of the account are there, so that its available balance can be read. -/
theorem Linked.createHold_safe (h : r.Linked) (now : Time) (req : CreateHoldRequest Amount) :
    Safe (createHold now req) r := by
  refine .read (.orThrow (fun _ => ⟨trivial, not_false⟩) fun acct _ => ?_)
  refine .ofExcept (fun e he => ⟨trivial, requireActive_not_panics he⟩) fun _ _ => ?_
  refine .require (fun _ => ⟨trivial, not_false⟩) fun _ => ?_
  refine .ofExcept (fun e he => ⟨trivial, h.available_not_panics he⟩) fun available _ => ?_
  exact .require (fun _ => ⟨trivial, not_false⟩) fun _ => .of_ok rfl trivial trivial

omit [AddCommGroup Amount] [LinearOrder Amount] in
theorem releaseHold_safe (now : Time) (id : HoldID) (r : Register Amount) :
    Safe (releaseHold now id) r := by
  refine .read (.orThrow (fun _ => ⟨trivial, not_false⟩) fun hd _ => ?_)
  exact .require (fun _ => ⟨trivial, not_false⟩) fun _ => .of_ok rfl trivial trivial

theorem captureHold_safe (now : Time) (id : HoldID) (counterparty : Ledger.AccountID)
    (captureAmount : Amount) (description : String) (r : Register Amount) :
    Safe (captureHold now id counterparty captureAmount description) r := by
  refine .read (.orThrow (fun _ => ⟨trivial, not_false⟩) fun hd _ => ?_)
  refine .require (fun _ => ⟨trivial, not_false⟩) fun _ => ?_
  refine .orThrow (fun _ => ⟨trivial, not_false⟩) fun acct _ => ?_
  exact .bind (onBook_safe (.postTransaction _) rfl) fun _ _ _ _ => .of_ok rfl trivial trivial

omit [LinearOrder Amount] in
@[inherit_doc Linked.createHold_safe]
theorem Linked.takeEndOfDaySnapshot_safe (h : r.Linked) (now : Time) (id : AccountID)
    (date : Time) : Safe (takeEndOfDaySnapshot now id date) r := by
  refine .read (.orThrow (fun _ => ⟨trivial, not_false⟩) fun acct _ => ?_)
  refine .ofExcept (fun e he => ⟨trivial, bookBalance_not_panics he⟩) fun book _ => ?_
  refine .ofExcept (fun e he => ?_) fun holds _ => .of_ok rfl trivial trivial
  rw [h.computeActiveHolds_eq] at he
  cases he

/-- No operation panics. -/
theorem Linked.call_safe (h : r.Linked) (now : Time) (op : Op Amount) :
    Safe (call now op) r := by
  cases op with
  | openAccount subledger name limit => exact (openAccount_safe now subledger name limit r).discard
  | freeze id => exact changeStatus_safe ..
  | unfreeze id => exact changeStatus_safe ..
  | markDormant id => exact changeStatus_safe ..
  | reactivate id => exact changeStatus_safe ..
  | close id => exact close_safe now id r
  | createHold req => exact (h.createHold_safe now req).discard
  | releaseHold id => exact releaseHold_safe now id r
  | captureHold id counterparty captureAmount description =>
    exact (captureHold_safe now id counterparty captureAmount description r).discard
  | takeEndOfDaySnapshot id date => exact (h.takeEndOfDaySnapshot_safe now id date).discard

/-- Nothing that a register does reads through a missing entry. -/
structure NeverPanics (r : Register Amount) : Prop where
  book : r.book.NeverPanics
  call : ∀ now op e, Call.failure (call now op r) = some e → ¬e.Panics
  activeHolds : ∀ now id e, r.computeActiveHolds now id = .error e → ¬e.Panics
  balance : ∀ now id e, r.getBalance now id = .error e → ¬e.Panics
  withdrawal : ∀ now id amount e, r.checkWithdrawal now id amount = .error e → ¬e.Panics

theorem Linked.neverPanics (h : r.Linked) : r.NeverPanics where
  book := h.book.neverPanics
  call now op _ := (h.call_safe now op).failure
  activeHolds now id e he := by
    rw [h.computeActiveHolds_eq] at he
    cases he
  balance _ _ _ := h.getBalance_not_panics
  withdrawal _ _ _ _ := h.checkWithdrawal_not_panics

/-- A call makes its step, whatever its outcome, and does not panic. -/
theorem Linked.call_guarantees {α : Type} {x : Call (Register Amount) Err α} (h : r.Linked)
    (op : Op Amount) (hx : call now op = x.discard) :
    Call.Guarantees (fun r' => r' = exec (now, .register op) r) (fun e => ¬e.Panics) x r
      fun a r' => x r = .ok a r' :=
  .of_discard hx fun _ => (h.call_safe now op).failure

end Register

end CoreBanking.Deposit
