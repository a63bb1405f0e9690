import CoreBanking.Base.Run
import CoreBanking.Deposit.Invariant
import Mathlib.Algebra.Order.Group.Int

/-!
# Runs of a register

A register runs over a ledger that others post to as well. A step of a run is a call of
one of its operations, or a call on the ledger behind its back. The register starts
empty, over an empty ledger; both may fail along the way.

`wf_reached`: the invariant of the register holds in every state that a run reaches.
`failing_call_unchanged`: a call that fails leaves both layers as they were.
-/

namespace CoreBanking.Deposit

open Ledger (Book newBook Entry)

namespace Register

/-- A call on the register, or one on the ledger behind it. -/
inductive Step (Amount : Type) where
  | register (op : Op Amount)
  | ledger (op : Book.Op Amount)

section Backing

variable {Amount : Type} {r : Register Amount} {entries : List (Entry Amount)}
  {P : Entry Amount → Account Amount → Prop}

/-- The entries on the GL accounts behind deposit accounts meet `P`. -/
def EachBacking (r : Register Amount) (entries : List (Entry Amount))
    (P : Entry Amount → Account Amount → Prop) : Prop :=
  ∀ e ∈ entries, ∀ id a, r.accounts.lookup id = some a → e.accountID = a.glAccount → P e a

theorem eachBacking_iff : r.EachBacking entries P ↔
    ∀ e ∈ entries, ∀ p ∈ r.accounts.pairs, e.accountID = p.2.glAccount → P e p.2 := by
  refine forall₂_congr fun e _ => ?_
  constructor
  · rintro h ⟨id, a⟩ hp
    exact h id a (Finmap.mem_pairs.mp hp)
  · intro h id a ha
    exact h (id, a) (Finmap.mem_pairs.mpr ha)

instance [∀ e a, Decidable (P e a)] : Decidable (r.EachBacking entries P) :=
  decidable_of_iff' _ eachBacking_iff

end Backing

variable {Amount : Type} [AddCommGroup Amount] [LinearOrder Amount]

/-- The register after a step at some time. -/
def exec (step : Time × Step Amount) (r : Register Amount) : Register Amount :=
  match step.2 with
  | .register op => (call step.1 op).final r
  | .ledger op => r.withBook (Book.exec (step.1, op) r.book)

/-- The register after a run of steps, from an empty one over an empty ledger. -/
def reached (steps : List (Time × Step Amount)) : Register Amount :=
  run exec (newRegister (newBook Amount)) steps

/-- A step on the register changes nothing, or makes its transition. -/
theorem exec_register (now : Time) (op : Op Amount) (r : Register Amount) :
    exec (now, .register op) r = r ∨ Transition now r op (exec (now, .register op) r) := by
  rcases call_transition now op r with ⟨e, he⟩ | ⟨r', hok, ht⟩
  · exact .inl (Call.final_of_error he)
  · right
    have heq : exec (now, .register op) r = r' := Call.final_of_ok hok
    rw [heq]
    exact ht

/-- What a capture that goes through leaves. -/
theorem exec_captureHold {r : Register Amount} {k : HoldID} {h : Hold Amount}
    {acct : Account Amount} {counterparty : Ledger.AccountID} {captureAmount : Amount}
    {description : String} (hk : r.holds.lookup k = some h) (hactive : h.status = .active)
    (hacct : r.accounts.lookup h.accountID = some acct)
    (hacc : r.book.Accepts (captureRequest acct h counterparty captureAmount description))
    (now : Time) :
    exec (now, .register (.captureHold k counterparty captureAmount description)) r
      = r.afterCapture now k h
          (captureRequest acct h counterparty captureAmount description) :=
  Call.final_of_ok (Call.discard_of_ok (captureHold_of_accepts hk hactive hacct hacc now))

/-- A call that changes nothing was not a capture that goes through. -/
theorem Captures.exec_ne {r : Register Amount} {op : Op Amount} {h : Hold Amount}
    {acct : Account Amount} {counterparty : Ledger.AccountID} {amount : Amount}
    (hcap : r.Captures op h acct counterparty amount) (now : Time) :
    exec (now, .register op) r ≠ r := by
  intro heq
  cases hcap with
  | intro k counterparty captureAmount description h acct hk hactive hacct hacc =>
    rw [exec_captureHold hk hactive hacct hacc now] at heq
    have hcount := congrArg Register.idCounter heq
    simp only [afterCapture, log, withHold, withBook] at hcount
    omega

theorem exec_wf (step : Time × Step Amount) (r : Register Amount) (h : r.WF) :
    (exec step r).WF := by
  obtain ⟨now, step⟩ := step
  cases step with
  | register op =>
    rcases exec_register now op r with heq | ht
    · rw [heq]
      exact h
    · exact ht.change.wf h
  | ledger op =>
    have hc := Book.exec_change now op r.book
    exact h.withBook (hc.wf h.book) fun a acct ha => hc.accounts_kept h.book ha

theorem wf_reached (steps : List (Time × Step Amount)) : (reached steps).WF :=
  run_invariant exec_wf (wf_newRegister Book.wf_newBook) steps

/-- **A failing call changes nothing**, neither in the register nor in the ledger behind it,
whatever state they are in. The same goes for a call on the ledger itself. -/
theorem failing_call_unchanged :
    (∀ now op (r r' : Register Amount) e, call now op r = .error e r' → r' = r) ∧
    ∀ now op (b b' : Book Amount) e, Book.call now op b = .error e b' → b' = b := by
  constructor
  · intro now op r r' e he
    rcases call_cases now op r with ⟨e', he'⟩ | ⟨r'', hok, -⟩
    · rw [he'] at he
      cases he
      rfl
    · rw [hok] at he
      cases he
  · intro now op b b' e he
    rcases Book.call_cases now op b with ⟨-, e', he'⟩ | ⟨b'', event, hok, -⟩
    · rw [he'] at he
      cases he
      rfl
    · rw [hok] at he
      cases he

/-! ## A customer -/

/-- Alice opens an account with an overdraft limit, at a bank that has cash and a merchant,
and then some steps follow. -/
def aliceRun (limit : ℤ) (steps : List (Step ℤ)) : List (Time × Step ℤ) :=
  (.ledger (.createLedger "General Ledger") ::
    .ledger (.createSubledger ⟨"ldg_1"⟩ "Main") ::
    .ledger (.createAccount ⟨"sub_3"⟩ "Cash" .asset) ::
    .ledger (.createAccount ⟨"sub_3"⟩ "Merchant" .liability) ::
    .register (.openAccount ⟨"sub_3"⟩ "Alice" limit) :: steps).map fun step => (⟨1, 0⟩, step)

/-- Cash is paid in for Alice. -/
def fundAlice (amount : ℤ) : Step ℤ :=
  .ledger (.postTransaction { entries := Ledger.transfer ⟨"acct_5"⟩ ⟨"acct_9"⟩ amount })

/-- A hold on the account of Alice. -/
def holdAlice (amount : ℤ) : Step ℤ :=
  .register (.createHold { accountID := ⟨"dep_1"⟩, amount := amount })

/-- A capture in favour of the merchant. -/
def captureForMerchant (id : HoldID) (amount : ℤ) : Step ℤ :=
  .register (.captureHold id ⟨"acct_7"⟩ amount "purchase")

end Register

end CoreBanking.Deposit
