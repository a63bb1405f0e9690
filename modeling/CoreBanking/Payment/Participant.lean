import CoreBanking.Deposit.Register
import CoreBanking.Payment.Types

/-!
# Participant banks (participant.go)

A bank has its own general ledger and a deposit layer over it. The model keeps
the ledger inside the deposit register, as the two share it.
-/

namespace CoreBanking.Payment

open Ledger (Book newBook)
open Deposit (Register)

/-- A bank that takes part in clearing and settlement. -/
structure Participant (Amount : Type) where
  id : ParticipantID
  name : String
  deposit : Register Amount
  customerSubledger : Ledger.SubledgerID
  /-- "Clearing Suspense" (Liability) in the bank's own ledger. -/
  suspenseAccount : Ledger.AccountID
  /-- "Reserve at Central Bank" (Asset) in the bank's own ledger. -/
  reserveAccount : Ledger.AccountID
  /-- The bank's reserve account (Liability) in the central-bank ledger. -/
  settlementAccount : Ledger.AccountID

namespace Participant

variable {Amount : Type}

/-- The bank's own general ledger. -/
def ledger (p : Participant Amount) : Book Amount := p.deposit.book

/-- The bank with another state of its ledger. -/
def withLedger (p : Participant Amount) (b : Book Amount) : Participant Amount :=
  { p with deposit := { p.deposit with book := b } }

/-- `glAccount`: the ledger account behind a customer's deposit account. -/
def glAccount (p : Participant Amount) (id : Deposit.AccountID) :
    Except Err Ledger.AccountID :=
  match p.deposit.getAccount id with
  | .error _ => .error .accountNotInParticipant
  | .ok acct => .ok acct.glAccount

/-- `OpenCustomerAccount`: open a deposit account with no overdraft. -/
def openCustomerAccount [Zero Amount] (p : Participant Amount) (now : Time)
    (name : String) : Call (Register Amount) Deposit.Err (Deposit.Account Amount) :=
  Register.openAccount now p.customerSubledger name 0

end Participant

/-- The chart of accounts of a new bank: the subledger for customers, the
suspense account and the reserve account. -/
def bankChart {Amount : Type} (now : Time) (name : String) :
    Call (Book Amount) Ledger.Err
      (Ledger.SubledgerID × Ledger.AccountID × Ledger.AccountID) := do
  let gl ← Book.createLedger now (name ++ " GL")
  let customers ← Book.createSubledger now gl.id "Customer Deposits"
  let interbank ← Book.createSubledger now gl.id "Interbank"
  let suspense ← Book.createAccount now interbank.id "Clearing Suspense" .liability
  let reserve ← Book.createAccount now interbank.id "Reserve at Central Bank" .asset
  pure (customers.id, suspense.id, reserve.id)

end CoreBanking.Payment
