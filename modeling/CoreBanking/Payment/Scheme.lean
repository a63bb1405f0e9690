import CoreBanking.Payment.Participant

/-!
# Payment schemes (scheme.go)

The two schemes of the code, SEPA Credit Transfer and SEPA Direct Debit, and
the state of the network, which they validate a payment against.
-/

namespace CoreBanking.Payment

/-- The registered schemes: SEPA Credit Transfer and SEPA Direct Debit. -/
inductive Scheme where
  | sct
  | sdd
deriving DecidableEq, Repr

namespace Scheme

def id : Scheme → SchemeID
  | .sct => ⟨"sepa.ct"⟩
  | .sdd => ⟨"sepa.dd"⟩

def direction : Scheme → SchemeDirection
  | .sct => .push
  | .sdd => .pull

def settlementModel : Scheme → SettlementModel
  | .sct => .net
  | .sdd => .net

def requiresMandate : Scheme → Bool
  | .sct => false
  | .sdd => true

def allowsReturn : Scheme → Bool
  | .sct => true
  | .sdd => true

/-- From booking to the value date: one day, or two for direct debits. -/
def settlementDelay : Scheme → Int
  | .sct => 24 * Time.hour
  | .sdd => 48 * Time.hour

end Scheme

/-- The payment processor: one ledger for each bank inside its participant, and
the central-bank ledger. -/
structure Network (Amount : Type) where
  schemes : GoMap SchemeID Scheme
  participants : GoMap ParticipantID (Participant Amount)
  payments : GoMap PaymentID (Payment Amount)
  mandates : GoMap MandateID (Mandate Amount)
  cycles : GoMap CycleID (ClearingCycle Amount)
  settlements : GoMap SettlementID (Settlement Amount)
  /-- The single open clearing cycle of each scheme. -/
  openCycle : GoMap SchemeID CycleID
  /-- Payments by their end-to-end id. -/
  endToEndIndex : GoMap String PaymentID
  centralBank : Ledger.Book Amount
  cbReserveSubledger : Ledger.SubledgerID
  /-- The balancing asset for reserve issuance. -/
  cbAssets : Ledger.AccountID
  idCounter : Nat

section Validation

variable {Amount : Type} [AddCommGroup Amount] [LinearOrder Amount]

/-- `validateFunds`: the debtor's deposit account may withdraw the amount. -/
def validateFunds (s : Network Amount) (now : Time) (p : Payment Amount) :
    Except Err Unit :=
  match s.participants.lookup p.debtor.participant with
  | none => .error .participantNotFound
  | some part =>
    match part.deposit.getAccount p.debtor.account with
    | .error _ => .error .accountNotInParticipant
    | .ok _ => (part.deposit.checkWithdrawal now p.debtor.account p.amount).mapError
        .deposit

/-- The mandate checks of a direct debit. -/
def validateMandate (s : Network Amount) (p : Payment Amount) : Except Err Unit :=
  if p.mandateID = ⟨""⟩ then .error .mandateRequired
  else match s.mandates.lookup p.mandateID with
    | none => .error .mandateNotFound
    | some m =>
      if m.status = .revoked then .error .mandateRevoked
      else if m.debtor ≠ p.debtor ∨ m.creditor ≠ p.creditor then
        .error .mandateMismatch
      else if 0 < m.maxAmount ∧ m.maxAmount < p.amount then .error .mandateExceeded
      else .ok ()

/-- `Validate`: what a scheme checks before a payment is accepted. -/
def Scheme.validate (sc : Scheme) (s : Network Amount) (now : Time)
    (p : Payment Amount) : Except Err Unit :=
  match sc with
  | .sct => validateFunds s now p
  | .sdd => do
    validateMandate s p
    validateFunds s now p

end Validation

end CoreBanking.Payment
