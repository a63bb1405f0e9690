import CoreBanking.Payment.Balances

/-!
# Calls that take effect as a whole

Only `SettleCycle` and `ReturnPayment` post to several ledgers one of which may
refuse. Every other call that fails has changed nothing (`allOrNothing_reached`):
`Deposit` posts twice, but the central bank never refuses the second posting, and
the errors that `InitiatePayment`, `RejectPayment` and `CloseCycle` could return
after their first effect do not occur in a state that keeps the invariant. What a
failed `InitiatePayment` may leave behind is the id it has drawn.
-/

namespace CoreBanking.Payment

namespace Network

variable {Amount : Type}

/-- The operations that do not post to the ledgers of several banks. -/
def Op.AllOrNothing : Op Amount → Prop
  | .settleCycle _ _ _ => False
  | .returnPayment _ _ => False
  | .registerScheme _ => True
  | .addParticipant _ => True
  | .openCustomerAccount _ _ => True
  | .register _ _ => True
  | .deposit _ _ _ _ => True
  | .createMandate _ _ _ => True
  | .revokeMandate _ => True
  | .openCycle _ => True
  | .closeCycle _ => True
  | .initiatePayment _ => True
  | .rejectPayment _ _ => True

variable [AddCommGroup Amount] [LinearOrder Amount]

/-- A change that comes with an error is none, or the drawing of an id for a payment. -/
theorem Change.unchanged {now : Time} {s s' : Network Amount} {op : Op Amount} {e : Err}
    (hc : Change now s op (some e) s') (hop : op.AllOrNothing) :
    s' = s ∨ (∃ req, op = .initiatePayment req) ∧ s' = { s with idCounter := s.idCounter + 1 } := by
  generalize hfailure : some e = failure at hc
  cases hc with
  | refused op e => exact .inl rfl
  | idDrawn req e => exact .inr ⟨⟨req, rfl⟩, rfl⟩
  | settle => exact hop.elim
  | refunded => exact hop.elim
  | scheme => cases hfailure
  | bank => cases hfailure
  | register => cases hfailure
  | deposit => cases hfailure
  | mandated => cases hfailure
  | revoked => cases hfailure
  | opened => cases hfailure
  | closed => cases hfailure
  | initiated => cases hfailure
  | rejected => cases hfailure
  | returned => cases hfailure

/-- **All or nothing.** In every state reached from a new network, a call of
`Deposit`, `CreateMandate`, `RevokeMandate`, `OpenCycle`, `CloseCycle`,
`InitiatePayment` or `RejectPayment` that fails leaves all ledgers, deposit layers,
payments, cycles, mandates, settlements and indexes as they were. -/
theorem allOrNothing_reached (start : Clock) (steps : List (Clock × Op Amount))
    (now : Time) (op : Op Amount) (hop : op.AllOrNothing) {e : Err}
    {s' : Network Amount} (herr : call now op (reached start steps) = .error e s') :
    s' = { reached start steps with idCounter := s'.idCounter } ∧
      (reached start steps).idCounter ≤ s'.idCounter := by
  have hc := (wf_reached start steps).call_change now op
  rw [Changes, herr, Call.failure_error, Call.state_error] at hc
  rcases hc.unchanged hop with rfl | ⟨-, rfl⟩
  · exact ⟨rfl, le_rfl⟩
  · exact ⟨rfl, Nat.le_succ _⟩

/-- Alice has 68 left of her 100 and cannot pay 100; the attempt draws an id. -/
theorem allOrNothing_busyDay :
    let s := reached noon busyDay
    let overspend : Op ℤ := .initiatePayment
      { scheme := Scheme.sct.id
        debtor := { participant := ⟨"bank_1"⟩, account := ⟨"dep_1"⟩ }
        creditor := { participant := ⟨"bank_2"⟩, account := ⟨"dep_1"⟩ }
        amount := 100 }
    ∃ s', call noon.now overspend s = .error (.deposit .insufficientAvailable) s' ∧
      s' = { s with idCounter := s'.idCounter } := by
  intro s overspend
  have herr : call noon.now overspend s = .error (.deposit .insufficientAvailable)
      (Call.state (call noon.now overspend s)) :=
    Call.eq_error_of_failure (by decide +kernel)
  exact ⟨_, herr, (allOrNothing_reached noon busyDay noon.now overspend trivial herr).1⟩

end Network

end CoreBanking.Payment
