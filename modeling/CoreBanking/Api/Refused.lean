import CoreBanking.Api.Calls
import CoreBanking.Api.Sessions

/-!
# Requests that are refused

A client that gets no success does not know how far its request went. For all requests but
two it went nowhere (`refused_unchanged`), if clients have not posted to the ledgers
themselves: a payment that is refused may have drawn an id, and only a settlement and a return
can stop half way.
-/

namespace CoreBanking.Api

open Ledger (Book)
open Payment (Network)
open Payment.Network (Op ClientOp clientCall clientExec)

variable {Amount : Type} [AddCommGroup Amount] [LinearOrder Amount] {s s' : Network Amount}
  {now : Clock} {o : ClientOp Amount}

/-- A call that fails, and takes effect as a whole, draws an id for a payment at most. -/
theorem failed_unchanged (h : s.WF) (ho : AllOrNothingOp o)
    (hfailed : Call.failure (clientCall now.now o s) ≠ none) :
    clientExec (now, o) s = s ∨ (∃ req, o = .network (.initiatePayment req)) ∧
      clientExec (now, o) s = { s with idCounter := s.idCounter + 1 } := by
  obtain ⟨e, he⟩ := Option.ne_none_iff_exists'.mp hfailed
  have herr := Call.eq_error_of_failure he
  cases o with
  | network op =>
    have hc : Network.Change now.now s op (some e) (clientExec (now, .network op) s) := by
      have hchange := h.call_change now.now op
      have hfails : Call.failure (Network.call now.now op s) = some e := he
      rwa [Network.Changes, hfails] at hchange
    rcases hc.unchanged ho with hsame | ⟨⟨req, rfl⟩, hdrawn⟩
    · exact .inl hsame
    · exact .inr ⟨⟨req, rfl⟩, hdrawn⟩
  | ledger i op =>
    left
    cases hb : s.participants.lookup i with
    | none =>
      rw [clientExec, Call.final, clientCall, Call.get_bind, hb]
      rfl
    | some b =>
      have hcall : clientCall now.now (.ledger i op) s
          = Network.onLedger i (Book.call now.now op) s := by
        rw [clientCall, Call.get_bind, hb, orThrow_some_bind]
      rcases Book.call_cases now.now op b.ledger with ⟨-, e', he'⟩ | ⟨b', event, hok, -, -⟩
      · rw [clientExec, Call.final_of_error (hcall.trans (Network.onLedger_of_error hb he'))]
      · rw [hcall, Network.onLedger_of_ok hb hok, Call.failure_ok] at he
        cases he

/-- A request that does not post to a ledger keeps the invariant of the network. -/
theorem Arrival.wf_exec (a : Arrival Amount) (ha : ¬a.request.OnLedger) (h : s.Sound ∧ s.WF) :
    (a.exec s).Sound ∧ (a.exec s).WF := by
  refine ⟨a.sound_exec h.1, ?_⟩
  obtain ⟨r, -, hexec, -⟩ := a.served_eq h.1
  have hnetwork := forall_op a.choices s a.request
  rw [hexec]
  cases ho : a.op s with
  | none => exact h.2
  | some o =>
    cases o with
    | network op => exact Network.exec_wf (a.now, op) s h.2
    | ledger i op => exact absurd trivial ((hnetwork _ ho).ledger ha)

/-- **A request that is refused leaves no trace**, unless it asks to settle a cycle or to return
a payment. A payment that is refused may have drawn an id. -/
theorem refused_unchanged (start : Clock) (as : List (Arrival Amount))
    (has : ∀ a ∈ as, ¬a.request.OnLedger) (a : Arrival Amount) (ha : a.request.AllOrNothing)
    {r : Response Amount} {s' : Network Amount}
    (hserved : a.served (run Arrival.exec (Network.newNetwork Amount start.now) as) = .ok r s')
    (hrefused : r.status ∉ [200, 201, 204]) :
    let s := run Arrival.exec (Network.newNetwork Amount start.now) as
    s' = s ∨ (∃ body, a.request = .initiatePayment body) ∧
      s' = { s with idCounter := s.idCounter + 1 } := by
  have hnew : (Network.newNetwork Amount start.now).Sound := Network.sound_newNetwork start.now
  intro s
  have hstep : ∀ (a : Arrival Amount) (s : Network Amount), s.Sound ∧ s.WF →
      ¬a.request.OnLedger → (a.exec s).Sound ∧ (a.exec s).WF := fun a _ h ha => a.wf_exec ha h
  obtain ⟨hsound, hwf⟩ : s.Sound ∧ s.WF :=
    Along.invariant hstep ⟨hnew, Network.wf_newNetwork start.now⟩ (Along.of_forall has _)
  obtain ⟨r', hr', hexec, hcalls⟩ := a.served_eq hsound
  rw [hserved] at hr'
  cases hr'
  have hop := forall_op a.choices s a.request
  rw [hexec]
  cases ho : a.op s with
  | none => exact .inl rfl
  | some o =>
    have hfits := hop o ho
    have hfailed : Call.failure (clientCall a.now.now o s) ≠ none :=
      fun hnone => hrefused ((hcalls o ho).mpr hnone)
    rcases failed_unchanged hwf (hfits.allOrNothing ha) hfailed with hsame | ⟨hpays, hdrawn⟩
    · exact .inl hsame
    · exact .inr ⟨hfits.initiates hpays, hdrawn⟩

/-! ## A payment without funds -/

/-- The network after a request, by the call that the request makes. -/
def Arrival.effect (a : Arrival Amount) (s : Network Amount) : Network Amount :=
  (a.op s).elim s fun o => clientExec (a.now, o) s

theorem run_effect (as : List (Arrival Amount)) (h : s.Sound) :
    run Arrival.exec s as = run Arrival.effect s as := by
  induction as generalizing s with
  | nil => rfl
  | cons a as ih =>
    obtain ⟨r, -, hexec, -⟩ := a.served_eq h
    show run Arrival.exec (a.exec s) as = run Arrival.effect (a.effect s) as
    rw [ih (a.sound_exec h), hexec]
    rfl

def morning : Clock := ⟨⟨1, 0⟩, by decide⟩

/-- Alice opens an account at a new bank, and a cycle is opened for transfers. -/
def beforehand : List (Arrival ℤ) :=
  [⟨morning, .byName, .addParticipant (.ok ⟨"A"⟩)⟩,
    ⟨morning, .byName, .openDepositAccount "bank_1" (.ok ⟨"Alice", 0⟩)⟩,
    ⟨morning, .byName, .openCycle (.ok ⟨"sepa.ct"⟩)⟩]

/-- She transfers what she does not have. -/
def unfunded : InitiatePaymentRequestDTO ℤ :=
  { scheme := "sepa.ct"
    debtor := ⟨"bank_1", "dep_1", ""⟩
    creditor := ⟨"bank_1", "dep_1", ""⟩
    amount := 5 }

/-- The payment is refused, and has drawn an id. -/
theorem refused_unchanged_unfunded :
    let a : Arrival ℤ := ⟨morning, .byName, .initiatePayment (.ok unfunded)⟩
    let s := run Arrival.exec (Network.newNetwork ℤ morning.now) beforehand
    ∃ r s', a.served s = .ok r s' ∧ r.status ∉ [200, 201, 204] ∧
      (s' = s ∨ (∃ body, a.request = .initiatePayment body) ∧
        s' = { s with idCounter := s.idCounter + 1 }) := by
  intro a s
  have hnew : (Network.newNetwork ℤ morning.now).Sound := Network.sound_newNetwork morning.now
  obtain ⟨r, hserved, -, hcalls⟩ :=
    a.served_eq (s := s) (run_invariant (fun a _ h => a.sound_exec h) hnew beforehand)
  have hfails : Call.failure (clientCall morning.now (.network (.initiatePayment
      unfunded.toDomain)) s) = some (.deposit .insufficientAvailable) := by
    rw [show s = _ from run_effect beforehand hnew]
    decide +kernel
  have hrefused : r.status ∉ [200, 201, 204] := by
    intro hstatus
    rw [(hcalls _ rfl).mp hstatus] at hfails
    cases hfails
  exact ⟨r, _, hserved, hrefused, refused_unchanged morning beforehand
    (by simp [beforehand, Request.OnLedger]) a trivial hserved hrefused⟩

end CoreBanking.Api
