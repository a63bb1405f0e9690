import CoreBanking.Api.View
import CoreBanking.Concurrent.Safety

/-!
# Requests that take effect at one moment

Between the calls of a handler, and between the sections of a call, other requests are served.
Still, most requests are answered as if they had been served alone, at some moment between
their arrival and their response (`indivisible_handle`): what a handler looks up before its
last call stays, and that call takes effect at one moment.

The others (`Request.Single`) make several calls that can be told apart: a listing of reserves
reads one reserve after another, and a payment is validated before it is posted.
-/

namespace CoreBanking.Api

open Concurrent
open Ledger (Book)
open Deposit (Register)
open Payment (Network Participant ParticipantID)

variable {Amount ε α β : Type} [AddCommGroup Amount] [LinearOrder Amount]

/-- Whatever others do, the program ends as it does alone, at one moment while it runs. -/
def Indivisible (p : Prog Lock Time (Network Amount) ε α) : Prop :=
  ∀ held s, s.Sound → AtomicIn held p (fun now => p.alone now) s

namespace Indivisible

theorem of_atomic {p : Prog Lock Time (Network Amount) ε α}
    {x : Time → Call (Network Amount) ε α} (hx : ∀ now, p.alone now = x now)
    (hp : ∀ held s, s.Sound → AtomicIn held p x s) : Indivisible p := by
  intro held s h
  rw [show (fun now => p.alone now) = x from funext hx]
  exact hp held s h

/-! ## Calls -/

theorem query (f : Network Amount → Except Payment.Err α) : Indivisible (query f) :=
  .of_atomic (fun now => alone_query now f) fun _ _ _ => atomic_query f

theorem onLedger {i : ParticipantID} {m : Mode} {x : Time → Call (Book Amount) Ledger.Err α}
    (hx : Calling x) : Indivisible (onLedger i m x) :=
  .of_atomic (fun now => alone_onLedger now i m x) fun _ _ _ => atomic_onLedger hx

theorem onCentralBank {m : Mode} {x : Time → Call (Book Amount) Ledger.Err α}
    (hx : Calling x) : Indivisible (onCentralBank m x) :=
  .of_atomic (fun now => alone_onCentralBank now m x) fun _ _ _ => atomic_onCentralBank hx

theorem onRegister {i : ParticipantID} {m : Mode}
    {x : Time → Call (Register Amount) Deposit.Err α} (hx : Keeps m x) :
    Indivisible (onRegister i m x) :=
  .of_atomic (fun now => alone_onRegister now i m x) fun _ _ h => atomic_onRegister h hx

/-- A call on a register in sections, of which it is known what it does in sequence. -/
theorem program {γ δ : Type} {x : Sections Amount γ δ α} {i : ParticipantID} {m m' : Mode}
    {operation : Time → Call (Register Amount) Deposit.Err α}
    (hrun : ∀ now, x.run now = operation now) (hx : x.Lawful) (hkeeps : Keeps m operation) :
    Indivisible (x.program i m m') := by
  refine .of_atomic (x := fun now => Network.onDeposit i (operation now)) (fun now => ?_)
    fun _ _ h => Sections.atomic_operation h hx hrun hkeeps
  rw [Sections.alone_program, hrun]

/-! ## Handlers -/

theorem fail (e : ε) : Indivisible (.fail e : Prog Lock Time (Network Amount) ε α) :=
  fun _ s _ => Prog.SafeFrom.fail ⟨Time.zero, s, s, within_goes.refl s, rfl⟩

theorem call {p : Program Amount α} (hp : Indivisible p) : Indivisible (call p) :=
  .of_atomic (fun now => Prog.alone_mapError now _ p) fun held s h => (hp held s h).mapError _

/-- A call, and its response. -/
theorem respond {p : Program Amount α} (hp : Indivisible p) (g : α → Response Amount) :
    Indivisible (Api.call p >>= fun a => pure (g a)) :=
  .of_atomic (fun now => Prog.alone_bind now _ _) fun held s h =>
    (hp.call held s h).map within_goes g

theorem parsed {x : Except String α} {f : α → Handling Amount β}
    (hf : ∀ a, x = .ok a → Indivisible (f a)) : Indivisible (orBadRequest x >>= f) := by
  cases x with
  | ok a => exact hf a rfl
  | error message => exact fail (Refusal.badRequest message)

theorem body {x : Except String α} {f : α → Handling Amount β} (hf : ∀ a, Indivisible (f a)) :
    Indivisible (orBadRequest x >>= f) :=
  parsed fun a _ => hf a

omit [AddCommGroup Amount] [LinearOrder Amount] in
/-- The bank that has been found, and what it is later. -/
theorem found_participant {pid : String} {now : Time} {t t' t'' : Network Amount}
    {p : Participant Amount} (hp : (participant pid).alone now t = .ok p t')
    (hr : t'.Retains t'') : ∃ p', p.Retains p' ∧ ∀ now,
      (participant pid : Handling Amount _).alone now t'' = .ok p' t'' := by
  rw [alone_bankOf] at hp
  cases hfind : t.getParticipant ⟨pid⟩ with
  | error e =>
    rw [hfind] at hp
    cases hp
  | ok q =>
    rw [hfind] at hp
    cases hp
    obtain ⟨p', hp', hkept⟩ := hr.participants _ p (Finmap.find_eq_ok.mp hfind)
    refine ⟨p', hkept, fun now => ?_⟩
    rw [alone_bankOf, Network.getParticipant, Finmap.find_eq_ok.mpr hp']
    rfl

/-- A bank is found, of which what follows uses what stays. -/
theorem bank {pid : String} {f : Participant Amount → Handling Amount α}
    (hstays : ∀ p p', p.Retains p' → f p' = f p) (hf : ∀ p, Indivisible (f p)) :
    Indivisible (participant pid >>= f) := by
  refine .of_atomic (fun now => Prog.alone_bind now _ _) fun held s h => ?_
  have hbank : AtomicIn held (participant pid) (fun now => (participant pid).alone now) s :=
    call (query _) held s h
  refine .after within_goes (hbank.mono (fun p s' hp => ?_) fun _ he => he)
  obtain ⟨now, t, t', ht, hp, hsame, hlater⟩ := hp
  have hgoes : Goes t' s' := hlater
  have hs' := (ht.trans (hsame.trans hgoes)) h
  refine ⟨ht.trans (hsame.trans hgoes), fun now' t'' ht'' => ?_, hf p held s' hs'.1⟩
  have ht' := (ht.trans hsame) h
  obtain ⟨p', hkept, hfound⟩ := found_participant hp ((hgoes.trans ht'') ht'.1).2
  exact ⟨p', hfound now', by rw [hstays p p' hkept]⟩

/-- What follows does not use the bank. -/
theorem bankFirst {pid : String} {q : Handling Amount α} (hq : Indivisible q) :
    Indivisible (participant pid >>= fun _ => q) :=
  bank (fun _ _ _ => rfl) fun _ => hq

/-- A look at the ledger of a bank, and the response. -/
theorem viewLedger (pid : String) (f : Book Amount → Except Ledger.Err α)
    (g : α → Response Amount) :
    Indivisible (participant pid >>= fun _ => readLedger pid f >>= fun a => pure (g a)) :=
  bankFirst (respond (onLedger (.of_reading f)) g)

@[inherit_doc viewLedger]
theorem viewDeposit (pid : String) {f : Register Amount → Except Deposit.Err α}
    (hf : ∀ r e, f r = .error e → ¬e.Panics) (g : α → Response Amount) :
    Indivisible (participant pid >>= fun _ => readDeposit pid f >>= fun a => pure (g a)) :=
  bankFirst (respond (onRegister (.of_reading (fun _ r e _ he => hf r e he) _)) g)

/-- A listing of a register. -/
theorem listDeposit (pid : String) (f : Register Amount → α) (g : α → Response Amount) :
    Indivisible (participant pid >>= fun _ => readDeposit pid (fun r => .ok (f r)) >>=
      fun a => pure (g a)) := by
  refine viewDeposit pid (fun r e he => ?_) g
  cases he

/-- A call on the ledger of a bank, and the response. -/
theorem write (pid : String) {x : Time → Call (Book Amount) Ledger.Err α} (hx : Calling x)
    (g : α → Response Amount) :
    Indivisible (Api.call (Concurrent.onLedger ⟨pid⟩ .write x) >>= fun a => pure (g a)) :=
  respond (onLedger hx) g

end Indivisible

/-- The requests whose calls cannot be told apart. -/
def Request.Single : Request Amount → Prop
  | .addParticipant _ | .fundDeposit _ _ | .listReserves | .depositStatus _ _ _
  | .revokeMandate _ | .initiatePayment _ | .rejectPayment _ _ | .returnPayment _ _
  | .settleCycle _ => False
  | _ => True

open Indivisible in
/-- **Such a request is handled as it is alone, at one moment.** -/
theorem indivisible_handle (c : Choices Amount) {req : Request Amount} (hreq : req.Single) :
    Indivisible (handle c req) := by
  cases req with
  | listParticipants => exact respond (query _) _
  | getParticipant pid => exact respond (query _) _
  | listSchemes => exact respond (query _) _
  | getReserve pid => exact respond (fun _ _ h => atomic_reserveBalance h _) _
  | centralBankAudit => exact respond (onCentralBank (.of_reading _)) _
  | createLedger pid body =>
    exact bankFirst (.body fun _ =>
      write pid (.of_call (.createLedger _) (fun _ => rfl) trivial) _)
  | listLedgers pid => exact viewLedger _ _ _
  | getLedger pid lid => exact viewLedger _ _ _
  | createSubledger pid lid body =>
    exact bankFirst (.body fun _ =>
      write pid (.of_call (.createSubledger _ _) (fun _ => rfl) trivial) _)
  | listSubledgers pid lid => exact viewLedger _ _ _
  | getSubledger pid sid => exact viewLedger _ _ _
  | createAccount pid sid body =>
    exact bankFirst (.body fun _ => .parsed fun _ htype => write pid
      (.of_call (.createAccount _ _ _) (fun _ => rfl) (accountTypeFromString_declared htype)) _)
  | listAccounts pid sid => exact viewLedger _ _ _
  | getAccount pid aid => exact viewLedger _ _ _
  | bookBalance pid aid => exact viewLedger _ _ _
  | postTransaction pid body =>
    exact bankFirst (.body fun _ => .parsed fun _ hreq => write pid
      (.of_call (.postTransaction _) (fun _ => rfl) (toDomain_declared hreq)) _)
  | listTransactions pid account => exact viewLedger _ _ _
  | getTransaction pid tid => exact viewLedger _ _ _
  | reverseTransaction pid tid body =>
    exact bankFirst (.body fun _ =>
      write pid (.of_call (.reverseTransaction _ _) (fun _ => rfl) trivial) _)
  | ledgerAudit pid entity => exact viewLedger _ _ _
  | openDepositAccount pid body =>
    refine bank (fun p p' hp => ?_) fun p => .body fun req => ?_
    · rw [hp.same]
    · exact respond (program (fun now => run_openAccount now _ _ _) (lawful_openAccount _ _ _)
        (.of_call (.openAccount _ _ _) fun _ => rfl)) _
  | listDepositAccounts pid => exact listDeposit _ _ _
  | getDepositAccount pid did =>
    exact viewDeposit pid (fun _ _ => getAccount_not_panics) _
  | depositBalance pid did =>
    exact bankFirst (respond (program (fun now => run_getBalance now _) (lawful_getBalance _)
      (.of_reading (fun _ _ _ hr he => hr.getBalance_not_panics he) _)) _)
  | closeDepositAccount pid did =>
    exact bankFirst (respond (program (fun now => run_close now _) (lawful_close _)
      (.of_call (.close _) fun _ => (Call.discard_self _).symm)) _)
  | createHold pid did body =>
    exact bankFirst (.body fun _ => respond (program (fun now => run_createHold now _)
      (lawful_createHold _) (.of_call (.createHold _) fun _ => rfl)) _)
  | listHolds pid did => exact listDeposit _ _ _
  | getHold pid hid =>
    refine viewDeposit pid (fun r e he => ?_) _
    rw [Finmap.eq_of_find_error he]
    exact not_false
  | releaseHold pid hid =>
    exact bankFirst (respond (onRegister (.of_call (.releaseHold _)
      fun _ => (Call.discard_self _).symm)) _)
  | captureHold pid hid body =>
    exact bankFirst (.body fun _ => respond (program (fun now => run_captureHold now _ _ _ _)
      (lawful_captureHold _ _ _ _) (.of_call (.captureHold _ _ _ _) fun _ => rfl)) _)
  | takeSnapshot pid did body =>
    exact bankFirst (.body fun _ => .body fun _ => respond
      (program (fun now => run_takeEndOfDaySnapshot now _ _) (lawful_snapshot _ _)
        (.of_call (.takeEndOfDaySnapshot _ _) fun _ => rfl)) _)
  | getSnapshots pid did date =>
    refine bankFirst ?_
    split
    · exact .body fun _ => respond (onRegister (.of_reading
        (fun _ _ _ _ he => getSnapshot_not_panics he) _)) _
    · refine respond (onRegister (.of_reading (fun _ _ _ _ he => ?_) _)) _
      cases he
  | depositAudit pid => exact listDeposit _ _ _
  | createMandate body =>
    exact .body fun _ => respond (.of_atomic (fun now => alone_createMandate now _ _ _)
      fun _ _ h => atomic_createMandate h _ _ _) _
  | listMandates => exact respond (query _) _
  | getMandate mid => exact respond (query _) _
  | listPayments => exact respond (query _) _
  | getPayment payid => exact respond (query _) _
  | openCycle body =>
    exact .body fun _ => respond (.of_atomic (fun now => alone_openCycleFor now _)
      fun _ _ _ => atomic_openCycleFor _) _
  | listCycles => exact respond (query _) _
  | getCycle cid => exact respond (query _) _
  | closeCycle cid =>
    exact respond (.of_atomic (fun now => alone_closeCycle now _)
      fun _ _ _ => atomic_closeCycle _) _
  | listSettlements => exact respond (query _) _
  | getSettlement sid => exact respond (query _) _
  | addParticipant => exact absurd hreq not_false
  | fundDeposit => exact absurd hreq not_false
  | listReserves => exact absurd hreq not_false
  | depositStatus => exact absurd hreq not_false
  | revokeMandate => exact absurd hreq not_false
  | initiatePayment => exact absurd hreq not_false
  | rejectPayment => exact absurd hreq not_false
  | returnPayment => exact absurd hreq not_false
  | settleCycle => exact absurd hreq not_false

end CoreBanking.Api
