import CoreBanking.Api.Atomic
import CoreBanking.Api.Links

/-!
# What handlers answer

Run alone on a sound network, a handler that makes one call does not panic. It answers with a
success, and what the response names is there (`served_handle`).
-/

namespace CoreBanking.Api

open Concurrent
open Ledger (Book)
open Deposit (Register)
open Payment (Network Participant ParticipantID)

variable {Amount α β : Type}

/-- The statuses of requests that are not refused. -/
def successes : List ℕ := [200, 201, 204]

theorem ok_mem {d : DTO Amount} : (ok d).status ∈ successes := List.mem_cons_self

theorem created_mem {d : DTO Amount} : (created d).status ∈ successes :=
  List.mem_cons_of_mem _ List.mem_cons_self

theorem noContent_mem : (noContent : Response Amount).status ∈ successes :=
  List.mem_cons_of_mem _ (List.mem_cons_of_mem _ List.mem_cons_self)

theorem not_success {n : ℕ} (hn : n ∈ clientErrors) : n ∉ successes := by
  simp only [clientErrors, List.mem_cons, List.not_mem_nil, or_false] at hn
  rcases hn with rfl | rfl | rfl | rfl <;> decide

/-- A refusal is not a success, whether the domain has panicked or not. -/
theorem refusal_not_success (e : Refusal) :
    (e.response : Response Amount).status ∉ successes := by
  by_cases he : e.Panics
  · cases e with
    | badRequest message => exact he.elim
    | error e =>
      have hpanics : e.Panics := he
      rw [Refusal.response, if_pos hpanics]
      show 500 ∉ successes
      decide
  · exact not_success (Refusal.status_mem he)

/-- The response to a request at bank `pid` is a success, and all that it names is there. -/
structure Answers (pid : String) (r : Response Amount) (s : Network Amount) : Prop where
  status : r.status ∈ successes
  named : ∀ d ∈ r.entities, Named s pid d

section Answers

variable {s s' : Network Amount} {pid : String} {r : Response Amount} {d : DTO Amount}

theorem Answers.mono (h : Answers pid r s) (hr : s.Retains s') : Answers pid r s' :=
  ⟨h.status, fun d hd => (h.named d hd).mono hr⟩

theorem answers_ok (hd : Named s pid d) : Answers pid (ok d) s where
  status := ok_mem
  named _ hd' := List.mem_singleton.mp hd' ▸ hd

theorem answers_created (hd : Named s pid d) : Answers pid (created d) s where
  status := created_mem
  named _ hd' := List.mem_singleton.mp hd' ▸ hd

theorem answers_noContent : Answers pid (noContent : Response Amount) s where
  status := noContent_mem
  named _ hd := absurd hd List.not_mem_nil

end Answers

/-! ## Handlers alone -/

section Handlers

variable {now : Time} {s t : Network Amount} {pid i : String} {p : Participant Amount}

theorem alone_participant_bind (hp : s.participants.lookup ⟨i⟩ = some p)
    (f : Participant Amount → Handling Amount α) :
    (participant i >>= f).alone now s = (f p).alone now s := by
  have hbank : (participant i).alone now s = .ok p s := by
    rw [alone_bankOf, Network.getParticipant, Finmap.find_eq_ok.mpr hp]
    rfl
  rw [Prog.alone_bind, Call.bind_of_ok hbank]

theorem onLedger_eq_ok (hp : s.participants.lookup ⟨i⟩ = some p)
    {y : Call (Book Amount) Ledger.Err α} {a : α} (h : Network.onLedger ⟨i⟩ y s = .ok a t) :
    ∃ b, y p.ledger = .ok a b ∧ t = s.setParticipant ⟨i⟩ (p.withLedger b) := by
  cases hy : y p.ledger with
  | ok a' b =>
    rw [Network.onLedger_of_ok hp hy] at h
    cases h
    exact ⟨b, rfl, rfl⟩
  | error e b =>
    have hzoom : Network.onLedger ⟨i⟩ y s = Call.zoom (fun _ => p.ledger)
        (fun book s => s.setParticipant ⟨i⟩ (p.withLedger book)) .ledger y s := by
      rw [Network.onLedger, Call.get_bind, hp, orThrow_some_bind]
    have herr : Network.onLedger ⟨i⟩ y s
        = .error (.ledger e) (s.setParticipant ⟨i⟩ (p.withLedger b)) :=
      hzoom.trans (Call.zoom_of_error hy)
    rw [herr] at h
    cases h

theorem onDeposit_eq_ok (hp : s.participants.lookup ⟨i⟩ = some p)
    {y : Call (Register Amount) Deposit.Err α} {a : α}
    (h : Network.onDeposit ⟨i⟩ y s = .ok a t) :
    ∃ r, y p.deposit = .ok a r ∧ t = s.setParticipant ⟨i⟩ (p.withDeposit r) := by
  cases hy : y p.deposit with
  | ok a' r =>
    rw [Network.onDeposit_of_ok hp hy] at h
    cases h
    exact ⟨r, rfl, rfl⟩
  | error e r =>
    rw [onDeposit_error hp hy] at h
    cases h

variable [AddCommGroup Amount] [LinearOrder Amount]

/-- Alone at `s`, the handler does not panic. If it leaves a sound network, it answers with
what is there. -/
def Served (now : Time) (pid : String) (p : Handling Amount (Response Amount))
    (s : Network Amount) : Prop :=
  Call.Guarantees (fun _ => True) (fun e => ¬e.Panics) (p.alone now) s
    fun r s' => s'.Sound → Answers pid r s'

/-- A bank in the path that is not there is a refusal. -/
theorem served_participant {f : Participant Amount → Handling Amount (Response Amount)}
    (hf : ∀ p, s.participants.lookup ⟨i⟩ = some p → Served now pid (f p) s) :
    Served now pid (participant i >>= f) s := by
  cases hp : s.participants.lookup ⟨i⟩ with
  | none =>
    have hbank : (participant i).alone now s = .error (.error .participantNotFound) s := by
      rw [alone_bankOf, Network.getParticipant, Finmap.find, hp]
      rfl
    rw [Served, Prog.alone_bind]
    exact .of_error (Call.bind_of_error hbank _) trivial not_false
  | some p =>
    have hserved := hf p hp
    rw [Served, Call.Guarantees] at hserved ⊢
    rw [alone_participant_bind hp]
    exact hserved

theorem served_body {x : Except String α} {f : α → Handling Amount (Response Amount)}
    (hf : ∀ a, Served now pid (f a) s) : Served now pid (orBadRequest x >>= f) s := by
  cases x with
  | ok a => exact hf a
  | error message => exact ⟨trivial, not_false⟩

/-- A call of the domain, and its response. -/
theorem served_call {x : Program Amount α} {g : α → Response Amount}
    (hok : ∀ a s', x.alone now s = .ok a s' → s'.Sound → Answers pid (g a) s')
    (herror : ∀ e s', x.alone now s = .error e s' → ¬e.Panics) :
    Served now pid (call x >>= fun a => pure (g a)) s := by
  rw [Served, Prog.alone_bind, call, Prog.alone_mapError]
  cases ha : x.alone now s with
  | ok a s' =>
    exact .of_ok (Call.bind_of_ok (Prog.adaptExcept_of_ok ha _) _) trivial (hok a s' ha)
  | error e s' =>
    exact .of_error (Call.bind_of_error (Prog.adaptExcept_of_error ha _) _) trivial
      (herror e s' ha)

/-- A call on the ledger of a bank that is there. -/
theorem served_onLedger (hp : s.participants.lookup ⟨i⟩ = some p)
    {x : Time → Call (Book Amount) Ledger.Err α} (op : Book.Op Amount)
    (hop : ∀ now, Book.call now op = (x now).discard) {g : α → Response Amount}
    (hg : ∀ a b s', x now p.ledger = .ok a b → s'.Sound →
      s'.participants.lookup ⟨i⟩ = some (p.withLedger b) → Answers pid (g a) s') :
    Served now pid (call (onLedger ⟨i⟩ .write x) >>= fun a => pure (g a)) s := by
  refine served_call (fun a s' ha hs' => ?_) fun e s' he => ?_
  · rw [alone_onLedger] at ha
    obtain ⟨b, hx, rfl⟩ := onLedger_eq_ok hp ha
    exact hg a b _ hx hs' (Finmap.lookup_insert _)
  · rw [alone_onLedger] at he
    exact ((Network.onLedger_safe (.refl s) (Finmap.mem_of_lookup_eq_some hp) op
      (hop now)).error he).2

/-- A call on the register of a bank. -/
theorem served_onDeposit (h : s.Sound) (hp : s.participants.lookup ⟨i⟩ = some p)
    {x : Program Amount α} {operation : Time → Call (Register Amount) Deposit.Err α} {m : Mode}
    (hx : x.alone now = Network.onDeposit ⟨i⟩ (operation now)) (hkeeps : Keeps m operation)
    {g : α → Response Amount}
    (hg : ∀ a r s', operation now p.deposit = .ok a r → s'.Sound →
      s'.participants.lookup ⟨i⟩ = some (p.withDeposit r) → Answers pid (g a) s') :
    Served now pid (call x >>= fun a => pure (g a)) s := by
  refine served_call (fun a s' ha hs' => ?_) fun e s' he => ?_
  · rw [hx] at ha
    obtain ⟨r, hr, rfl⟩ := onDeposit_eq_ok hp ha
    exact hg a r _ hr hs' (Finmap.lookup_insert _)
  · rw [hx] at he
    exact hkeeps.not_panics h he

/-- A call on the register in sections. -/
theorem served_program {γ δ : Type} (h : s.Sound)
    (hp : s.participants.lookup ⟨i⟩ = some p) {x : Sections Amount γ δ α} {m m' m'' : Mode}
    {operation : Time → Call (Register Amount) Deposit.Err α}
    (hrun : ∀ now, x.run now = operation now) (hkeeps : Keeps m operation)
    {g : α → Response Amount}
    (hg : ∀ a r s', operation now p.deposit = .ok a r → s'.Sound →
      s'.participants.lookup ⟨i⟩ = some (p.withDeposit r) → Answers pid (g a) s') :
    Served now pid (call (x.program ⟨i⟩ m' m'') >>= fun a => pure (g a)) s := by
  refine served_onDeposit h hp ?_ hkeeps hg
  rw [Sections.alone_program, hrun]

end Handlers

/-! ## What calls return -/

section Stored

variable {now : Time} {b b' : Book Amount} {r r' : Register Amount}

/-- The reversal is stored. -/
theorem reverseTransaction_stored {id : Ledger.TransactionID} {description : String}
    {tx : Ledger.Transaction Amount}
    (h : Book.reverseTransaction now id description b = .ok tx b') :
    b'.transactions.lookup tx.id = some tx := by
  obtain ⟨original, -, -, rfl, rfl⟩ := Book.reverseTransaction_eq_ok.mp h
  exact Finmap.lookup_insert _

theorem createLedger_stored {name : String} {l : Ledger.Ledger}
    (h : Book.createLedger now name b = .ok l b') : b'.ledgers.lookup l.id = some l := by
  cases h
  exact Finmap.lookup_insert _

theorem createSubledger_stored {id : Ledger.LedgerID} {name : String} {sl : Ledger.Subledger}
    (h : Book.createSubledger now id name b = .ok sl b') :
    b'.subledgers.lookup sl.id = some sl := by
  rw [Book.createSubledger, Call.get_bind] at h
  cases hl : b.ledgers.lookup id with
  | none =>
    rw [hl] at h
    cases h
  | some l =>
    rw [hl, orThrow_some_bind] at h
    cases h
    exact Finmap.lookup_insert _

theorem createAccount_stored {id : Ledger.SubledgerID} {name : String}
    {type : Ledger.AccountType} {a : Ledger.Account}
    (h : Book.createAccount now id name type b = .ok a b') : b'.accounts.lookup a.id = some a := by
  rw [Book.createAccount, Call.get_bind] at h
  cases hsl : b.subledgers.lookup id with
  | none =>
    rw [hsl] at h
    cases h
  | some sl =>
    rw [hsl, orThrow_some_bind] at h
    cases h
    exact Finmap.lookup_insert _

theorem openAccount_stored {subledger : Ledger.SubledgerID} {name : String} {limit : Amount}
    {a : Deposit.Account Amount}
    (h : Register.openAccount now subledger name limit r = .ok a r') :
    r'.accounts.lookup a.id = some a := by
  rw [Register.openAccount_eq] at h
  split at h <;> cases h
  exact Finmap.lookup_insert _

theorem createHold_stored [AddCommGroup Amount] [LinearOrder Amount]
    {req : Deposit.CreateHoldRequest Amount} {hold : Deposit.Hold Amount}
    (h : Register.createHold now req r = .ok hold r') :
    r'.holds.lookup hold.id = some hold := by
  have hstored : Call.Guarantees (fun _ => True) (fun _ => True) (Register.createHold now req) r
      fun hold r' => r'.holds.lookup hold.id = some hold := by
    refine .read (.orThrow (fun _ => ⟨trivial, trivial⟩) fun acct _ => ?_)
    refine .ofExcept (fun _ _ => ⟨trivial, trivial⟩) fun _ _ => ?_
    refine .require (fun _ => ⟨trivial, trivial⟩) fun _ => ?_
    refine .ofExcept (fun _ _ => ⟨trivial, trivial⟩) fun available _ => ?_
    refine .require (fun _ => ⟨trivial, trivial⟩) fun _ => ?_
    exact .of_ok rfl trivial (Finmap.lookup_insert _)
  exact (hstored.ok h).2

theorem captureHold_stored [AddCommGroup Amount] [LinearOrder Amount] {id : Deposit.HoldID}
    {counterparty : Ledger.AccountID} {amount : Amount} {description : String}
    {tx : Ledger.Transaction Amount}
    (h : Register.captureHold now id counterparty amount description r = .ok tx r') :
    r'.book.transactions.lookup tx.id = some tx := by
  rcases Register.captureHold_cases now id counterparty amount description r with
    ⟨e, he⟩ | ⟨hold, acct, -, -, -, -, hok⟩
  · rw [he] at h
    cases h
  · rw [hok] at h
    cases h
    exact Finmap.lookup_insert _

/-- The snapshot that has been taken is stored. -/
theorem takeEndOfDaySnapshot_stored [AddCommGroup Amount] {id : Deposit.AccountID} {date : Time}
    {snap : Deposit.Snapshot Amount}
    (h : Register.takeEndOfDaySnapshot now id date r = .ok snap r') :
    (r'.byDate id).lookup date.dateKey = some snap := by
  obtain ⟨-, -, rfl, -⟩ := Register.takeEndOfDaySnapshot_eq_ok h
  rcases Register.takeEndOfDaySnapshot_cases now id snap.date r with ⟨e, he⟩ | ⟨snap', hok⟩
  · rw [he] at h
    cases h
  · rw [hok] at h
    cases h
    show ((r.withSnapshot id snap).byDate id).lookup _ = _
    rw [Register.byDate_withSnapshot, if_pos rfl]
    exact Finmap.lookup_insert _

theorem createMandate_stored {debtor creditor : Payment.PartyRef} {maxAmount : Amount}
    {s s' : Network Amount} {m : Payment.Mandate Amount}
    (h : Network.createMandate now debtor creditor maxAmount s = .ok m s') :
    s'.mandates.lookup m.id = some m := by
  rcases Network.createMandate_cases now debtor creditor maxAmount s with ⟨e, he⟩ | hok
  · rw [he] at h
    cases h
  · rw [hok] at h
    cases h
    exact Finmap.lookup_insert _

theorem openCycleFor_stored {scheme : Payment.SchemeID} {s s' : Network Amount}
    {c : Payment.ClearingCycle Amount} (h : Network.openCycleFor now scheme s = .ok c s') :
    s'.cycles.lookup c.id = some c := by
  rcases Network.openCycleFor_cases now scheme s with ⟨e, he⟩ | ⟨-, hok⟩
  · rw [he] at h
    cases h
  · rw [hok] at h
    cases h
    exact Finmap.lookup_insert _

theorem closeCycle_stored [AddCommGroup Amount] {id : Payment.CycleID} {s s' : Network Amount}
    {c : Payment.ClearingCycle Amount} (h : Network.closeCycle now id s = .ok c s') :
    s'.cycles.lookup id = some c := by
  have hstored : Call.Guarantees (fun _ => True) (fun _ => True) (Network.closeCycle now id) s
      fun c s' => s'.cycles.lookup id = some c := by
    refine .read (.orThrow (fun _ => ⟨trivial, trivial⟩) fun c _ => ?_)
    refine .require (fun _ => ⟨trivial, trivial⟩) fun _ => ?_
    refine .bind (P := fun _ _ => True) ?_ fun net s₁ _ _ => ?_
    · rw [Call.Guarantees]
      split <;> exact ⟨trivial, trivial⟩
    · exact .of_ok rfl trivial (Finmap.lookup_insert _)
  exact (hstored.ok h).2

end Stored

/-! ## Requests -/

section Requests

variable [AddCommGroup Amount] [LinearOrder Amount] {s : Network Amount} {now : Time}

/-- A GET. -/
theorem served_view (h : s.Sound) {c : Choices Amount} {req : Request Amount}
    {x : Except Refusal (Response Amount)} (hx : view c now s req = some x) :
    Served now req.bank (handle c req) s := by
  rw [Served, Call.Guarantees, alone_of_view hx]
  cases x with
  | ok r =>
    refine ⟨trivial, fun hs => ⟨?_, named_of_view hs hx⟩⟩
    rw [(present_of_view hx).1]
    exact List.mem_cons_self
  | error e => exact ⟨trivial, view_not_panics h hx⟩

/-- **A handler that makes one call answers with what is there**, or refuses. -/
theorem served_handle (h : s.Sound) (c : Choices Amount) {req : Request Amount}
    (hreq : req.Single) (now : Time) : Served now req.bank (handle c req) s := by
  cases req with
  | createLedger pid body =>
    refine served_participant fun p hp => served_body fun req => ?_
    exact served_onLedger hp (.createLedger _) (fun _ => rfl) fun l b s' hl hs' hp' =>
      answers_created (named_ledger hs' hp' (createLedger_stored hl))
  | createSubledger pid lid body =>
    refine served_participant fun p hp => served_body fun req => ?_
    exact served_onLedger hp (.createSubledger _ _) (fun _ => rfl) fun sl b s' hsl hs' hp' =>
      answers_created (named_subledger hs' hp' (createSubledger_stored hsl))
  | createAccount pid sid body =>
    refine served_participant fun p hp => served_body fun req => served_body fun type => ?_
    exact served_onLedger hp (.createAccount _ _ _) (fun _ => rfl) fun a b s' ha hs' hp' =>
      answers_created (named_account hs' hp' (createAccount_stored ha))
  | postTransaction pid body =>
    refine served_participant fun p hp => served_body fun req => served_body fun req' => ?_
    exact served_onLedger hp (.postTransaction _) (fun _ => rfl) fun tx b s' htx hs' hp' =>
      answers_created (named_transaction hs' hp' (Book.postTransaction_stored htx))
  | reverseTransaction pid tid body =>
    refine served_participant fun p hp => served_body fun req => ?_
    exact served_onLedger hp (.reverseTransaction _ _) (fun _ => rfl)
      fun tx b s' htx hs' hp' =>
        answers_created (named_transaction hs' hp' (reverseTransaction_stored htx))
  | openDepositAccount pid body =>
    refine served_participant fun p hp => served_body fun req => ?_
    exact served_program h hp (fun now => run_openAccount now _ _ _)
      (.of_call (.openAccount _ _ _) fun _ => rfl) fun a r s' ha hs' hp' =>
        answers_created (named_depositAccount hs' hp' (openAccount_stored ha))
  | closeDepositAccount pid did =>
    refine served_participant fun p hp => ?_
    exact served_program h hp (fun now => run_close now _)
      (.of_call (.close _) fun _ => (Call.discard_self _).symm)
      fun _ _ _ _ _ _ => answers_noContent
  | createHold pid did body =>
    refine served_participant fun p hp => served_body fun req => ?_
    exact served_program h hp (fun now => run_createHold now _)
      (.of_call (.createHold _) fun _ => rfl) fun hold r s' hhold hs' hp' =>
        answers_created (named_hold hs' hp' (createHold_stored hhold))
  | releaseHold pid hid =>
    refine served_participant fun p hp => ?_
    exact served_onDeposit h hp (alone_onRegister _ _ _ _)
      (.of_call (.releaseHold _) fun _ => (Call.discard_self _).symm)
      fun _ _ _ _ _ _ => answers_noContent
  | captureHold pid hid body =>
    refine served_participant fun p hp => served_body fun req => ?_
    exact served_program h hp (fun now => run_captureHold now _ _ _ _)
      (.of_call (.captureHold _ _ _ _) fun _ => rfl) fun tx r s' htx hs' hp' =>
        answers_created (named_transaction hs' hp' (captureHold_stored htx))
  | takeSnapshot pid did body =>
    refine served_participant fun p hp => served_body fun req => served_body fun day => ?_
    exact served_program h hp (fun now => run_takeEndOfDaySnapshot now _ _)
      (.of_call (.takeEndOfDaySnapshot _ _) fun _ => rfl) fun snap r s' hsnap hs' hp' =>
        answers_created (named_snapshot hs' hp' (takeEndOfDaySnapshot_stored hsnap))
  | createMandate body =>
    refine served_body fun req => served_call (fun m s' hm hs' => ?_) fun e s' he => ?_
    · rw [alone_createMandate] at hm
      exact answers_created (named_mandate hs' (createMandate_stored hm))
    · rw [alone_createMandate] at he
      exact ((Network.createMandate_safe s now _ _ _).error he).2
  | openCycle body =>
    refine served_body fun req => served_call (fun c s' hc hs' => ?_) fun e s' he => ?_
    · rw [alone_openCycleFor] at hc
      exact answers_created (named_cycle hs' (openCycleFor_stored hc))
    · rw [alone_openCycleFor] at he
      exact ((Network.openCycleFor_outcome s now _).error he).2
  | closeCycle cid =>
    refine served_call (fun c s' hc hs' => ?_) fun e s' he => ?_
    · rw [alone_closeCycle] at hc
      exact answers_ok (named_cycle hs' (closeCycle_stored hc))
    · rw [alone_closeCycle] at he
      exact ((Network.closeCycle_safe h now _).error he).2
  | listParticipants => exact served_view h rfl
  | getParticipant => exact served_view h rfl
  | listSchemes => exact served_view h rfl
  | getReserve => exact served_view h rfl
  | centralBankAudit => exact served_view h rfl
  | listLedgers => exact served_view h rfl
  | getLedger => exact served_view h rfl
  | listSubledgers => exact served_view h rfl
  | getSubledger => exact served_view h rfl
  | listAccounts => exact served_view h rfl
  | getAccount => exact served_view h rfl
  | bookBalance => exact served_view h rfl
  | listTransactions => exact served_view h rfl
  | getTransaction => exact served_view h rfl
  | ledgerAudit => exact served_view h rfl
  | listDepositAccounts => exact served_view h rfl
  | getDepositAccount => exact served_view h rfl
  | depositBalance => exact served_view h rfl
  | listHolds => exact served_view h rfl
  | getHold => exact served_view h rfl
  | getSnapshots => exact served_view h rfl
  | depositAudit => exact served_view h rfl
  | listMandates => exact served_view h rfl
  | getMandate => exact served_view h rfl
  | listPayments => exact served_view h rfl
  | getPayment => exact served_view h rfl
  | listCycles => exact served_view h rfl
  | getCycle => exact served_view h rfl
  | listSettlements => exact served_view h rfl
  | getSettlement => exact served_view h rfl
  | addParticipant => exact absurd hreq not_false
  | fundDeposit => exact absurd hreq not_false
  | listReserves => exact absurd hreq not_false
  | depositStatus => exact absurd hreq not_false
  | revokeMandate => exact absurd hreq not_false
  | initiatePayment => exact absurd hreq not_false
  | rejectPayment => exact absurd hreq not_false
  | returnPayment => exact absurd hreq not_false
  | settleCycle => exact absurd hreq not_false

end Requests

end CoreBanking.Api
