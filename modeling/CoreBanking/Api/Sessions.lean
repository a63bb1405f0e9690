import CoreBanking.Api.Order
import CoreBanking.Api.Safety
import CoreBanking.Api.Serial

/-!
# Clients at work

Any number of clients send requests, each the next one when it has the response to the one
before, and what it sends may depend on that. The server handles the requests of all clients
at once, under any schedule.

- `Session`: what one client does, and `Session.run` the thread that it keeps busy, which ends
  with the transcript of the session;
- `sessions_end`: no schedule gets stuck or goes on for ever;
- `sessions_sound`: no schedule leads a bank to where its calls alone could not, and no handler
  answers with an internal error;
- `sessions_balanced`: so all ledgers balance at every moment;
- `shown_found`: what one response has shown, every later request finds.

The requests are those that have come to a handler. What the multiplexer answers by itself,
with a redirect or because the method is not allowed, makes no call.
-/

namespace CoreBanking.Api

open Concurrent
open Ledger (Book)
open Deposit (Register)
open Payment (Network Participant ParticipantID)

variable {Amount : Type} [AddCommGroup Amount] [LinearOrder Amount]

/-- What a client does: it stops, or sends a request and goes on with the response. With the
request come the choices that Go makes while it handles it. -/
inductive Session (Amount : Type) where
  | stop
  | send (c : Choices Amount) (req : Request Amount) (next : Response Amount → Session Amount)

/-- A request, and how it was answered. -/
structure Exchange (Amount : Type) where
  request : Request Amount
  response : Response Amount

/-- The requests of a session, handled one after the other. -/
def Session.run : Session Amount →
    Prog Lock Time (Network Amount) Empty (List (Exchange Amount))
  | .stop => pure []
  | .send c req next => do
    let r ← serve c req
    let log ← (next r).run
    pure (⟨req, r⟩ :: log)

/-! ## Every schedule ends -/

theorem rank_lt (l : Lock) : l.rank < 3 := by
  cases l <;> simp [Lock.rank]

theorem Session.ascends_run (client : Session Amount) :
    client.run.Ascends Lock.rank 0 := by
  induction client with
  | stop => exact .pure _
  | send c req next ih =>
    exact .bind (ascends_serve c req) fun r => .bind (ih r) fun log => .pure _

/-- **No schedule gets stuck**: as long as a session has not ended, some client can go on, even
if a waiting writer keeps new readers out, and the pool can make a step. **None goes on for
ever**: finitely many clients, each of which stops after some request, make finitely many
steps. -/
theorem sessions_end {T : Type} [DecidableEq T] (clients : T → Session Amount)
    (s : Network Amount) :
    (∀ c, Pool.Reachable s (fun t => (clients t).run) c →
      ∀ t, ¬(c.threads t).prog.Ended → (∃ t', c.CanStep t') ∧ ∃ c', Pool.Step c c') ∧
    (Finite T → ∀ run : ℕ → Pool T Lock Time (Network Amount) Empty (List (Exchange Amount)),
      ¬∀ n, Pool.Step (run n) (run (n + 1))) := by
  refine ⟨fun c hc t ht => ?_, fun _ run => Pool.no_infinite_run run⟩
  have horderly := hc.orderly fun t => (clients t).ascends_run
  have : Nonempty Time := ⟨Time.zero⟩
  obtain ⟨t', ht'⟩ := horderly.exists_canStep rank_lt ht
  exact ⟨⟨t', ht'⟩, horderly.step_of_canStep ht'⟩

/-! ## Responses -/

variable {s s' : Network Amount} {held : List (Lock × Mode)}

/-- The exchange names what `q` asks for: in the entities of a response, or by being a GET for
it that has found it. -/
inductive Exchange.Shows (e : Exchange Amount) : Request Amount → Prop
  | named {d : DTO Amount} {q : Request Amount} (hd : d ∈ e.response.entities)
    (hok : e.response.status ∈ successes) (hq : d.Names e.request.bank q) : Shows e q
  | found (hlasting : Lasting e.request) (hok : e.response.status = 200) : Shows e e.request

theorem Answered.shown {e : Exchange Amount} (h : Answered e.request s e.response s')
    {q : Request Amount} (hq : e.Shows q) : Present s' q := by
  cases hq with
  | named hd hok hq => exact h.named hok _ hd q hq
  | found hlasting hok => exact h.present hlasting hok

/-- The exchanges follow one another from `s` to `s'`, each explained by the states at its
beginning and its end. -/
def Explained (s : Network Amount) : List (Exchange Amount) → Network Amount → Prop
  | [], s' => s'.Sound ∧ s.Retains s'
  | e :: log, s' => ∃ t, Answered e.request s e.response t ∧ Explained t log s'

namespace Explained

variable {log : List (Exchange Amount)}

theorem later {s'' : Network Amount} (h : Explained s log s') (hgoes : Goes s' s'') :
    Explained s log s'' := by
  induction log generalizing s with
  | nil => exact ⟨(hgoes h.1).1, h.2.trans (hgoes h.1).2⟩
  | cons e log ih =>
    obtain ⟨t, ht, hrest⟩ := h
    exact ⟨t, ht, ih hrest⟩

/-- No request is answered with an internal error. -/
theorem status (h : Explained s log s') :
    ∀ e ∈ log, e.response.status ∈ successes ++ clientErrors := by
  induction log generalizing s with
  | nil => exact fun e he => absurd he List.not_mem_nil
  | cons e log ih =>
    obtain ⟨t, ht, hrest⟩ := h
    intro e' he'
    rcases List.mem_cons.mp he' with rfl | he'
    · exact ht.status
    · exact ih hrest e' he'

end Explained

/-- **A session under interference**: whatever others do, its transcript is explained. -/
theorem explained_run (h : s.Sound) (client : Session Amount) :
    Prog.Safe (interference Amount) (fun _ => False) held client.run s (Explained s) := by
  have hstable : ∀ (s₀ : Network Amount),
      Prog.Stable (interference Amount) held (Explained s₀) :=
    fun s₀ log t t' ht hs => ht.later (within_goes.rely hs)
  induction client generalizing s with
  | stop => exact .pure ⟨h, .refl s⟩ (hstable s)
  | send c req next ih =>
    refine .bind ((answered_serve h c req).mono (fun r s₁ hr => ?_) fun _ he => he)
    refine .bind ((ih r hr.sound).mono (fun log s₂ hlog => ?_) fun _ he => he)
    exact .pure ⟨s₁, hr, hlog⟩ (hstable s)

/-! ## All sessions -/

section Clients

variable {T : Type} [DecidableEq T] {clients : T → Session Amount}

/-- The threads that the clients keep busy. -/
def threads (clients : T → Session Amount) (t : T) :
    Prog Lock Time (Network Amount) Empty (List (Exchange Amount)) :=
  (clients t).run

theorem explained_threads (h : s.Sound) {c : Pool T _ _ _ _ _}
    (hc : Pool.Reachable s (threads clients) c) :
    c.Safe (interference Amount) (fun _ => False) (fun _ => Explained s) s :=
  hc.safe fun t => explained_run h (clients t)

/-- **Concurrency adds no states to a bank, and no errors.** Whatever calls have been made one
after the other, and however the requests of any number of clients are then interleaved: at
every moment the layers of each bank are in a state that calls on them alone lead to, the same
goes for the ledger of the central bank, every reference leads to something, and no handler has
answered with an internal error. -/
theorem sessions_sound (start : Time) (steps : List (Time × Network.AnyOp Amount))
    {c : Pool T Lock Time (Network Amount) Empty (List (Exchange Amount))}
    (hc : Pool.Reachable (Network.anyReached start steps) (threads clients) c) :
    (∀ i b, c.state.participants.lookup i = some b →
      ∃ steps : List (Time × Register.Step Amount), b.deposit = Register.reached steps) ∧
    (∃ steps : List (Time × Book.Op Amount), c.state.centralBank = Book.reached steps) ∧
    c.state.Linked ∧ c.state.NeverPanics ∧
    ∀ t log, (c.threads t).prog = .done log →
      ∀ e ∈ log, e.response.status ∈ [200, 201, 204] ++ [400, 404, 409, 422] := by
  have h := Network.sound_anyReached start steps
  have hsafe := explained_threads h hc
  have hsound := (hsafe.rely h).sound
  refine ⟨fun i b hb => (hsound.banks i b hb).reachable, hsound.centralBank, hsound.linked,
    hsound.neverPanics, fun t log ht => (hsafe.done ht).status⟩

/-- **The books balance at every moment.** Whatever calls have been made one after the other, and
however the requests of any number of clients are then interleaved: at every moment, in the
ledgers of all banks and of the central bank, no two transactions of a ledger share an
idempotency key, and none is reversed twice. The ledgers meet the accounting equation, in the
arithmetic of `Amount` (for `int64` modulo 2^64), if the earlier calls have posted and created
in declared directions and of declared types only: requests name no others. -/
theorem sessions_balanced (start : Time) (steps : List (Time × Network.AnyOp Amount))
    {c : Pool T Lock Time (Network Amount) Empty (List (Exchange Amount))}
    (hc : Pool.Reachable (Network.anyReached start steps) (threads clients) c)
    {book : Book Amount} (hbook : book = c.state.centralBank ∨
      ∃ i b, c.state.participants.lookup i = some b ∧ book = b.ledger) :
    ((∀ step ∈ steps, step.2.Declared) → book.totalBalance [.asset, .expense]
      = book.totalBalance [.liability, .equity, .revenue]) ∧
    (∀ k k' t t', book.transactions.lookup k = some t → book.transactions.lookup k' = some t' →
      t.idempotencyKey = t'.idempotencyKey → t.idempotencyKey ≠ "" → k = k') ∧
    ∀ k k' t t' r, book.transactions.lookup k = some t → book.transactions.lookup k' = some t' →
      t.reversalOf = some r → t'.reversalOf = some r → k = k' := by
  have h := Network.sound_anyReached start steps
  have hkept := (explained_threads h hc).rely h
  have hwf : book.WF := by
    rcases hbook with rfl | ⟨i, b, hb, rfl⟩
    · exact hkept.sound.centralBank_wf
    · exact (hkept.sound.banks i b hb).chart.ledger
  refine ⟨fun hsteps => hwf.trialBalance ?_, fun k k' t t' hk hk' heq hne => ?_,
    hwf.reversal_unique⟩
  · have hdeclared := hkept.declared (Declared.anyReached start hsteps)
    rcases hbook with rfl | ⟨i, b, hb, rfl⟩
    · exact hdeclared.centralBank
    · exact hdeclared.banks i b hb
  · have hindex := (hwf.index _ k).mpr ⟨hne, t, hk, rfl⟩
    have hindex' := (hwf.index _ k').mpr ⟨hne, t', hk', heq.symm⟩
    exact Option.some.inj (hindex.symm.trans hindex')

end Clients

/-! ## All requests -/

section Requests

variable {T : Type} [DecidableEq T] {requests : T → Choices Amount × Request Amount}

/-- The threads that handle requests. Those of one client begin one after the other, each
when the client has the response to the one before. -/
def serving (requests : T → Choices Amount × Request Amount) (t : T) :
    Prog Lock Time (Network Amount) Empty (Response Amount) :=
  serve (requests t).1 (requests t).2

/-- **What one response has shown, every later request finds.** When a request has been answered,
and another one comes after that, from whatever client and while whatever others are being
served, then it is answered with a 200 if it is a GET for something that the first response has
named, or found. -/
theorem shown_found (start : Time) (steps : List (Time × Network.AnyOp Amount))
    {c c' : Pool T Lock Time (Network Amount) Empty (Response Amount)}
    (hc : Pool.Reachable (Network.anyReached start steps) (serving requests) c)
    (hc' : Relation.ReflTransGen Pool.Step c c') {t t' : T} {r r' : Response Amount}
    (hr : (c.threads t).prog = .done r) (hbegins : c.threads t' = ⟨[], serving requests t'⟩)
    (hr' : (c'.threads t').prog = .done r')
    (hshows : Exchange.Shows ⟨(requests t).2, r⟩ (requests t').2) : r'.status = 200 := by
  have h := Network.sound_anyReached start steps
  have hsafe : c.Safe (interference Amount) (fun _ => False)
      (fun t => Answered (requests t).2 (Network.anyReached start steps))
      (Network.anyReached start steps) :=
    hc.safe fun t => answered_serve h (requests t).1 (requests t).2
  have hsound := (hsafe.rely h).sound
  have hpresent := (hsafe.done hr).shown (e := ⟨(requests t).2, r⟩) hshows
  -- from where the later request begins, its response is known
  have hbegun : c.Safe (interference Amount) (fun _ => False)
      (fun t'' r s' => t'' = t' → Answered (requests t').2 c.state r s') c.state := by
    refine ⟨fun t'' => ?_, hsafe.compatible, (interference Amount).rely_refl _ _⟩
    by_cases heq : t'' = t'
    · subst heq
      rw [hbegins]
      exact (answered_serve hsound _ _).mono (fun _ _ hr _ => hr) fun _ he => he
    · exact (hsafe.thread t'').mono (fun _ _ _ h => absurd h heq) fun _ he => he
  exact ((hbegun.run hc').done hr' rfl).found hpresent

end Requests

/-! ## Two clients -/

/-- Maps in the order of their keys, and an insertion sort. -/
def Visit.byKey {K V : Type} [LinearOrder K] : Visit K V :=
  ⟨.byKey, .breaking fun _ _ => True⟩

/-- Maps in the order of their keys as strings. -/
def Visit.byName {K V : Type} (name : K → String) (h : Function.Injective name) : Visit K V :=
  letI : LinearOrder K := LinearOrder.lift' name h
  .byKey

def Choices.byName : Choices Amount where
  ledgers := .byKey
  subledgers := .byName _ (Book.subledgerKind : EntityKind (Book Amount) _ _).name_inj
  accounts := .byName _ (Book.accountKind : EntityKind (Book Amount) _ _).name_inj
  transactions := .byKey
  depositAccounts := .byName _ (Register.accountKind : EntityKind (Register Amount) _ _).name_inj
  holds := .breaking fun _ _ => True
  snapshots := .byKey
  participants := .byKey
  schemes := .byName Payment.SchemeID.val fun _ _ => congrArg Payment.SchemeID.mk
  payments := .byName Payment.PaymentID.val fun _ _ => congrArg Payment.PaymentID.mk
  mandates := .byName Payment.MandateID.val fun _ _ => congrArg Payment.MandateID.mk
  cycles := .byName Payment.CycleID.val fun _ _ => congrArg Payment.CycleID.mk
  settlements := .byName Payment.SettlementID.val fun _ _ => congrArg Payment.SettlementID.mk
  positions₁ := .byKey
  positions₂ := .byKey
  printable _ := false

/-- What is left of a session of one request, when a part of its handler has returned. -/
def rest (req : Request Amount) (p : Handling Amount (Response Amount)) :
    Prog Lock Time (Network Amount) Empty (List (Exchange Amount)) :=
  p.recover Refusal.response >>= fun r => pure [⟨req, r⟩]

omit [AddCommGroup Amount] [LinearOrder Amount] in
theorem final_rest (req : Request Amount) (p : Handling Amount (Response Amount)) (now : Time)
    (s : Network Amount) : ((rest req p).alone now).final s = (p.alone now).final s := by
  have hrecover : ∀ {r t}, (p.recover Refusal.response).alone now s = .ok r t →
      ((rest req p).alone now).final s = t := fun hr => by
    rw [rest, Prog.alone_bind, Call.final, Call.bind_of_ok hr]
    rfl
  cases h : p.alone now s with
  | ok r t => rw [hrecover (Prog.alone_recover_of_ok _ h _), Call.final_of_ok h]
  | error e t => rw [hrecover (Prog.alone_recover_of_error _ h _), Call.final_of_error h]

omit [AddCommGroup Amount] [LinearOrder Amount] in
theorem ascends_rest {req : Request Amount} {p : Handling Amount (Response Amount)}
    (hp : p.Ascends Lock.rank 0) : (rest req p).Ascends Lock.rank 0 :=
  .bind (hp.recover _) fun _ => .pure _

omit [AddCommGroup Amount] [LinearOrder Amount] in
theorem rest_bind (req : Request Amount) {α : Type} (p : Handling Amount α)
    (g : α → Handling Amount (Response Amount)) :
    rest req (p >>= g) = p.andThen fun r => rest req (Prog.onOk g r) := by
  rw [rest, Prog.recover_bind, Prog.bind_def, Prog.andThen_assoc]
  rfl

theorem ended_ofExcept {L ι σ ε α : Type} (r : Except ε α) :
    (Prog.ofExcept r : Prog L ι σ ε α).Ended := by
  cases r <;> trivial

section Undoing

open Payment.Network (noon)
open Payment.Network (ClientOp clientExec)

/-- A bank, whose accounts are "acct_7" and "acct_9". -/
def oneBank : Network ℤ :=
  Network.anyReached noon.now [(noon.now, .client (.network (.addParticipant "A")))]

def posting : Request ℤ :=
  .postTransaction "bank_1"
    (.ok { entries := [⟨"", "acct_9", 100, "Debit"⟩, ⟨"", "acct_7", 100, "Credit"⟩] })

def reversing : Request ℤ := .reverseTransaction "bank_1" "tx_13" (.ok ⟨"Undo"⟩)

/-- One client posts 100, another one reverses the posting. -/
def undoing : Bool → Session ℤ
  | true => .send .byName posting fun _ => .stop
  | false => .send .byName reversing fun _ => .stop

/-- The calls that they make. -/
def undone : List (Clock × ClientOp ℤ) :=
  [(noon, .ledger ⟨"bank_1"⟩ (.postTransaction
      { entries := [⟨⟨""⟩, ⟨"acct_9"⟩, 100, .debit⟩, ⟨⟨""⟩, ⟨"acct_7"⟩, 100, .credit⟩] })),
    (noon, .ledger ⟨"bank_1"⟩ (.reverseTransaction ⟨"tx_13"⟩ "Undo"))]

/-- What is left of reversing a posting when the bank has been looked up. -/
def undo (pid tid : String) (req : DescriptionRequest) : Handling Amount (Response Amount) := do
  let req ← orBadRequest (.ok req)
  let tx ← call (onLedger ⟨pid⟩ .write fun now =>
    Book.reverseTransaction now ⟨tid⟩ req.description)
  pure (created (.transaction (toTransactionDTO tx)))

/-- The second client is told where the bank is, then the first one posts, and then the second
one reverses the posting. -/
theorem reachable_undone : ∃ c, Pool.Reachable oneBank (threads undoing) c ∧
    c.state = run clientExec oneBank undone ∧ ∀ t, (c.threads t).prog.Ended := by
  obtain ⟨b, hb⟩ : ∃ b, oneBank.participants.lookup ⟨"bank_1"⟩ = some b :=
    Option.isSome_iff_exists.mp (by decide)
  obtain ⟨b', hb'⟩ : ∃ b,
      (run clientExec oneBank (undone.take 1)).participants.lookup ⟨"bank_1"⟩ = some b :=
    Option.isSome_iff_exists.mp (by decide)
  let reverse : Handling ℤ (Response ℤ) := undo "bank_1" "tx_13" ⟨"Undo"⟩
  let c₀ : Pool Bool Lock Time (Network ℤ) Empty (List (Exchange ℤ)) :=
    .start oneBank (threads undoing)
  -- the second client is told where the bank is
  have hreversing : c₀.threads false = ⟨[], (participant "bank_1").andThen fun r =>
      rest reversing (Prog.onOk (fun _ => reverse) r)⟩ :=
    congrArg (Thread.mk []) (rest_bind reversing _ _)
  have hlook : (participant "bank_1").alone noon.now oneBank = .ok b oneBank := by
    rw [alone_bankOf, Network.getParticipant, Finmap.find_eq_ok.mpr hb]
    rfl
  obtain ⟨c₁, hrun₁, hstate₁, hfalse₁, hothers₁, hidle₁⟩ := Pool.exists_run_part noon.now hreversing
    ((ascends_query _).mapError _) fun _ => rfl
  rw [show c₀.state = oneBank from rfl, hlook] at hfalse₁
  rw [show c₀.state = oneBank from rfl, Call.final_of_ok hlook] at hstate₁
  -- the first one posts
  have hposting : c₁.threads true = ⟨[], (rest posting (handle .byName posting)).andThen
      .ofExcept⟩ := by
    rw [hothers₁ true Bool.noConfusion, Prog.andThen_ofExcept]
    rfl
  obtain ⟨c₂, hrun₂, hstate₂, htrue₂, hothers₂, hidle₂⟩ := Pool.exists_run_part noon.now hposting
    (ascends_rest (ascends_handle _ _)) hidle₁
  have hposted : c₂.state = run clientExec oneBank (undone.take 1) := by
    rw [hstate₂, hstate₁, final_rest, (makes_handle noon .byName oneBank posting).final]
    show Option.elim (atBank oneBank "bank_1" _) _ _ = _
    rw [atBank, hb]
    rfl
  -- and the second one reverses the posting
  have hreverse : c₂.threads false = ⟨[], (rest reversing reverse).andThen .ofExcept⟩ := by
    rw [hothers₂ false Bool.noConfusion, hfalse₁, Prog.andThen_ofExcept]
    rfl
  have hascends : reverse.Ascends Lock.rank 0 := ascends_body fun _ => ascends_write _ _ _
  obtain ⟨c₃, hrun₃, hstate₃, hfalse₃, hothers₃, -⟩ := Pool.exists_run_part noon.now hreverse
    (ascends_rest hascends) hidle₂
  refine ⟨c₃, (hrun₁.trans hrun₂).trans hrun₃, ?_, fun t => ?_⟩
  · have hmakes : Makes noon reverse (run clientExec oneBank (undone.take 1))
        (some (.ledger ⟨"bank_1"⟩ (.reverseTransaction ⟨"tx_13"⟩ "Undo"))) :=
      makes_bodyOf fun _ => makes_ledger hb' (.reverseTransaction _ _) (fun _ => rfl)
        fun _ => created_mem
    rw [hstate₃, hposted, final_rest, hmakes.final]
    rfl
  · cases t with
    | false => exact hfalse₃ ▸ ended_ofExcept _
    | true => exact (hothers₃ true Bool.noConfusion).trans htrue₂ ▸ ended_ofExcept _

/-- What the calls have made of the ledger of the bank. -/
theorem status_undone : ((run clientExec oneBank undone).participants.lookup ⟨"bank_1"⟩).map
    (fun b => b.ledger.transactions.lookup ⟨"tx_13"⟩ |>.map (·.status))
      = some (some .reversed) := by decide

theorem sessions_sound_undone :
    ∃ c : Pool Bool Lock Time (Network ℤ) Empty (List (Exchange ℤ)),
    c.state = run clientExec oneBank undone ∧
    (∀ i b, c.state.participants.lookup i = some b →
      ∃ steps : List (Time × Register.Step ℤ), b.deposit = Register.reached steps) ∧
    (∃ steps : List (Time × Book.Op ℤ), c.state.centralBank = Book.reached steps) ∧
    c.state.Linked ∧ c.state.NeverPanics ∧
    ∀ t log, (c.threads t).prog = .done log →
      ∀ e ∈ log, e.response.status ∈ [200, 201, 204] ++ [400, 404, 409, 422] := by
  obtain ⟨c, hc, hstate, -⟩ := reachable_undone
  exact ⟨c, hstate, sessions_sound noon.now _ hc⟩

/-- The ledger of the bank balances with the posting and its reversal in it. -/
theorem sessions_balanced_undone :
    ∃ (c : Pool Bool Lock Time (Network ℤ) Empty (List (Exchange ℤ))) (b : Participant ℤ),
    c.state.participants.lookup ⟨"bank_1"⟩ = some b ∧
    (b.ledger.transactions.lookup ⟨"tx_13"⟩).map (·.status) = some .reversed ∧
    b.ledger.totalBalance [.asset, .expense]
      = b.ledger.totalBalance [.liability, .equity, .revenue] ∧
    (∀ k k' t t', b.ledger.transactions.lookup k = some t →
      b.ledger.transactions.lookup k' = some t' →
      t.idempotencyKey = t'.idempotencyKey → t.idempotencyKey ≠ "" → k = k') ∧
    ∀ k k' t t' r, b.ledger.transactions.lookup k = some t →
      b.ledger.transactions.lookup k' = some t' →
      t.reversalOf = some r → t'.reversalOf = some r → k = k' := by
  obtain ⟨c, hc, hstate, -⟩ := reachable_undone
  obtain ⟨b, hb, hreversed⟩ := Option.map_eq_some_iff.mp status_undone
  rw [← hstate] at hb
  obtain ⟨hbalance, hkeys, hreversals⟩ :=
    sessions_balanced noon.now _ hc (.inr ⟨⟨"bank_1"⟩, b, hb, rfl⟩)
  have hdeclared := hbalance fun _ h => List.mem_singleton.mp h ▸ trivial
  exact ⟨c, b, hb, hreversed, hdeclared, hkeys, hreversals⟩

/-- A client asks for the bank, and then for an account of it that it has been shown, while
another one posts. -/
def asking : Fin 3 → Choices ℤ × Request ℤ
  | 0 => (.byName, .getParticipant "bank_1")
  | 1 => (.byName, .getAccount "bank_1" "acct_7")
  | 2 => (.byName, posting)

theorem shown_found_asking : ∃ c c' r r', Pool.Reachable oneBank (serving asking) c ∧
    Relation.ReflTransGen Pool.Step c c' ∧ (c.threads 0).prog = .done r ∧
    c.threads 1 = ⟨[], serving asking 1⟩ ∧ (c'.threads 1).prog = .done r' ∧
    ¬(c'.threads 2).prog.Ended ∧ r'.status = 200 := by
  obtain ⟨b, hb, hids⟩ : ∃ b, oneBank.participants.lookup ⟨"bank_1"⟩ = some b ∧
      (b.id.val, b.suspenseAccount.val) = ("bank_1", "acct_7") :=
    Option.map_eq_some_iff.mp (by decide)
  obtain ⟨hid, hsuspense⟩ := Prod.mk.inj hids
  have hfind : oneBank.getParticipant ⟨"bank_1"⟩ = .ok b := Finmap.find_eq_ok.mpr hb
  let c₀ : Pool (Fin 3) Lock Time (Network ℤ) Empty (Response ℤ) := .start oneBank (serving asking)
  -- the one that posts is told where the bank is
  have hposting : c₀.threads 2 = _ := congrArg (Thread.mk [])
    (Prog.recover_bind Refusal.response (participant "bank_1") _)
  obtain ⟨c₁, hrun₁, hstate₁, htwo₁, hothers₁, hidle₁⟩ := Pool.exists_run_part noon.now hposting
    ((ascends_query _).mapError _) fun _ => rfl
  -- the other one is shown the bank
  have hasking : c₁.threads 0 = ⟨[], (serving asking 0).andThen .ofExcept⟩ := by
    rw [hothers₁ 0 (by decide), Prog.andThen_ofExcept]
    rfl
  obtain ⟨c₂, hrun₂, hstate₂, hzero₂, hothers₂, hidle₂⟩ := Pool.exists_run_part noon.now hasking
    (ascends_serve _ _) hidle₁
  have hbegins : c₂.threads 1 = ⟨[], serving asking 1⟩ := by
    rw [hothers₂ 1 (by decide), hothers₁ 1 (by decide)]
    rfl
  -- and asks for the account
  have hnext : c₂.threads 1 = ⟨[], (serving asking 1).andThen .ofExcept⟩ := by
    rw [hbegins, Prog.andThen_ofExcept]
  obtain ⟨c₃, hrun₃, hstate₃, hone₃, hothers₃, -⟩ := Pool.exists_run_part noon.now hnext
    (ascends_serve _ _) hidle₂
  have hlook : (participant "bank_1").alone noon.now oneBank = .ok b oneBank := by
    rw [alone_bankOf, hfind]
    rfl
  rw [show c₀.state = oneBank from rfl, Call.final_of_ok hlook] at hstate₁
  rw [show c₀.state = oneBank from rfl, hlook] at htwo₁
  have hshown : (serving asking 0).alone noon.now oneBank
      = .ok (ok (.participant (toParticipantDTO b))) oneBank := by
    refine Prog.alone_recover_of_ok _ ?_ _
    have hview : view .byName noon.now oneBank (.getParticipant "bank_1")
        = some (.ok (ok (.participant (toParticipantDTO b)))) := by
      rw [view, hfind]
      rfl
    exact alone_of_view hview
  rw [hstate₁, hshown] at hzero₂
  have hshows : Exchange.Shows
      (⟨.getParticipant "bank_1", ok (.participant (toParticipantDTO b))⟩ : Exchange ℤ)
      (.getAccount "bank_1" "acct_7") := by
    rw [← hid, ← hsuspense]
    exact .named List.mem_cons_self List.mem_cons_self (.suspense _)
  cases hr' : Call.outcome ((serving asking 1).alone noon.now c₂.state) with
  | error e => exact e.elim
  | ok r' =>
    rw [hr'] at hone₃
    refine ⟨c₂, c₃, _, r', hrun₁.trans hrun₂, hrun₃, congrArg Thread.prog hzero₂, hbegins,
      congrArg Thread.prog hone₃, ?_, ?_⟩
    · rw [hothers₃ 2 (by decide), hothers₂ 2 (by decide), htwo₁]
      exact not_false
    · exact shown_found noon.now _ (hrun₁.trans hrun₂) hrun₃ (congrArg Thread.prog hzero₂) hbegins
        (congrArg Thread.prog hone₃) hshows

end Undoing

end CoreBanking.Api
