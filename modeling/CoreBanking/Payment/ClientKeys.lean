import CoreBanking.Payment.TwinCalls
import CoreBanking.Payment.Balances

/-!
# Client keys

Over HTTP a client may also open accounts in the ledger of a bank and post to them, under
keys of its own. These keys are in one index with those that the network derives from its
ids, which can be guessed. `clientReached` is the network after a run of such calls and
those of the network.

- `client_key_clash`: a client that posts under the key of a payment to come makes the
  payment fail;
- `client_posting_unnoticed`: a posting that touches no suspense, reserve or customer
  account goes unnoticed as long as no operation comes to post under its key there;
- `Derives.colon`: all the keys that the network derives have a colon in them.
-/

namespace CoreBanking.Payment

open Ledger (Book Entry PostTransactionRequest Transaction transfer)
open Deposit (Register)

namespace Participant

variable {Amount : Type} {b : Participant Amount} {a : Ledger.AccountID}

/-- The account has a role in the bank. -/
def Assigned (b : Participant Amount) (a : Ledger.AccountID) : Prop :=
  ∃ role, b.accountOf role = some a

theorem assigned_iff : b.Assigned a ↔ a = b.suspenseAccount ∨ a = b.reserveAccount ∨
    ∃ d ∈ b.deposit.accounts.pairs, d.2.glAccount = a := by
  constructor
  · rintro ⟨role, ha⟩
    cases role with
    | customer id =>
      obtain ⟨d, hd, hgl⟩ := Option.map_eq_some_iff.mp ha
      exact .inr (.inr ⟨(id, d), Finmap.mem_pairs.mpr hd, hgl⟩)
    | suspense => exact .inl (Option.some.inj ha).symm
    | reserve => exact .inr (.inl (Option.some.inj ha).symm)
  · rintro (rfl | rfl | ⟨⟨id, d⟩, hd, rfl⟩)
    · exact ⟨.suspense, rfl⟩
    · exact ⟨.reserve, rfl⟩
    · exact ⟨.customer id, accountOf_customer (Finmap.mem_pairs.mp hd)⟩

instance : Decidable (b.Assigned a) :=
  have : Decidable (∃ d ∈ b.deposit.accounts.pairs, d.2.glAccount = a) :=
    Multiset.decidableExistsMultiset
  decidable_of_iff' _ assigned_iff

end Participant

namespace Network

/-! ## Runs with clients -/

/-- A call of the network, or of a client on the ledger of a bank. -/
inductive ClientOp (Amount : Type) where
  | network (op : Op Amount)
  | ledger (i : ParticipantID) (op : Book.Op Amount)

section Runs

variable {Amount : Type} [AddCommGroup Amount] [LinearOrder Amount]

def clientCall (now : Time) : ClientOp Amount → Call (Network Amount) Err Unit
  | .network op => call now op
  | .ledger i op => do
    let s ← get
    let _ ← orThrow (s.participants.lookup i) .participantNotFound
    onLedger i (Book.call now op)

/-- One step of a run with clients. -/
def clientExec (step : Clock × ClientOp Amount) (s : Network Amount) : Network Amount :=
  (clientCall step.1.now step.2).final s

/-- The network after a run of calls, those of clients among them. -/
def clientReached (start : Clock) (steps : List (Clock × ClientOp Amount)) :
    Network Amount :=
  run clientExec (newNetwork Amount start.now) steps

/-! ## What clients leave of the invariant -/

/-- The banks have their charts, and payments their debtor legs. -/
structure Charted (s : Network Amount) : Prop where
  ids : KeysUpTo ParticipantID.mk "bank" s.idCounter s.participants
  banks : ∀ i b, s.participants.lookup i = some b → b.Chart
  legs : ∀ k p, s.payments.lookup k = some p → ∃ txID, p.debtorLegTx = some txID ∧
    s.Keyed p.debtor.participant p.id.debitKey txID

variable {ignored : ParticipantID → String → Prop} {s t : Network Amount}

theorem Twins.charted (h : Twins ignored s t) : s.Charted where
  ids := h.ids
  banks i b hb := by
    obtain ⟨b', -, htwins⟩ := h.bank hb
    exact htwins.left
  legs k p hp := by
    obtain ⟨p', -, hsame⟩ := rel_of_some (hp ▸ h.payments k)
    exact hsame.leg

/-- A network is its own twin, if no debtor leg is left aside. -/
theorem Charted.twins (h : s.Charted) (hkeyless : ∀ i, ¬ignored i "")
    (hvisible : ∀ k p, s.payments.lookup k = some p →
      ¬ignored p.debtor.participant p.id.debitKey) : Twins ignored s s where
  same := rfl
  keyless := hkeyless
  ids := h.ids
  banks i := by
    cases hb : s.participants.lookup i with
    | none => exact .none
    | some b => exact .some ((h.banks i b hb).twins _)
  payments k := by
    cases hp : s.payments.lookup k with
    | none => exact .none
    | some p => exact .some ⟨rfl, h.legs k p hp, h.legs k p hp, hvisible k p hp⟩

theorem charted_newNetwork (start : Time) : (newNetwork Amount start).Charted where
  ids := (wf_newNetwork start).banks.ids
  banks i b hb := ((wf_newNetwork start).banks.bank i b hb).chart
  legs k p hp := by
    rw [payments_newNetwork] at hp
    cases hp

/-- The two layers of a bank may grow. -/
theorem Charted.setParticipant (h : s.Charted) {i : ParticipantID}
    {b c : Participant Amount} (hb : s.participants.lookup i = some b) (hc : c.Chart)
    (hkeys : b.ledger.KeepsKeys c.ledger) : (s.setParticipant i c).Charted where
  ids := h.ids.update (Finmap.mem_of_lookup_eq_some hb) c
  banks j d hd := by
    rw [setParticipant_lookup] at hd
    split at hd
    · cases hd
      exact hc
    · exact h.banks j d hd
  legs k p hp := by
    obtain ⟨txID, hleg, hkey⟩ := h.legs k p hp
    exact ⟨txID, hleg, hkey.setParticipant hb hkeys⟩

theorem Charted.register (h : s.Charted) (now : Time) (i : ParticipantID)
    (rop : Register.Op Amount) : ((call now (.register i rop)).final s).Charted := by
  show ((onDeposit i (Register.call now rop)).final s).Charted
  cases hb : s.participants.lookup i with
  | none =>
    rw [Call.final, onDeposit, Call.get_bind, hb]
    exact h
  | some b =>
    have hbank := h.banks i b hb
    rcases Register.call_cases now rop b.deposit with ⟨e, he⟩ | ⟨r, hok, hc⟩
    · rw [Call.final_of_error (onDeposit_of_error hb he)]
      exact h
    · rw [Call.final_of_ok (onDeposit_of_ok hb hok)]
      have hgrown := hbank.grow (hc.wf hbank.deposit) (hc.grows hbank.deposit)
      exact h.setParticipant hb hgrown hc.keepsKeys

theorem Charted.exec (h : s.Charted) (step : Clock × Op Amount) : (exec step s).Charted := by
  obtain ⟨clock, op⟩ := step
  by_cases hop : ∃ i rop, op = .register i rop
  · obtain ⟨i, rop, rfl⟩ := hop
    exact h.register clock.now i rop
  · have htwins : Twins (fun _ _ => False) s s :=
      h.twins (fun _ hfalse => hfalse) (fun _ _ _ hfalse => hfalse)
    have hagree := htwins.call clock.now (fun i rop heq => hop ⟨i, rop, heq⟩)
      (fun _ _ _ hfalse => hfalse)
    exact hagree.states.charted

theorem Charted.clientExec (h : s.Charted) (step : Clock × ClientOp Amount) :
    (clientExec step s).Charted := by
  obtain ⟨clock, op⟩ := step
  cases op with
  | network op => exact h.exec (clock, op)
  | ledger i op =>
    rw [Network.clientExec, clientCall, Call.final, Call.get_bind]
    cases hb : s.participants.lookup i with
    | none => exact h
    | some b =>
      rw [orThrow_some_bind, ← Call.final]
      have hbank := h.banks i b hb
      rcases Book.call_cases clock.now op b.ledger with ⟨-, e, he⟩ | ⟨book, _, hok, hc, -⟩
      · rw [Call.final_of_error (onLedger_of_error hb he)]
        exact h
      · rw [Call.final_of_ok (onLedger_of_ok hb hok)]
        have hgrown := hbank.withLedger (hc.wf hbank.ledger)
          fun a acct ha => hc.accounts_kept hbank.ledger ha
        exact h.setParticipant hb hgrown hc.keepsKeys

theorem charted_clientReached (start : Clock) (steps : List (Clock × ClientOp Amount)) :
    (clientReached start steps).Charted :=
  run_invariant (fun step _ h => h.clientExec step) (charted_newNetwork start.now) steps

/-! ## A client posting -/

/-- No entry is on the suspense, the reserve or a customer account of bank `i`. -/
def Unassigned (s : Network Amount) (i : ParticipantID)
    (req : PostTransactionRequest Amount) : Prop :=
  ∀ b ∈ s.participants.lookup i, ∀ e ∈ req.entries, ¬b.Assigned e.accountID

instance (s : Network Amount) (i : ParticipantID) (req : PostTransactionRequest Amount) :
    Decidable (s.Unassigned i req) :=
  inferInstanceAs (Decidable (∀ b ∈ _, _))

/-- Bank `i` accepts the posting. -/
def AcceptsPosting (s : Network Amount) (i : ParticipantID)
    (req : PostTransactionRequest Amount) : Prop :=
  ∃ b ∈ s.participants.lookup i, b.ledger.Accepts req

/-- The network after a client has called `PostTransaction` on the ledger of bank `i`. -/
def clientPosted (s : Network Amount) (now : Time) (i : ParticipantID)
    (req : PostTransactionRequest Amount) : Network Amount :=
  (clientCall now (.ledger i (.postTransaction req))).final s

/-- It is a twin, its key at bank `i` left aside. -/
theorem Charted.twins_clientPosted (h : s.Charted) (now : Time) {i : ParticipantID}
    {req : PostTransactionRequest Amount} (hreq : s.Unassigned i req) :
    ∃ ignored : ParticipantID → String → Prop,
      (∀ j key, ignored j key → s.AcceptsPosting i req ∧ j = i ∧ key = req.idempotencyKey) ∧
        Twins ignored s (s.clientPosted now i req) := by
  have hnothing : ∃ ignored : ParticipantID → String → Prop,
      (∀ j key, ignored j key → s.AcceptsPosting i req ∧ j = i ∧ key = req.idempotencyKey) ∧
        Twins ignored s s :=
    ⟨fun _ _ => False, fun _ _ hfalse => hfalse.elim,
      h.twins (fun _ hfalse => hfalse) fun _ _ _ hfalse => hfalse⟩
  rw [clientPosted, clientCall, Call.final, Call.get_bind]
  cases hb : s.participants.lookup i with
  | none => exact hnothing
  | some b =>
    rw [orThrow_some_bind]
    have hbank := h.banks i b hb
    by_cases hacc : b.ledger.Accepts req
    swap
    · obtain ⟨e, he, -⟩ := Book.postTransaction_of_not_accepts hacc now
      have hcall : Book.call now (.postTransaction req) b.ledger = .error e b.ledger :=
        Call.discard_of_error he
      rw [onLedger_of_error hb hcall]
      exact hnothing
    have hcall : Book.call now (.postTransaction req) b.ledger = .ok () _ :=
      Call.discard_of_ok (Book.postTransaction_of_accepts hacc now)
    rw [onLedger_of_ok hb hcall]
    refine ⟨fun j key => j = i ∧ key = req.idempotencyKey ∧ key ≠ "",
      fun j key hkey => ⟨⟨b, hb, hacc⟩, hkey.1, hkey.2.1⟩, ?_⟩
    have hself : Twins (fun j key => j = i ∧ key = req.idempotencyKey ∧ key ≠ "") s s := by
      refine h.twins (fun j hkey => hkey.2.2 rfl) ?_
      rintro k p hp ⟨hj, hkey, hne⟩
      -- the key was not in use, so it is not that of a debtor leg
      obtain ⟨txID, -, c, hc, hindex⟩ := h.legs k p hp
      rw [hj] at hc
      cases hb.symm.trans hc
      have hfree := hacc.key.resolve_left fun hempty => hne (hkey.trans hempty)
      rw [hkey, hfree] at hindex
      cases hindex
    have hroles : ∀ e ∈ req.entries, ∀ role, b.accountOf role ≠ some e.accountID :=
      fun e he role ha => hreq b hb e he ⟨role, ha⟩
    have htwins := (hbank.twins_record hacc hroles now).mono
      fun key hkey => (⟨rfl, hkey⟩ : i = i ∧ key = req.idempotencyKey ∧ key ≠ "")
    have hposted := hself.setParticipant hb hb htwins (.of_eq rfl) (hacc.keepsKeys now)
    rwa [setParticipant_self hb] at hposted

/-! ## The operations that follow -/

/-- From both states the operations succeed and fail alike, and in the end the suspense,
reserve, customer and central-bank accounts have the same balances. -/
def Alike (s t : Network Amount) (later : List (Clock × Op Amount)) : Prop :=
  (∀ pre step post, later = pre ++ step :: post →
    (Call.failure (call step.1.now step.2 (run exec s pre)) = none ↔
      Call.failure (call step.1.now step.2 (run exec t pre)) = none)) ∧
  (run exec t later).holdings = (run exec s later).holdings ∧
  (run exec t later).centralBank = (run exec s later).centralBank

/-- The operation is one of the network, and not of the deposit layer of a bank. -/
def Op.OnNetwork (op : Op Amount) : Prop :=
  ∀ i rop, op ≠ .register i rop

theorem Twins.alike (h : Twins ignored s t) {later : List (Clock × Op Amount)}
    (hall : Along exec (fun s step => step.2.OnNetwork ∧
      ∀ i key, Derives step.1.now s step.2 i key → ¬ignored i key) s later) :
    Alike s t later := by
  have hstep (step : Clock × Op Amount) (u v : Network Amount) (huv : Twins ignored u v)
      (hmet : step.2.OnNetwork ∧
        ∀ i key, Derives step.1.now u step.2 i key → ¬ignored i key) :=
    huv.call step.1.now hmet.1 hmet.2
  have hrun {is : List (Clock × Op Amount)} (his : Along exec (fun s step =>
      step.2.OnNetwork ∧ ∀ i key, Derives step.1.now s step.2 i key → ¬ignored i key) s is) :
      Twins ignored (run exec s is) (run exec t is) :=
    run_related (fun step u v huv hmet => (hstep step u v huv hmet).states) h his
  refine ⟨?_, (hrun hall).holdings_eq, by rw [(hrun hall).same]⟩
  rintro pre step post rfl
  obtain ⟨hpre, hmet, -⟩ := Along.append.mp hall
  exact (hstep step _ _ (hrun hpre) hmet).failure_iff

/-- All the keys that the network derives have a colon in them. -/
theorem Derives.colon {now : Time} {op : Op Amount} {i : ParticipantID} {key : String}
    (h : Derives now s op i key) : ¬ColonFree key := by
  cases h <;> exact not_colonFree_joinColon _ _

/-- A client's posting to accounts without a role changes nothing for the operations
that follow, as long as none of them comes to post under its key at that bank. -/
theorem client_posting_unnoticed (start : Clock) (steps : List (Clock × ClientOp Amount))
    (clock : Clock) (i : ParticipantID) (req : PostTransactionRequest Amount)
    (later : List (Clock × Op Amount)) (hreq : (clientReached start steps).Unassigned i req)
    (hops : ∀ step ∈ later, step.2.OnNetwork)
    (hkey : (clientReached start steps).AcceptsPosting i req →
      Along exec (fun s step => ¬Derives step.1.now s step.2 i req.idempotencyKey)
        (clientReached start steps) later) :
    Alike (clientReached start steps) ((clientReached start steps).clientPosted clock.now i req)
      later := by
  obtain ⟨ignored, hignored, htwins⟩ :=
    (charted_clientReached start steps).twins_clientPosted clock.now hreq
  refine htwins.alike (along_iff_split.mpr fun pre step post heq => ?_)
  have hstep : step ∈ later := heq ▸ List.mem_append_right _ List.mem_cons_self
  refine ⟨hops step hstep, fun j key hderives hleft => ?_⟩
  obtain ⟨haccepts, rfl, rfl⟩ := hignored j key hleft
  exact along_iff_split.mp (hkey haccepts) pre step post heq hderives

end Runs

/-! ## A clash -/

/-- Alice has 100 at bank_1, where a client keeps two accounts of its own. -/
def shopDay : List (Clock × ClientOp ℤ) :=
  [.network (.addParticipant "A"), .network (.addParticipant "B"),
    .network (.openCustomerAccount ⟨"bank_1"⟩ "Alice"),
    .network (.openCustomerAccount ⟨"bank_2"⟩ "Bob"),
    .network (.deposit ⟨"bank_1"⟩ ⟨"dep_1"⟩ 100 "cash"),
    .network (.openCycle Scheme.sct.id),
    .ledger ⟨"bank_1"⟩ (.createAccount ⟨"sub_3"⟩ "Till" .liability),
    .ledger ⟨"bank_1"⟩ (.createAccount ⟨"sub_3"⟩ "Safe" .liability)].map fun op => (noon, op)

/-- The client moves 1 from the one to the other. -/
def tillToSafe (key : String) : PostTransactionRequest ℤ where
  idempotencyKey := key
  description := "takings"
  entries := transfer ⟨"acct_17"⟩ ⟨"acct_19"⟩ 1

/-- Alice pays 40 to Bob. -/
def aliceToBob : Op ℤ :=
  .initiatePayment
    { scheme := Scheme.sct.id
      debtor := { participant := ⟨"bank_1"⟩, account := ⟨"dep_1"⟩ }
      creditor := { participant := ⟨"bank_2"⟩, account := ⟨"dep_1"⟩ }
      amount := 40 }

theorem onNetwork_aliceToBob : ∀ step ∈ [(noon, aliceToBob)], step.2.OnNetwork := by
  intro step hstep i rop
  cases List.mem_singleton.mp hstep
  rintro ⟨⟩

/-- Under a key without a colon the posting is made and her payment goes through. -/
theorem shop_posting_unnoticed :
    Call.failure (clientCall noon.now (.ledger ⟨"bank_1"⟩
        (.postTransaction (tillToSafe "shop-1"))) (clientReached noon shopDay)) = none ∧
      Alike (clientReached noon shopDay)
        ((clientReached noon shopDay).clientPosted noon.now ⟨"bank_1"⟩ (tillToSafe "shop-1"))
        [(noon, aliceToBob)] := by
  refine ⟨by decide +kernel, ?_⟩
  have hfree : ColonFree (tillToSafe "shop-1").idempotencyKey := by decide
  refine client_posting_unnoticed noon shopDay noon ⟨"bank_1"⟩ (tillToSafe "shop-1") _
    (by decide +kernel) onNetwork_aliceToBob fun _ => ?_
  exact ⟨fun hderives => hderives.colon hfree, trivial⟩

/-- Under the key of the debtor leg to come it makes her payment fail. -/
theorem client_key_clash :
    ¬∀ (start : Clock) (steps : List (Clock × ClientOp ℤ)) (clock : Clock) (i : ParticipantID)
      (req : PostTransactionRequest ℤ) (later : List (Clock × Op ℤ)),
        (clientReached start steps).Unassigned i req →
        (∀ step ∈ later, step.2.OnNetwork) →
        Alike (clientReached start steps)
          ((clientReached start steps).clientPosted clock.now i req) later := by
  intro hall
  have halike := hall noon shopDay noon ⟨"bank_1"⟩ (tillToSafe "pay_4:debit")
    [(noon, aliceToBob)] (by decide +kernel) onNetwork_aliceToBob
  have hwith := (halike.1 [] (noon, aliceToBob) [] rfl).mp (by decide +kernel)
  have hfails : Call.failure (call noon.now aliceToBob
      ((clientReached noon shopDay).clientPosted noon.now ⟨"bank_1"⟩
        (tillToSafe "pay_4:debit"))) = some (.ledger .duplicateIdempotencyKey) := by
    decide +kernel
  cases hfails.symm.trans hwith

end Network

end CoreBanking.Payment
