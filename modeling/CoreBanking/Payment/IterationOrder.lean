import CoreBanking.Base.Commute
import CoreBanking.Payment.References

/-!
# The order in which net positions are visited

`SettleCycle` ranges over the map of net positions twice, each time in an order that the
runtime chooses. The first loop collects the entries of one posting, and an entry does not
depend on its place (`Ledger.Book.Accepts.perm`). The second posts in a different bank each
time, so its postings do not depend on each other (`run_withMirror_perm`). What comes after the
loops does not look at the central bank (`commutes_finishSettlement`).

- `settleCycle_order`: the orders decide neither whether a settlement succeeds nor what it
  leaves, apart from the order of the entries in its posting at the central bank.
-/

namespace CoreBanking.Payment

open Ledger (Book PostTransactionRequest)

namespace Network

variable {Amount : Type} [AddCommGroup Amount] [LinearOrder Amount]

/-! ## The entries at the central bank -/

theorem settlementEntries_perm (s : Network Amount) {l l' : List (ParticipantID × Amount)}
    (h : l.Perm l') : (s.settlementEntries l).Perm (s.settlementEntries l') :=
  h.flatMap_right _

section Entries

variable {s : Network Amount} {now : Time} {order₁ order₂ order₁' order₂' : MapOrder
  ParticipantID Amount} {c : ClearingCycle Amount}

/-- There are no entries in one order if there are none in another. -/
theorem settlementEntries_nil (h : s.settlementEntries (order₁.toList c.netPositions) = []) :
    s.settlementEntries (order₁'.toList c.netPositions) = [] := by
  have hperm := s.settlementEntries_perm (order₁.perm_toList order₁' c.netPositions)
  rw [h] at hperm
  exact List.nil_perm.mp hperm

/-- The central bank accepts the settlement in one order if it does in another. -/
theorem settle_accepts_order
    (h : s.centralBank.Accepts
      (settleRequest c (s.settlementEntries (order₁.toList c.netPositions)))) :
    s.centralBank.Accepts
      (settleRequest c (s.settlementEntries (order₁'.toList c.netPositions))) :=
  h.perm (s.settlementEntries_perm (order₁.perm_toList order₁' c.netPositions)) rfl

end Entries

/-! ## The mirrors -/

section Mirrors

variable {now : Time} {c : ClearingCycle Amount} {d d' : ParticipantID × Amount}

/-- The mirrors of two banks can be posted in either order. -/
theorem withMirror_comm (hne : d.1 ≠ d'.1) (s : Network Amount) :
    (s.withMirror now c d).withMirror now c d' = (s.withMirror now c d').withMirror now c d := by
  by_cases hzero : d.2 = 0
  · simp only [withMirror, if_pos hzero]
  by_cases hzero' : d'.2 = 0
  · simp only [withMirror, if_pos hzero']
  -- what a mirror does depends on its own bank only
  have hd : (s.withMirror now c d').participants.lookup d.1 = s.participants.lookup d.1 :=
    lookup_withMirror_of_ne fun _ => hne
  have hd' : (s.withMirror now c d).participants.lookup d'.1 = s.participants.lookup d'.1 :=
    lookup_withMirror_of_ne fun _ => hne.symm
  rw [withMirror.eq_def now c d' (s.withMirror now c d),
    withMirror.eq_def now c d (s.withMirror now c d'), if_neg hzero, if_neg hzero', hd, hd']
  cases hb : s.participants.lookup d.1 with
  | none => simp only [withMirror, if_neg hzero, if_neg hzero', hb]
  | some b =>
    cases hb' : s.participants.lookup d'.1 with
    | none => simp only [withMirror, if_neg hzero, if_neg hzero', hb, hb']
    | some b' =>
      simp only [withMirror, if_neg hzero, if_neg hzero', hb, hb', posted, setParticipant,
        Finmap.insert_insert_of_ne _ hne]

/-- A mirror has no part in the acceptance of that of another bank. -/
theorem mirrorAccepted_withMirror (hne : d.1 ≠ d'.1) (s : Network Amount) :
    (s.withMirror now c d).MirrorAccepted c d' ↔ s.MirrorAccepted c d' := by
  rw [MirrorAccepted, MirrorAccepted, lookup_withMirror_of_ne fun _ => hne.symm]

omit [AddCommGroup Amount] [LinearOrder Amount] in
/-- The entries of a map are for different banks. -/
theorem pairwise_positions (order : MapOrder ParticipantID Amount)
    (m : GoMap ParticipantID Amount) : (order.toList m).Pairwise fun d d' => d.1 ≠ d'.1 :=
  List.pairwise_map.mp (order.nodup_toList m)

/-- So the mirrors are accepted one after the other exactly if each is. -/
theorem mirrors_iff (order : MapOrder ParticipantID Amount) (s : Network Amount) :
    Along (withMirror now c) (MirrorAccepted c) s (order.toList c.netPositions) ↔
      ∀ d ∈ order.toList c.netPositions, s.MirrorAccepted c d :=
  along_iff_forall (fun _ _ s hne => mirrorAccepted_withMirror hne s)
    (pairwise_positions order c.netPositions)

/-- And what they leave does not depend on their order. -/
theorem run_withMirror_perm (order order' : MapOrder ParticipantID Amount)
    (s : Network Amount) : run (withMirror now c) s (order.toList c.netPositions)
      = run (withMirror now c) s (order'.toList c.netPositions) := by
  refine run_perm (order.perm_toList order' c.netPositions) ?_ s
  intro d hd d' hd' s
  by_cases heq : d = d'
  · rw [heq]
  · have hne : d.1 ≠ d'.1 := fun hid =>
      heq (List.inj_on_of_nodup_map (order.nodup_toList c.netPositions) hd hd' hid)
    exact withMirror_comm hne s

/-- Mirrors do not look at the central bank. -/
theorem withMirror_setCentralBank (cb : Book Amount) (c : ClearingCycle Amount)
    (d : ParticipantID × Amount) (s : Network Amount) :
    (s.setCentralBank cb).withMirror now c d = (s.withMirror now c d).setCentralBank cb := by
  have hbanks : (s.setCentralBank cb).participants = s.participants := rfl
  rw [withMirror, withMirror, hbanks]
  split
  · rfl
  · cases s.participants.lookup d.1 <;> rfl

end Mirrors

/-! ## The rest of the settlement -/

section CentralBank

variable (cb : Book Amount) (now : Time)

omit [AddCommGroup Amount] [LinearOrder Amount] in
theorem commutes_onLedger {α : Type} (i : ParticipantID)
    (x : Call (Book Amount) Ledger.Err α) :
    Call.Commutes (fun s => s.setCentralBank cb) (onLedger i x) :=
  .read (fun _ => rfl) fun _ => .bind (.orThrow _ _) fun _ =>
    .zoom x (fun _ => rfl) fun _ _ => rfl

omit [AddCommGroup Amount] [LinearOrder Amount] in
theorem commutes_transition (p : Payment Amount) (target : PaymentStatus) :
    Call.Commutes (fun s => s.setCentralBank cb) (transition p target) :=
  .bind (.require _ _) fun _ => .pure _

theorem commutes_postCreditorLeg (pid : PaymentID) :
    Call.Commutes (fun s => s.setCentralBank cb)
      (postCreditorLeg now pid : Call (Network Amount) Err Unit) :=
  .read (fun _ => rfl) fun _ => .bind (.orThrow _ _) fun _ => .bind (.orThrow _ _) fun _ =>
    .bind (.ofExcept _) fun _ => .bind (commutes_onLedger cb _ _) fun _ =>
      .bind (.modify fun _ => rfl) fun _ => .bind (commutes_transition cb _ _) fun _ =>
        .modify fun _ => rfl

/-- What `SettleCycle` does when the positions are settled: pay the creditors, and make the
record. -/
def finishSettlement (id : CycleID) (c : ClearingCycle Amount)
    (settlementTx : Option Ledger.TransactionID) :
    Call (Network Amount) Err (Settlement Amount) := do
  c.paymentIDs.forM (postCreditorLeg now)
  let sid ← nextID "set"
  let st : Settlement Amount := ⟨⟨sid⟩, c.id, c.netPositions, settlementTx, now, now⟩
  modify fun s => { s.setCycle id
      { c with status := .settled, settlementID := some st.id } with
    settlements := s.settlements.insert st.id st }
  pure st

/-- It neither reads nor writes the ledger of the central bank. -/
theorem commutes_finishSettlement (id : CycleID) (c : ClearingCycle Amount)
    (settlementTx : Option Ledger.TransactionID) :
    Call.Commutes (fun s => s.setCentralBank cb) (finishSettlement now id c settlementTx) := by
  refine .bind (.forM (commutes_postCreditorLeg cb now) _) fun _ => ?_
  have hnextID : Call.Commutes (fun s => s.setCentralBank cb)
      (nextID "set" : Call (Network Amount) Err String) := fun _ => rfl
  exact .bind hnextID fun _ => .bind (.modify fun _ => rfl) fun _ => .pure _

theorem centralBank_finishSettlement {id : CycleID} {c : ClearingCycle Amount}
    {settlementTx : Option Ledger.TransactionID} {s t : Network Amount} {st : Settlement Amount}
    (h : finishSettlement now id c settlementTx s = .ok st t) :
    t.centralBank = s.centralBank := by
  have hsame := commutes_finishSettlement s.centralBank now id c settlementTx s
  rw [h] at hsame
  have hstate : t = t.setCentralBank s.centralBank := by
    injection h.symm.trans hsame
  rw [hstate]
  rfl

end CentralBank

section Outcome

variable {s : Network Amount} {now : Time} {id : CycleID} {order₁ order₂ order₁' order₂' :
  MapOrder ParticipantID Amount}

/-- The positions settled in one order are settled in every other, and the networks are the
same but for the order of the entries at the central bank. -/
theorem PositionsSettled.order (h : s.centralBank.WF) {c : ClearingCycle Amount}
    {tx : Option Ledger.TransactionID} {t : Network Amount}
    {r : EStateM.Result Err (Network Amount) (Option Ledger.TransactionID)}
    (hpos : PositionsSettled now order₁ order₂ c s (.ok tx t))
    (hpos' : PositionsSettled now order₁' order₂' c s r) :
    ∃ cb, r = .ok tx (t.setCentralBank cb) ∧
      ∀ a, cb.bookBalance a = t.centralBank.bookBalance a := by
  generalize hr : EStateM.Result.ok tx t = r₀ at hpos
  cases hpos with
  | refused => cases hr
  | stuck => cases hr
  | nothing hentries =>
    cases hr
    have hentries' : s.settlementEntries (order₁'.toList c.netPositions) = [] :=
      settlementEntries_nil hentries
    cases hpos' with
    | nothing => exact ⟨s.centralBank, rfl, fun _ => rfl⟩
    | refused hne => exact absurd hentries' hne
    | settled req hreq hacc =>
      subst hreq
      exact absurd hentries' hacc.nonempty
    | stuck req hreq hacc =>
      subst hreq
      exact absurd hentries' hacc.nonempty
  | settled req hreq hacc hmirrors =>
    cases hr
    have hentries : req.entries.Perm
        (s.settlementEntries (order₁'.toList c.netPositions)) := by
      rw [hreq]
      exact s.settlementEntries_perm (order₁.perm_toList order₁' c.netPositions)
    cases hpos' with
    | nothing hnone =>
      rw [hnone] at hentries
      exact absurd (List.perm_nil.mp hentries) hacc.nonempty
    | refused _ req' hreq' hrefused =>
      subst hreq hreq'
      exact absurd (settle_accepts_order hacc) hrefused
    | stuck req' hreq' hacc' pre post d hlist _ e hrefused =>
      -- the bank that refuses its mirror has accepted it in the other order
      obtain ⟨b, e, hnet, hb, hrefuses, -⟩ := hrefused
      have hne : ∀ d' ∈ pre, d.1 ≠ d'.1 := by
        intro d' hd'
        have hpairs := pairwise_positions order₂' c.netPositions
        rw [hlist, List.pairwise_append] at hpairs
        exact (hpairs.2.2 d' hd' d List.mem_cons_self).symm
      rw [lookup_run_withMirror fun d' hd' _ => hne d' hd'] at hb
      have hd : d ∈ order₂.toList c.netPositions := by
        refine (order₂'.perm_toList order₂ c.netPositions).mem_iff.mp ?_
        rw [hlist]
        exact List.mem_append_right _ List.mem_cons_self
      rcases (mirrors_iff order₂ _).mp hmirrors d hd with hzero | ⟨b', hb', haccepted⟩
      · exact absurd hzero hnet
      · have hsame : s.participants.lookup d.1 = some b' := hb'
        cases hsame.symm.trans hb
        exact absurd haccepted hrefuses
    | settled req' hreq' hacc' =>
      have hperm : req.entries.Perm req'.entries := by
        rw [hreq']
        exact hentries
      obtain ⟨banks, hbanks⟩ := run_withMirror_frame now c (order₂.toList c.netPositions)
        (s.cbPosted now req)
      refine ⟨(s.cbPosted now req').centralBank, ?_, fun a => ?_⟩
      · rw [run_withMirror_perm order₂' order₂,
          Book.newTransaction, Book.newTransaction, hperm.length_eq,
          ← run_hom (withMirror_setCentralBank (s.cbPosted now req').centralBank c)]
        rfl
      · rw [hbanks]
        exact h.bookBalance_perm now hperm a

/-- A settlement that succeeds in one order succeeds in every other, with the same record. -/
theorem settleCycle_of_order (h : s.Sound) {st : Settlement Amount} {t : Network Amount}
    (hok : settleCycle now order₁ order₂ id s = .ok st t) :
    ∃ cb, settleCycle now order₁' order₂' id s = .ok st (t.setCentralBank cb) ∧
      ∀ a, cb.bookBalance a = t.centralBank.bookBalance a := by
  cases hc : s.cycles.lookup id with
  | none =>
    rw [settleCycle, Call.get_bind, hc] at hok
    cases hok
  | some c =>
    have hkeys : ∀ i v, c.netPositions.lookup i = some v → i ∈ s.participants := fun i v hi =>
      (h.refers.cycles id c hc).positions i (Finmap.mem_of_lookup_eq_some hi)
    by_cases hclosed : c.status = .closed
    swap
    · rw [settleCycle, Call.get_bind, hc, orThrow_some_bind, require_bind_of_not hclosed] at hok
      cases hok
    have hparts : ∀ order₁ order₂ : MapOrder ParticipantID Amount,
        settleCycle now order₁ order₂ id s
          = (settlePositions now order₁ order₂ c >>= finishSettlement now id c) s := by
      intro order₁ order₂
      rw [settleCycle, Call.get_bind, hc, orThrow_some_bind, require_bind_of hclosed]
      rfl
    rw [hparts] at hok ⊢
    have hpos := settlePositions_cases now order₁ order₂ hkeys
    have hpos' := settlePositions_cases now order₁' order₂' hkeys
    cases hsettled : settlePositions now order₁ order₂ c s with
    | error e u =>
      rw [Call.bind_of_error hsettled] at hok
      cases hok
    | ok tx u =>
      rw [Call.bind_of_ok hsettled] at hok
      rw [hsettled] at hpos
      obtain ⟨cb, hsettled', hcb⟩ := hpos.order h.centralBank_wf hpos'
      refine ⟨cb, ?_, fun a => ?_⟩
      · rw [Call.bind_of_ok hsettled']
        refine (commutes_finishSettlement cb now id c tx u).trans ?_
        rw [hok]
        rfl
      · rw [centralBank_finishSettlement now hok]
        exact hcb a

/-- One that fails in one order fails in every other. -/
theorem settleCycle_fails_of_order (h : s.Sound)
    (hfails : ∃ e t, settleCycle now order₁ order₂ id s = .error e t) :
    ∃ e t, settleCycle now order₁' order₂' id s = .error e t := by
  obtain ⟨e, t, he⟩ := hfails
  cases hr : settleCycle now order₁' order₂' id s with
  | error e' t' => exact ⟨e', t', rfl⟩
  | ok st t' =>
    obtain ⟨cb, hok, -⟩ := settleCycle_of_order h hr
    cases he.symm.trans hok

end Outcome

/-- **The order of iteration does not matter.** Whatever calls have been made on the network,
the deposit layers and the ledgers, and whatever the orders in which the two loops visit the
net positions, a call of `SettleCycle` fails in one pair of orders exactly if it fails in the
other. If it succeeds, it makes the same record and leaves the same banks with the same books,
the same payments, cycles and settlements, and the same balances at the central bank. -/
theorem settleCycle_order (start : Time) (steps : List (Time × AnyOp Amount)) (now : Time)
    (order₁ order₂ order₁' order₂' : MapOrder ParticipantID Amount) (id : CycleID) :
    let s := anyReached start steps
    ((∃ e t, settleCycle now order₁ order₂ id s = .error e t) ↔
      ∃ e t, settleCycle now order₁' order₂' id s = .error e t) ∧
    ∀ st st' t t', settleCycle now order₁ order₂ id s = .ok st t →
      settleCycle now order₁' order₂' id s = .ok st' t' →
        st' = st ∧ t' = { t with centralBank := t'.centralBank } ∧
          ∀ a, t'.centralBank.bookBalance a = t.centralBank.bookBalance a := by
  intro s
  have h : s.Sound := sound_anyReached start steps
  refine ⟨⟨settleCycle_fails_of_order h, settleCycle_fails_of_order h⟩, ?_⟩
  intro st st' t t' hok hok'
  obtain ⟨cb, hr, hcb⟩ := settleCycle_of_order h hok
  cases hok'.symm.trans hr
  exact ⟨rfl, rfl, hcb⟩

end Network

end CoreBanking.Payment
