import CoreBanking.Deposit.Holds
import CoreBanking.Ledger.Postings

/-!
# Captures

The register posts to the ledger in one operation only, `CaptureHold`. `Matched` relates
what it has posted in a run to its own records: the transactions, the holds that are
captured and the events of the captures correspond one to one, and each transaction moves
one positive amount from the account of the hold to the counterparty (`captures_match`).
-/

namespace CoreBanking.Deposit

open Ledger (Book newBook PostTransactionRequest Transaction TransactionID)

/-- The hold and the transaction that the event of a capture names. -/
def AuditEvent.capture {Amount : Type} (e : AuditEvent Amount) :
    Option (HoldID × TransactionID) :=
  match e.payload with
  | .capture holdID transactionID => some (holdID, transactionID)
  | _ => none

/-- A later state of a hold differs in its status at most, and only if it was active. -/
def Hold.Becomes {Amount : Type} (h h' : Hold Amount) : Prop :=
  h' = { h with status := h'.status } ∧ (h.status ≠ .active → h' = h)

theorem Hold.Becomes.refl {Amount : Type} (h : Hold Amount) : h.Becomes h :=
  ⟨rfl, fun _ => rfl⟩

theorem Hold.Becomes.trans {Amount : Type} {h h' h'' : Hold Amount} (hb : h.Becomes h')
    (hb' : h'.Becomes h'') : h.Becomes h'' := by
  constructor
  · rw [hb'.1, hb.1]
  · intro hne
    cases hb.2 hne
    exact hb'.2 hne

namespace Register

/-- The holds and transactions that the events of captures name, in their order. -/
def captures {Amount : Type} (r : Register Amount) : List (HoldID × TransactionID) :=
  r.auditLog.filterMap AuditEvent.capture

variable {Amount : Type} [AddCommGroup Amount] [LinearOrder Amount]

/-- In the run, the register posted the transaction during this operation. -/
def PostedBy (steps : List (Time × Step Amount)) (op : Op Amount) (tx : TransactionID) :
    Prop :=
  ∃ pre now post, steps = pre ++ (now, .register op) :: post ∧
    tx ∉ (reached pre).book.transactions ∧
    tx ∈ (reached (pre ++ [(now, .register op)])).book.transactions

/-- What is posted in one more step. -/
theorem postedBy_append {steps : List (Time × Step Amount)} {step : Time × Step Amount}
    {op : Op Amount} {tx : TransactionID} :
    PostedBy (steps ++ [step]) op tx ↔ PostedBy steps op tx ∨
      (step.2 = .register op ∧ tx ∉ (reached steps).book.transactions ∧
        tx ∈ (exec step (reached steps)).book.transactions) := by
  have hexec : ∀ step' : Time × Step Amount,
      reached (steps ++ [step']) = exec step' (reached steps) := fun step' => run_append _ _ _
  constructor
  · rintro ⟨pre, now, post, heq, hnot, hmem⟩
    rcases List.eq_nil_or_concat post with rfl | ⟨post', last, rfl⟩
    · obtain ⟨rfl, hlast⟩ := List.append_inj' heq rfl
      cases hlast
      rw [hexec] at hmem
      exact .inr ⟨rfl, hnot, hmem⟩
    · rw [List.concat_eq_append, ← List.cons_append, ← List.append_assoc] at heq
      obtain ⟨rfl, -⟩ := List.append_inj' heq rfl
      exact .inl ⟨pre, now, post', rfl, hnot, hmem⟩
  · rintro (⟨pre, now, post, rfl, hnot, hmem⟩ | ⟨hstep, hnot, hmem⟩)
    · exact ⟨pre, now, post ++ [step], by simp, hnot, hmem⟩
    · obtain ⟨now, step⟩ := step
      cases hstep
      exact ⟨steps, now, [], rfl, hnot, by rw [hexec]; exact hmem⟩

/-! ## The holds -/

section Holds

variable {r r' : Register Amount} {now : Time} {op : Op Amount} {k : HoldID} {hd : Hold Amount}

/-- A successful call keeps all holds, and writes to active ones only. -/
theorem Transition.becomes (ht : Transition now r op r') (h : r.WF)
    (hk : r.holds.lookup k = some hd) :
    ∃ hd', r'.holds.lookup k = some hd' ∧ hd.Becomes hd' := by
  have hwrite : ∀ (k' : HoldID) (hd' : Hold Amount) (status : HoldStatus),
      r.holds.lookup k' = some hd' → hd'.status = .active →
      ∃ hd'', (r.holds.insert k' { hd' with status := status }).lookup k = some hd'' ∧
        hd.Becomes hd'' := by
    intro k' hd' status hk' hactive
    rw [Finmap.lookup_insert_ite]
    split
    · next heq =>
      subst heq
      cases hk.symm.trans hk'
      exact ⟨_, rfl, rfl, fun hne => absurd hactive hne⟩
    · exact ⟨hd, hk, .refl hd⟩
  cases ht with
  | opened => exact ⟨hd, hk, .refl hd⟩
  | status => exact ⟨hd, hk, .refl hd⟩
  | held req =>
    have hfresh := h.fresh_hold now req
    exact ⟨hd, (Finmap.lookup_insert_fresh hfresh).mpr (.inr hk), .refl hd⟩
  | released k' hd' hk' hactive => exact hwrite k' hd' .released hk' hactive
  | captured k' _ _ _ hd' _ hk' hactive => exact hwrite k' hd' .captured hk' hactive
  | snapshot => exact ⟨hd, hk, .refl hd⟩

theorem exec_becomes (step : Time × Step Amount) (h : r.WF)
    (hk : r.holds.lookup k = some hd) :
    ∃ hd', (exec step r).holds.lookup k = some hd' ∧ hd.Becomes hd' := by
  obtain ⟨now, step⟩ := step
  cases step with
  | register op =>
    rcases exec_register now op r with heq | ht
    · rw [heq]
      exact ⟨hd, hk, .refl hd⟩
    · exact ht.becomes h hk
  | ledger op => exact ⟨hd, hk, .refl hd⟩

/-- A hold that is released or captured stays so for the rest of a run. -/
theorem run_becomes (h : r.WF) (hk : r.holds.lookup k = some hd)
    (steps : List (Time × Step Amount)) :
    ∃ hd', (run exec r steps).holds.lookup k = some hd' ∧ hd.Becomes hd' := by
  let Inv (s : Register Amount) : Prop := ∃ hd', s.holds.lookup k = some hd' ∧ hd.Becomes hd'
  have hstep : ∀ step s, s.WF → Inv s → Inv (exec step s) := by
    rintro step s hs ⟨hd', hk', hbecomes⟩
    obtain ⟨hd'', hk'', hlater⟩ := exec_becomes step hs hk'
    exact ⟨hd'', hk'', hbecomes.trans hlater⟩
  have hinit : Inv r := ⟨hd, hk, .refl hd⟩
  exact run_invariant_of exec_wf hstep h hinit steps

end Holds

/-! ## The transactions -/

/-- The transaction moves one positive amount from the account of the hold to the
counterparty. -/
def Paid (r : Register Amount) (k : HoldID) (counterparty : Ledger.AccountID)
    (tx : TransactionID) : Prop :=
  ∃ h a t amount, r.holds.lookup k = some h ∧ r.accounts.lookup h.accountID = some a ∧
    r.book.transactions.lookup tx = some t ∧ t.Moves a.glAccount counterparty amount ∧
      0 < amount

/-- The later register has the holds and accounts of the earlier one, and its book what was
posted. -/
theorem Paid.mono {r r' : Register Amount} {k : HoldID} {counterparty : Ledger.AccountID}
    {tx : TransactionID} (h : r.Paid k counterparty tx)
    (hholds : ∀ k hd, r.holds.lookup k = some hd →
      ∃ hd', r'.holds.lookup k = some hd' ∧ hd.Becomes hd')
    (haccts : ∀ id a, r.accounts.lookup id = some a →
      ∃ a', r'.accounts.lookup id = some a' ∧ a'.glAccount = a.glAccount)
    (hkeeps : r.book.Keeps r'.book) : r'.Paid k counterparty tx := by
  obtain ⟨hd, a, t, amount, hk, ha, ht, hmoves, hpos⟩ := h
  obtain ⟨hd', hk', hsame, -⟩ := hholds k hd hk
  obtain ⟨a', ha', hgl⟩ := haccts _ a ha
  obtain ⟨t', ht', hentries⟩ := hkeeps tx t ht
  refine ⟨hd', a', t', amount, hk', ?_, ht', ?_, hpos⟩
  · rw [hsame]
    exact ha'
  · rw [Transaction.Moves, hentries, hgl]
    exact hmoves

theorem Change.keeps {now : Time} {op : Op Amount} {r r' : Register Amount}
    (hc : Change now r op r') (h : r.WF) : r.book.Keeps r'.book := by
  cases hc with
  | captured _ _ _ _ _ req => exact h.book.keeps_record now req
  | opened => exact .of_eq rfl
  | status => exact .of_eq rfl
  | held => exact .of_eq rfl
  | released => exact .of_eq rfl
  | snapshot => exact .of_eq rfl

/-- Whatever is called, the book keeps what has been posted. -/
theorem exec_keeps (step : Time × Step Amount) {r : Register Amount} (h : r.WF) :
    r.book.Keeps (exec step r).book := by
  obtain ⟨now, step⟩ := step
  cases step with
  | register op =>
    rcases exec_register now op r with heq | ht
    · rw [heq]
      exact .of_eq rfl
    · exact ht.change.keeps h
  | ledger op => exact (Book.exec_change now op r.book).keeps h.book

/-- And the accounts stay backed as they are. -/
theorem exec_accounts (step : Time × Step Amount) {r : Register Amount} (h : r.WF)
    {id : AccountID} {a : Account Amount} (ha : r.accounts.lookup id = some a) :
    ∃ a', (exec step r).accounts.lookup id = some a' ∧ a'.glAccount = a.glAccount := by
  obtain ⟨now, step⟩ := step
  cases step with
  | register op =>
    rcases exec_register now op r with heq | ht
    · exact ⟨a, by rw [heq]; exact ha, rfl⟩
    · obtain ⟨a', ha', hgl, -⟩ := (ht.change.grows h).accounts id a ha
      exact ⟨a', ha', hgl⟩
  | ledger op => exact ⟨a, ha, rfl⟩

theorem exec_paid (step : Time × Step Amount) {r : Register Amount} (h : r.WF) {k : HoldID}
    {counterparty : Ledger.AccountID} {tx : TransactionID} (hp : r.Paid k counterparty tx) :
    (exec step r).Paid k counterparty tx :=
  hp.mono (fun _ _ hk => exec_becomes step h hk) (fun _ _ ha => exec_accounts step h ha)
    (exec_keeps step h)

/-! ## A capture -/

section Capture

variable {r : Register Amount} {now : Time} {k : HoldID} {hd : Hold Amount}

omit [AddCommGroup Amount] [LinearOrder Amount] in
/-- Its event comes last. -/
theorem captures_afterCapture (now : Time) (hid : hd.id = k)
    (req : PostTransactionRequest Amount) : (r.afterCapture now k hd req).captures
      = r.captures ++ [(k, (r.book.newTransaction now req).id)] := by
  rw [captures, afterCapture, log, List.filterMap_append, ← hid]
  rfl

/-- Its transaction moves the amount. -/
theorem paid_afterCapture {acct : Account Amount} {counterparty : Ledger.AccountID}
    {captureAmount : Amount} {description : String}
    (hacct : r.accounts.lookup hd.accountID = some acct)
    (hacc : r.book.Accepts (captureRequest acct hd counterparty captureAmount description))
    (now : Time) : (r.afterCapture now k hd
        (captureRequest acct hd counterparty captureAmount description)).Paid k counterparty
      (r.book.newTransaction now
        (captureRequest acct hd counterparty captureAmount description)).id := by
  refine ⟨{ hd with status := .captured }, acct, _, hd.captured captureAmount,
    Finmap.lookup_insert _, hacct, Finmap.lookup_insert _, ?_, ?_⟩
  · exact Book.newTransaction_moves _ now rfl
  · exact hacc.positive _ List.mem_cons_self

omit [AddCommGroup Amount] [LinearOrder Amount] in
/-- The holds that are captured, after an active one has been given a status. -/
theorem captured_write_iff (hk : r.holds.lookup k = some hd) (hactive : hd.status = .active)
    (status : HoldStatus) {k' : HoldID} :
    (∃ hd', (r.holds.insert k { hd with status := status }).lookup k' = some hd' ∧
        hd'.status = .captured) ↔
      (∃ hd', r.holds.lookup k' = some hd' ∧ hd'.status = .captured) ∨
        k' = k ∧ status = .captured := by
  by_cases hkk : k' = k
  · subst hkk
    simp [hk, hactive]
  · simp [Finmap.lookup_insert_of_ne _ hkk, hkk]

/-- In the run it is what has posted the transaction. -/
theorem postedBy_capture {steps : List (Time × Step Amount)} {step : Time × Step Amount}
    {req : PostTransactionRequest Amount} {op : Op Amount} {tx : TransactionID}
    (hexec : exec step (reached steps) = (reached steps).afterCapture now k hd req) :
    PostedBy (steps ++ [step]) op tx ↔ PostedBy steps op tx ∨
      step.2 = .register op ∧ tx = ((reached steps).book.newTransaction now req).id := by
  have hfresh := Finmap.lookup_eq_none.mp
    ((wf_reached steps).book.fresh_newTransaction now req)
  have hstored : tx ∈ ((reached steps).afterCapture now k hd req).book.transactions ↔
      tx = ((reached steps).book.newTransaction now req).id ∨
        tx ∈ (reached steps).book.transactions := Finmap.mem_insert
  rw [postedBy_append, hexec, hstored]
  refine or_congr_right (and_congr_right fun _ => ⟨?_, ?_⟩)
  · rintro ⟨hnot, rfl | hold⟩
    · rfl
    · exact absurd hold hnot
  · rintro rfl
    exact ⟨hfresh, .inl rfl⟩

end Capture

/-! ## The correspondence -/

omit [AddCommGroup Amount] [LinearOrder Amount] in
/-- A change of status is not logged as a capture. -/
theorem Op.Moves.ne_holdCaptured {op : Op Amount} {id : AccountID}
    {source target : AccountStatus} {eventType : AuditEventType}
    (h : op.Moves id source target eventType) : eventType ≠ .holdCaptured := by
  cases h <;> decide

/-- What the register has posted in a run, the events of captures and the captured holds
belong together, one to one. -/
structure Matched (steps : List (Time × Step Amount)) (r : Register Amount) : Prop where
  typed : ∀ e ∈ r.auditLog, e.type = .holdCaptured ↔ e.capture.isSome
  holds_nodup : (r.captures.map Prod.fst).Nodup
  transactions_nodup : (r.captures.map Prod.snd).Nodup
  status : ∀ k, k ∈ r.captures.map Prod.fst ↔
    ∃ h, r.holds.lookup k = some h ∧ h.status = .captured
  posted : ∀ op tx, PostedBy steps op tx → ∃ k counterparty amount description,
    op = .captureHold k counterparty amount description ∧ (k, tx) ∈ r.captures ∧
      r.Paid k counterparty tx
  logged : ∀ k tx, (k, tx) ∈ r.captures → ∃ counterparty amount description,
    PostedBy steps (.captureHold k counterparty amount description) tx

namespace Matched

variable {steps : List (Time × Step Amount)} {step : Time × Step Amount}
  {r : Register Amount}

theorem initial : Matched [] (newRegister (newBook Amount)) where
  typed e he := absurd he List.not_mem_nil
  holds_nodup := List.nodup_nil
  transactions_nodup := List.nodup_nil
  status k := by simp [captures, newRegister]
  posted op tx := by
    rintro ⟨pre, now, post, heq, -⟩
    simp at heq
  logged k tx h := absurd h List.not_mem_nil

/-- A transaction that an event names is in the ledger. -/
theorem stored (h : Matched steps r) {tx : TransactionID} (htx : tx ∈ r.captures.map Prod.snd) :
    tx ∈ r.book.transactions := by
  obtain ⟨⟨k, tx⟩, hmem, rfl⟩ := List.mem_map.mp htx
  obtain ⟨counterparty, amount, description, hposted⟩ := h.logged k tx hmem
  obtain ⟨_, _, _, _, -, -, _, _, t, _, -, -, ht, -⟩ := h.posted _ tx hposted
  exact Finmap.mem_of_lookup_eq_some ht

/-- A step that posts nothing, and writes to no hold that is captured or becomes so. -/
theorem quiet (h : Matched steps r) {r' : Register Amount}
    (hposted : ∀ op tx, PostedBy (steps ++ [step]) op tx ↔ PostedBy steps op tx)
    (htyped : ∀ e ∈ r'.auditLog, e ∈ r.auditLog ∨ e.type ≠ .holdCaptured ∧ e.capture = none)
    (hcaptures : r'.captures = r.captures)
    (hstatus : ∀ k, (∃ hd, r'.holds.lookup k = some hd ∧ hd.status = .captured) ↔
      ∃ hd, r.holds.lookup k = some hd ∧ hd.status = .captured)
    (hpaid : ∀ k counterparty tx, r.Paid k counterparty tx → r'.Paid k counterparty tx) :
    Matched (steps ++ [step]) r' where
  typed e he := by
    rcases htyped e he with hold | ⟨htype, hnone⟩
    · exact h.typed e hold
    · simp [htype, hnone]
  holds_nodup := by rw [hcaptures]; exact h.holds_nodup
  transactions_nodup := by rw [hcaptures]; exact h.transactions_nodup
  status k := by rw [hcaptures, hstatus, h.status]
  posted op tx hop := by
    obtain ⟨k, counterparty, amount, description, heq, hmem, hp⟩ :=
      h.posted op tx ((hposted op tx).mp hop)
    exact ⟨k, counterparty, amount, description, heq, hcaptures ▸ hmem, hpaid _ _ _ hp⟩
  logged k tx hmem := by
    obtain ⟨counterparty, amount, description, hop⟩ := h.logged k tx (hcaptures ▸ hmem)
    exact ⟨counterparty, amount, description, (hposted _ _).mpr hop⟩

/-- A capture that goes through adds one of each. -/
theorem captured {now : Time} {k : HoldID} {counterparty : Ledger.AccountID}
    {captureAmount : Amount} {description : String} {hd : Hold Amount} {acct : Account Amount}
    (h : Matched steps (reached steps)) (hk : (reached steps).holds.lookup k = some hd)
    (hactive : hd.status = .active)
    (hacct : (reached steps).accounts.lookup hd.accountID = some acct)
    (hacc : (reached steps).book.Accepts
      (captureRequest acct hd counterparty captureAmount description)) :
    Matched (steps ++ [(now, .register (.captureHold k counterparty captureAmount description))])
      ((reached steps).afterCapture now k hd
        (captureRequest acct hd counterparty captureAmount description)) := by
  have hwf : (reached steps).WF := wf_reached steps
  set req := captureRequest acct hd counterparty captureAmount description with hreq
  have hexec : Register.exec
      (now, .register (.captureHold k counterparty captureAmount description)) (reached steps)
        = (reached steps).afterCapture now k hd req :=
    exec_captureHold hk hactive hacct hacc now
  have hcaptures := captures_afterCapture (r := reached steps) now
    ((indexed_reached steps).hold_id k hd hk) req
  have hpaid : ((reached steps).afterCapture now k hd req).Paid k counterparty
      ((reached steps).book.newTransaction now req).id := paid_afterCapture hacct hacc now
  have hpostedBy {op : Op Amount} {tx : TransactionID} :
      PostedBy (steps ++ [_]) op tx ↔ PostedBy steps op tx ∨ _ ∧ tx = _ :=
    postedBy_capture hexec
  -- it was active, so no event names it yet
  have hnew : k ∉ (reached steps).captures.map Prod.fst := by
    rw [h.status]
    rintro ⟨hd', hk', hcaptured⟩
    cases hk.symm.trans hk'
    rw [hactive] at hcaptured
    cases hcaptured
  constructor
  case typed =>
    intro e he
    rcases List.mem_append.mp he with hold | hlast
    · exact h.typed e hold
    · obtain rfl := List.mem_singleton.mp hlast
      exact iff_of_true rfl rfl
  case holds_nodup =>
    rw [hcaptures, List.map_append, List.map_singleton, ← List.concat_eq_append]
    exact h.holds_nodup.concat hnew
  case transactions_nodup =>
    rw [hcaptures, List.map_append, List.map_singleton, ← List.concat_eq_append]
    refine h.transactions_nodup.concat fun hmem => ?_
    exact Finmap.lookup_eq_none.mp (hwf.book.fresh_newTransaction now req) (h.stored hmem)
  case status =>
    intro k'
    rw [hcaptures, List.map_append, List.mem_append, h.status, List.map_singleton,
      List.mem_singleton]
    exact ((captured_write_iff hk hactive .captured).trans
      (or_congr_right (and_iff_left rfl))).symm
  case posted =>
    intro op tx hop
    rcases hpostedBy.mp hop with hold | ⟨hlast, rfl⟩
    · obtain ⟨k', counterparty', amount', description', heq, hmem, hp⟩ := h.posted op tx hold
      refine ⟨k', counterparty', amount', description', heq, ?_, ?_⟩
      · rw [hcaptures]
        exact List.mem_append_left _ hmem
      · rw [← hexec]
        exact exec_paid _ hwf hp
    · cases hlast
      refine ⟨k, counterparty, captureAmount, description, rfl, ?_, hpaid⟩
      rw [hcaptures]
      exact List.mem_append_right _ List.mem_cons_self
  case logged =>
    intro k' tx hmem
    rw [hcaptures] at hmem
    rcases List.mem_append.mp hmem with hold | hlast
    · obtain ⟨counterparty', amount', description', hop⟩ := h.logged k' tx hold
      exact ⟨counterparty', amount', description', hpostedBy.mpr (.inl hop)⟩
    · cases List.mem_singleton.mp hlast
      exact ⟨counterparty, captureAmount, description, hpostedBy.mpr (.inr ⟨rfl, rfl⟩)⟩

/-- A call that posts nothing and logs another event than a capture. -/
theorem logs {r' : Register Amount} {event : AuditEvent Amount}
    (h : Matched steps (reached steps)) (hexec : Register.exec step (reached steps) = r')
    (htx : r'.book.transactions = (reached steps).book.transactions)
    (hlog : r'.auditLog = (reached steps).auditLog ++ [event])
    (htype : event.type ≠ .holdCaptured) (hnone : event.capture = none)
    (hstatus : ∀ k, (∃ hd, r'.holds.lookup k = some hd ∧ hd.status = .captured) ↔
      ∃ hd, (reached steps).holds.lookup k = some hd ∧ hd.status = .captured) :
    Matched (steps ++ [step]) r' := by
  refine h.quiet (fun op tx => ?_) (fun e he => ?_) ?_ hstatus fun k counterparty tx hp => ?_
  · rw [postedBy_append, hexec, htx]
    exact or_iff_left fun hnew => hnew.2.1 hnew.2.2
  · rw [hlog] at he
    rcases List.mem_append.mp he with hold | hlast
    · exact .inl hold
    · obtain rfl := List.mem_singleton.mp hlast
      exact .inr ⟨htype, hnone⟩
  · rw [captures, hlog, List.filterMap_append, List.filterMap_cons_none hnone,
      List.filterMap_nil, List.append_nil]
    rfl
  · rw [← hexec]
    exact exec_paid step (wf_reached steps) hp

/-- Whatever is called, and whether it fails or not. -/
theorem exec (h : Matched steps (reached steps)) (step : Time × Step Amount) :
    Matched (steps ++ [step]) (exec step (reached steps)) := by
  have hwf : (reached steps).WF := wf_reached steps
  obtain ⟨now, step⟩ := step
  cases step with
  | ledger op =>
    refine h.quiet (fun op' tx => ?_) (fun e he => .inl he) rfl (fun k => Iff.rfl)
      fun k counterparty tx hp => exec_paid _ hwf hp
    rw [postedBy_append]
    exact or_iff_left fun hnew => by cases hnew.1
  | register op =>
    rcases exec_register now op (reached steps) with heq | ht
    · rw [heq]
      refine h.quiet (fun op' tx => ?_) (fun e he => .inl he) rfl (fun k => Iff.rfl)
        fun k counterparty tx hp => hp
      rw [postedBy_append, heq]
      exact or_iff_left fun hnew => hnew.2.1 hnew.2.2
    · generalize hr' : Register.exec (now, .register op) (reached steps) = r' at ht
      cases ht with
      | opened => exact h.logs hr' rfl rfl (by simp) rfl fun _ => Iff.rfl
      | status id target eventType acct hmoves =>
        exact h.logs hr' rfl rfl hmoves.ne_holdCaptured rfl fun _ => Iff.rfl
      | held req =>
        refine h.logs hr' rfl rfl (by simp) rfl fun k => ?_
        have hfresh := hwf.fresh_hold now req
        constructor
        · rintro ⟨hd, hk, hcaptured⟩
          rcases (Finmap.lookup_insert_fresh hfresh).mp hk with ⟨-, rfl⟩ | hold
          · cases hcaptured
          · exact ⟨hd, hold, hcaptured⟩
        · rintro ⟨hd, hk, hcaptured⟩
          exact ⟨hd, (Finmap.lookup_insert_fresh hfresh).mpr (.inr hk), hcaptured⟩
      | released k hd hk hactive =>
        refine h.logs hr' rfl rfl (by simp) rfl fun k' => ?_
        exact (captured_write_iff hk hactive .released).trans (or_iff_left (by simp))
      | captured k counterparty captureAmount description hd acct hk hactive hacct hacc =>
        exact h.captured hk hactive hacct hacc
      | snapshot => exact h.logs hr' rfl rfl (by simp) rfl fun _ => Iff.rfl

end Matched

theorem matched_reached (steps : List (Time × Step Amount)) :
    Matched steps (reached steps) := by
  induction steps using List.reverseRecOn with
  | nil => exact .initial
  | append_singleton steps step ih =>
    have hexec : reached (steps ++ [step]) = exec step (reached steps) := run_append _ _ _
    rw [hexec]
    exact ih.exec step

/-- The ledger is only asked to post for an active hold. -/
theorem captureHold_refused {now : Time} {k : HoldID} {counterparty : Ledger.AccountID}
    {captureAmount : Amount} {description : String} {e : Ledger.Err} {r r' : Register Amount}
    (he : captureHold now k counterparty captureAmount description r = .error (.ledger e) r') :
    r' = r ∧ ∃ h, r.holds.lookup k = some h ∧ h.status = .active := by
  constructor
  · rcases captureHold_cases now k counterparty captureAmount description r with
      ⟨e', he'⟩ | ⟨h, acct, -, -, -, -, hok⟩
    · rw [he'] at he
      cases he
      rfl
    · rw [hok] at he
      cases he
  · rw [captureHold, Call.get_bind] at he
    cases hk : r.holds.lookup k with
    | none =>
      rw [hk] at he
      cases he
    | some h =>
      rw [hk, orThrow_some_bind] at he
      by_cases hactive : h.status = .active
      · exact ⟨h, rfl, hactive⟩
      · rw [require_bind_of_not hactive] at he
        cases he

/-- Only a capture changes balances. -/
theorem WF.bookBalance_unchanged {r : Register Amount} (h : r.WF) (now : Time) {op : Op Amount}
    (hop : ∀ k counterparty amount description,
      op ≠ .captureHold k counterparty amount description)
    {a : Ledger.AccountID} {g : Ledger.Account} (hg : r.book.accounts.lookup a = some g) :
    (exec (now, .register op) r).book.bookBalance a = r.book.bookBalance a := by
  rcases exec_register now op r with heq | ht
  · rw [heq]
  · have hg' := (ht.change.grows h).glAccounts a g hg
    rw [Book.bookBalance_of_lookup hg', Book.bookBalance_of_lookup hg,
      Book.balance_congr hg hg' (ht.change.transactions_eq hop)]

/-- **A hold touches the ledger exactly when it is captured.** Whatever is called, and
whatever others post in between: the events of captures, the captured holds and the
transactions the register has posted correspond one to one, and each transaction moves one
positive amount from the account of the hold to the counterparty that was given. A hold
that is released or captured stays so, a refusal of the ledger leaves the hold active, and
no other operation changes a balance. -/
theorem captures_match (steps : List (Time × Step Amount)) :
    let r : Register Amount := reached steps
    ((∀ e ∈ r.auditLog, e.type = .holdCaptured ↔ e.capture.isSome) ∧
      (r.captures.map Prod.fst).Nodup ∧ (r.captures.map Prod.snd).Nodup ∧
      (∀ k, k ∈ r.captures.map Prod.fst ↔
        ∃ h, r.holds.lookup k = some h ∧ h.status = .captured) ∧
      (∀ tx, tx ∈ r.captures.map Prod.snd ↔ ∃ op, PostedBy steps op tx)) ∧
    (∀ op tx, PostedBy steps op tx → ∃ k counterparty amount description,
      op = .captureHold k counterparty amount description ∧ (k, tx) ∈ r.captures ∧
        r.Paid k counterparty tx) ∧
    (∀ later k h, r.holds.lookup k = some h → h.status ≠ .active →
      (reached (steps ++ later)).holds.lookup k = some h) ∧
    (∀ now k counterparty amount description e r',
      captureHold now k counterparty amount description r = .error (.ledger e) r' →
        r' = r ∧ ∃ h, r.holds.lookup k = some h ∧ h.status = .active) ∧
    ∀ now op, (∀ k counterparty amount description,
        op ≠ .captureHold k counterparty amount description) →
      ∀ a g, r.book.accounts.lookup a = some g →
        (exec (now, .register op) r).book.bookBalance a = r.book.bookBalance a := by
  intro r
  have hwf : r.WF := wf_reached steps
  have hm : Matched steps r := matched_reached steps
  refine ⟨⟨hm.typed, hm.holds_nodup, hm.transactions_nodup, hm.status, fun tx => ?_⟩, hm.posted,
    fun later k h hk hne => ?_, fun now k _ _ _ e r' he => captureHold_refused he,
    fun now op hop a g hg => hwf.bookBalance_unchanged now hop hg⟩
  · constructor
    · intro htx
      obtain ⟨⟨k, tx⟩, hmem, rfl⟩ := List.mem_map.mp htx
      obtain ⟨counterparty, amount, description, hop⟩ := hm.logged k tx hmem
      exact ⟨_, hop⟩
    · rintro ⟨op, hop⟩
      obtain ⟨k, _, _, _, -, hmem, -⟩ := hm.posted op tx hop
      exact List.mem_map.mpr ⟨(k, tx), hmem, rfl⟩
  · obtain ⟨h', hk', -, hsame⟩ := run_becomes hwf hk later
    cases hsame hne
    rw [reached, run_append]
    exact hk'

end Register

end CoreBanking.Deposit
