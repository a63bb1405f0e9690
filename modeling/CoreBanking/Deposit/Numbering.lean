import CoreBanking.Deposit.AuditLog
import CoreBanking.Deposit.Captures
import CoreBanking.Deposit.References
import CoreBanking.Ledger.Numbering

/-!
# The ids of a register

One counter numbers the deposit accounts and holds of a register and its audit events.

- `numbered_reached`: in every run all of them have numbers of their own
  (`Register.issued`);
- `exec_retains`: so a call never puts anything in the place of something else. What is in
  the register stays, but for statuses; only a snapshot may take the place of an earlier
  one, which is for the same day.
-/

namespace CoreBanking.Deposit

open Ledger (Book newBook)

variable {Amount : Type}

/-- The accounts differ in their status at most. -/
def Account.Remains (a a' : Account Amount) : Prop := a' = { a with status := a'.status }

theorem Account.Remains.refl (a : Account Amount) : a.Remains a := rfl

theorem Account.Remains.trans {a a' a'' : Account Amount} (h : a.Remains a')
    (h' : a'.Remains a'') : a.Remains a'' := by
  rw [Remains, h', h]

namespace Register

/-- The ids of all that is in the register, each with its kind. -/
def issued (r : Register Amount) : Multiset (String × String) :=
  idsOf "dep" (fun a => a.id.val) r.accounts +
    idsOf "hld" (fun h => h.id.val) r.holds +
    (r.auditLog.map fun ev => ("evt", ev.id) : List (String × String))

/-! ## New ids -/

section Issued

variable {r : Register Amount}

theorem issued_log (r : Register Amount) (now : Time) (eventType : AuditEventType)
    (entityID : String) (payload : Payload Amount) :
    (r.log now eventType entityID payload).issued
      = ("evt", ident "evt" (r.idCounter + 1)) ::ₘ r.issued := by
  simp only [issued, log, List.map_append, List.map_cons, List.map_nil, ← Multiset.coe_add,
    Multiset.coe_singleton, ← Multiset.singleton_add]
  abel

theorem numbered_log (hn : Numbered r.idCounter r.issued) (now : Time)
    (eventType : AuditEventType) (entityID : String) (payload : Payload Amount) :
    Numbered (r.log now eventType entityID payload).idCounter
      (r.log now eventType entityID payload).issued := by
  rw [issued_log]
  exact hn.next "evt"

/-- A new account gets the next number. -/
theorem numbered_account (hn : Numbered r.idCounter r.issued) {a : Account Amount}
    (hid : a.id = ⟨ident "dep" (r.idCounter + 1)⟩) (hfresh : r.accounts.lookup a.id = none) :
    Numbered (r.idCounter + 1) (issued { r with accounts := r.accounts.insert a.id a }) := by
  have hissued : issued { r with accounts := r.accounts.insert a.id a }
      = ("dep", a.id.val) ::ₘ r.issued := by
    rw [issued, idsOf_insert hfresh, Multiset.cons_add, Multiset.cons_add]
    rfl
  rw [hissued, hid]
  exact hn.next "dep"

/-- So does a new hold. -/
theorem numbered_hold (hn : Numbered r.idCounter r.issued) {h : Hold Amount}
    (hid : h.id = ⟨ident "hld" (r.idCounter + 1)⟩) (hfresh : r.holds.lookup h.id = none) :
    Numbered (r.idCounter + 1) (issued { r with holds := r.holds.insert h.id h }) := by
  have hissued : issued { r with holds := r.holds.insert h.id h }
      = ("hld", h.id.val) ::ₘ r.issued := by
    rw [issued, idsOf_insert hfresh, Multiset.add_cons, Multiset.cons_add]
    rfl
  rw [hissued, hid]
  exact hn.next "hld"

/-- Another status is no other id. -/
theorem issued_withHold {id : HoldID} {h : Hold Amount} (hh : r.holds.lookup id = some h)
    (status : HoldStatus) : (r.withHold id h status).issued = r.issued := by
  have hsame : idsOf "hld" (fun h => h.id.val) (r.withHold id h status).holds
      = idsOf "hld" (fun h => h.id.val) r.holds := idsOf_update hh "hld" rfl
  rw [issued, hsame]
  rfl

@[inherit_doc issued_withHold]
theorem issued_withAccount {id : AccountID} {a : Account Amount}
    (ha : r.accounts.lookup id = some a) (status : AccountStatus) :
    issued { r with accounts := r.accounts.insert id { a with status := status } }
      = r.issued := by
  have hsame : idsOf "dep" (fun a => a.id.val)
      (r.accounts.insert id { a with status := status })
        = idsOf "dep" (fun a => a.id.val) r.accounts := idsOf_update ha "dep" rfl
  rw [issued, hsame]
  rfl

end Issued

variable [AddCommGroup Amount] [LinearOrder Amount]

/-! ## Runs -/

theorem Change.numbered {now : Time} {op : Op Amount} {r r' : Register Amount}
    (hc : Change now r op r') (h : r.WF) (hn : Numbered r.idCounter r.issued) :
    Numbered r'.idCounter r'.issued := by
  cases hc with
  | opened subledger name limit =>
    exact numbered_log (numbered_account hn rfl (h.fresh_account now subledger name limit)) ..
  | status id status eventType acct htarget hacct =>
    rw [← issued_withAccount hacct status] at hn
    exact numbered_log hn ..
  | held req hpos => exact numbered_log (numbered_hold hn rfl (h.fresh_hold now req)) ..
  | released id hd hh =>
    rw [← issued_withHold hh .released] at hn
    exact numbered_log hn ..
  | captured id counterparty captureAmount description hd req hh =>
    rw [← issued_withHold hh .captured] at hn
    exact numbered_log hn ..
  | snapshot id date snap => exact numbered_log hn ..

theorem exec_numbered (step : Time × Step Amount) (r : Register Amount) (h : r.WF)
    (hn : Numbered r.idCounter r.issued) :
    Numbered (exec step r).idCounter (exec step r).issued := by
  obtain ⟨now, step⟩ := step
  cases step with
  | ledger op => exact hn
  | register op =>
    rcases exec_register now op r with heq | ht
    · rw [heq]
      exact hn
    · exact ht.change.numbered h hn

theorem numbered_reached (steps : List (Time × Step Amount)) :
    Numbered (reached steps).idCounter (reached steps).issued :=
  run_invariant_of exec_wf exec_numbered (wf_newRegister Book.wf_newBook) (Numbered.zero 0)
    steps

/-! ## What stays -/

/-- The later register has what the earlier one has, but for statuses and snapshots. -/
structure Retains (r r' : Register Amount) : Prop where
  book : r.book.Retains r'.book
  accounts : Finmap.Retains Account.Remains r.accounts r'.accounts
  holds : Finmap.Retains Hold.Becomes r.holds r'.holds
  accountHolds : Finmap.Retains (fun ids ids' => ids <+: ids') r.accountHolds r'.accountHolds
  auditLog : r.auditLog <+: r'.auditLog

namespace Retains

omit [AddCommGroup Amount] [LinearOrder Amount]

theorem refl (r : Register Amount) : r.Retains r where
  book := .refl r.book
  accounts := .refl Account.Remains.refl _
  holds := .refl Hold.Becomes.refl _
  accountHolds := .refl (fun _ => List.prefix_rfl) _
  auditLog := List.prefix_rfl

theorem trans {r r' r'' : Register Amount} (h : r.Retains r') (h' : r'.Retains r'') :
    r.Retains r'' where
  book := h.book.trans h'.book
  accounts := h.accounts.trans Account.Remains.trans h'.accounts
  holds := h.holds.trans Hold.Becomes.trans h'.holds
  accountHolds := h.accountHolds.trans List.IsPrefix.trans h'.accountHolds
  auditLog := h.auditLog.trans h'.auditLog

end Retains

section Transition

variable {now : Time} {op : Op Amount} {r r' : Register Amount}

theorem Transition.accounts_retained (ht : Transition now r op r') (h : r.WF) :
    Finmap.Retains Account.Remains r.accounts r'.accounts := by
  have hsame := Finmap.Retains.refl Account.Remains.refl r.accounts
  cases ht with
  | opened subledger name limit =>
    exact .insert Account.Remains.refl (h.fresh_account now subledger name limit) _
  | status id target eventType acct hmoves hacct =>
    exact .update Account.Remains.refl hacct rfl
  | held => exact hsame
  | released => exact hsame
  | captured => exact hsame
  | snapshot => exact hsame

/-- A new hold comes last on the list of its account. -/
theorem Transition.accountHolds_retained (ht : Transition now r op r') :
    Finmap.Retains (fun ids ids' => ids <+: ids') r.accountHolds r'.accountHolds := by
  have hrefl : ∀ ids : List HoldID, ids <+: ids := fun _ => List.prefix_rfl
  have hsame := Finmap.Retains.refl hrefl r.accountHolds
  cases ht with
  | held req =>
    show Finmap.Retains _ r.accountHolds (r.accountHolds.insert req.accountID _)
    cases hids : r.accountHolds.lookup req.accountID with
    | none => exact .insert hrefl hids _
    | some ids => exact .update hrefl hids (List.prefix_append ..)
  | opened => exact hsame
  | status => exact hsame
  | released => exact hsame
  | captured => exact hsame
  | snapshot => exact hsame

end Transition

theorem exec_retains (step : Time × Step Amount) (r : Register Amount) (h : r.WF) :
    r.Retains (exec step r) := by
  have hbook : r.book.Retains (exec step r).book := by
    obtain ⟨ops, hops⟩ := exec_book step r
    rw [hops]
    exact Book.run_retains h.book ops
  have hsame := Retains.refl r
  have hboth : Finmap.Retains Account.Remains r.accounts (exec step r).accounts ∧
      Finmap.Retains (fun ids ids' => ids <+: ids') r.accountHolds
        (exec step r).accountHolds := by
    obtain ⟨now, step⟩ := step
    cases step with
    | ledger op => exact ⟨hsame.accounts, hsame.accountHolds⟩
    | register op =>
      rcases exec_register now op r with heq | ht
      · rw [heq]
        exact ⟨hsame.accounts, hsame.accountHolds⟩
      · exact ⟨ht.accounts_retained h, ht.accountHolds_retained⟩
  exact
    { book := hbook
      accounts := hboth.1
      holds := fun _ _ hk => exec_becomes step h hk
      accountHolds := hboth.2
      auditLog := exec_auditLog step r }

/-! ## Fresh ids -/

/-- All that is in the register is stored under its id and has a number of its own, and no
call puts anything in the place of something else. The same holds of its ledger. -/
structure FreshIDs (r : Register Amount) : Prop where
  numbered : Numbered r.idCounter r.issued
  distinct : (r.issued.map Prod.snd).Nodup
  unused : ∀ n, r.idCounter < n → ∀ pfx, ident pfx n ∉ r.issued.map Prod.snd
  account : ∀ k a, r.accounts.lookup k = some a → a.id = k
  hold : ∀ k h, r.holds.lookup k = some h → h.id = k
  retains : ∀ step, r.Retains (exec step r)
  book : r.book.FreshIDs

theorem freshIDs_reached (steps : List (Time × Step Amount)) : (reached steps).FreshIDs where
  numbered := numbered_reached steps
  distinct := (numbered_reached steps).nodup
  unused _ := (numbered_reached steps).fresh
  account := (wf_reached steps).account_id
  hold := (indexed_reached steps).hold_id
  retains step := exec_retains step _ (wf_reached steps)
  book := by
    obtain ⟨ops, hops⟩ := book_reached steps
    rw [hops]
    exact Book.freshIDs_reached ops

end Register

end CoreBanking.Deposit
