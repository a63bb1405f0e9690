import CoreBanking.Base.Numbering
import CoreBanking.Ledger.References

/-!
# The ids of a book

One counter numbers the ledgers, subledgers, accounts and transactions of a book, their
entries and its audit events.

- `numbered_reached`: in every run all of them have numbers of their own (`Book.issued`);
- `exec_retains`: so a call never puts anything in the place of something else. What is in
  the book stays, but for the status of a transaction.
-/

namespace CoreBanking.Ledger

variable {Amount : Type}

/-- The ids of a transaction and its entries, each with its kind. -/
def Transaction.issued (t : Transaction Amount) : Multiset (String × String) :=
  ("tx", t.id.val) ::ₘ (t.entries.map fun e => ("ent", e.id.val) : List (String × String))

/-- The transactions differ in their status at most. -/
def Transaction.Remains (t t' : Transaction Amount) : Prop := t' = { t with status := t'.status }

theorem Transaction.Remains.refl (t : Transaction Amount) : t.Remains t := rfl

theorem Transaction.Remains.trans {t t' t'' : Transaction Amount} (h : t.Remains t')
    (h' : t'.Remains t'') : t.Remains t'' := by
  rw [Remains, h', h]

namespace Book

/-- The ids of all that is in the book, each with its kind. -/
def issued (s : Book Amount) : Multiset (String × String) :=
  idsOf "ldg" (fun l => l.id.val) s.ledgers +
    idsOf "sub" (fun sl => sl.id.val) s.subledgers +
    idsOf "acct" (fun a => a.id.val) s.accounts +
    (s.transactions.sum fun _ t => t.issued) +
    (s.auditLog.map fun ev => ("evt", ev.id) : List (String × String))

/-! ## New ids -/

section Issued

variable {s : Book Amount} {now : Time}

theorem issued_addLedger {l : Ledger} (hfresh : s.ledgers.lookup l.id = none) :
    (s.addLedger now l).issued
      = ("evt", ident "evt" (s.idCounter + 2)) ::ₘ ("ldg", l.id.val) ::ₘ s.issued := by
  simp only [issued, addLedger, idsOf_insert hfresh, List.map_append, List.map_cons,
    List.map_nil, ← Multiset.coe_add, Multiset.coe_singleton, ← Multiset.singleton_add]
  abel

theorem issued_addSubledger {sl : Subledger} (hfresh : s.subledgers.lookup sl.id = none) :
    (s.addSubledger now sl).issued
      = ("evt", ident "evt" (s.idCounter + 2)) ::ₘ ("sub", sl.id.val) ::ₘ s.issued := by
  simp only [issued, addSubledger, idsOf_insert hfresh, List.map_append,
    List.map_cons, List.map_nil, ← Multiset.coe_add, Multiset.coe_singleton,
    ← Multiset.singleton_add]
  abel

theorem issued_addAccount {acct : Account} (hfresh : s.accounts.lookup acct.id = none) :
    (s.addAccount now acct).issued
      = ("evt", ident "evt" (s.idCounter + 2)) ::ₘ ("acct", acct.id.val) ::ₘ s.issued := by
  simp only [issued, addAccount, idsOf_insert hfresh, List.map_append,
    List.map_cons, List.map_nil, ← Multiset.coe_add, Multiset.coe_singleton,
    ← Multiset.singleton_add]
  abel

theorem issued_record {tx : Transaction Amount} (hfresh : s.transactions.lookup tx.id = none) :
    (s.record now tx).issued
      = ("evt", ident "evt" (s.idCounter + tx.entries.length + 2)) ::ₘ
        (tx.issued + s.issued) := by
  simp only [issued, record, Finmap.sum_insert tx hfresh, List.map_append, List.map_cons,
    List.map_nil, ← Multiset.coe_add, Multiset.coe_singleton, ← Multiset.singleton_add]
  abel

/-- Marking the original does not change its ids. -/
theorem issued_recordReversal {txID : TransactionID} {original : Transaction Amount}
    {description : String} (hstored : s.transactions.lookup txID = some original)
    (hfresh : s.transactions.lookup (s.newReversal now original description).id = none) :
    (s.recordReversal now txID original description).issued
      = ("evt", ident "evt" (s.idCounter + original.entries.length + 2)) ::ₘ
        ((s.newReversal now original description).issued + s.issued) := by
  have hmarked := Finmap.lookup_update_none hstored hfresh { original with status := .reversed }
  have hsame : ((s.transactions.insert txID { original with status := .reversed }).sum
      fun _ t => t.issued) = s.transactions.sum fun _ t => t.issued :=
    Finmap.sum_insert_same hstored rfl
  simp only [issued, recordReversal, Finmap.sum_insert _ hmarked, hsame, List.map_append,
    List.map_cons, List.map_nil, ← Multiset.coe_add, Multiset.coe_singleton,
    ← Multiset.singleton_add]
  abel

end Issued

/-- The entries of a transaction get the next numbers. -/
theorem numbered_assignIDs {c : Nat} {issued : Multiset (String × String)}
    (h : Numbered c issued) (entries : List (Entry Amount)) :
    Numbered (c + entries.length) (((assignIDs c entries).map
      fun e => ("ent", e.id.val) : List (String × String)) + issued) := by
  induction entries generalizing c issued with
  | nil => simpa [assignIDs] using h
  | cons e es ih =>
    have hrest := ih (h.next "ent")
    have hcount : c + 1 + es.length = c + (e :: es).length := by
      rw [List.length_cons]
      omega
    rw [hcount, Multiset.add_cons] at hrest
    rw [assignIDs, List.map_cons, ← Multiset.cons_coe, Multiset.cons_add]
    exact hrest

/-- The numbers of a transaction whose entries have the next ones, and of its event. -/
theorem numbered_transaction {s : Book Amount} (h : Numbered s.idCounter s.issued)
    {tx : Transaction Amount} {entries : List (Entry Amount)}
    (hentries : tx.entries = assignIDs s.idCounter entries)
    (hid : tx.id = ⟨ident "tx" (s.idCounter + entries.length + 1)⟩) :
    Numbered (s.idCounter + entries.length + 2)
      (("evt", ident "evt" (s.idCounter + entries.length + 2)) ::ₘ (tx.issued + s.issued)) := by
  have hall := ((numbered_assignIDs h entries).next "tx").next "evt"
  rw [Transaction.issued, hentries, hid, Multiset.cons_add]
  exact hall

variable [AddCommGroup Amount] [LinearOrder Amount]

/-! ## Runs -/

theorem exec_numbered (step : Time × Op Amount) (s : Book Amount) (h : s.WF)
    (hn : Numbered s.idCounter s.issued) :
    Numbered (exec step s).idCounter (exec step s).issued := by
  obtain ⟨now, op⟩ := step
  have hc := exec_change now op s
  generalize exec (now, op) s = s' at hc ⊢
  cases hc with
  | refused => exact hn
  | ledger name =>
    rw [issued_addLedger (h.fresh_newLedger now name)]
    exact (hn.next "ldg").next "evt"
  | subledger ledgerID name =>
    rw [issued_addSubledger (h.fresh_newSubledger now ledgerID name)]
    exact (hn.next "sub").next "evt"
  | account subledgerID name accountType =>
    rw [issued_addAccount (h.fresh_newAccount now subledgerID name accountType)]
    exact (hn.next "acct").next "evt"
  | post req hacc =>
    have hentries : (s.newTransaction now req).entries = assignIDs s.idCounter req.entries := rfl
    have hlength := congrArg List.length hentries
    rw [length_assignIDs] at hlength
    rw [issued_record (h.fresh_newTransaction now req), hlength]
    show Numbered (s.idCounter + (s.newTransaction now req).entries.length + 2) _
    rw [hlength]
    exact numbered_transaction hn hentries rfl
  | reverse txID description original hstored hstatus =>
    have hentries : (s.newReversal now original description).entries
        = assignIDs s.idCounter (original.entries.map Entry.reversed) := rfl
    have hlength : (original.entries.map Entry.reversed).length = original.entries.length :=
      List.length_map ..
    have hnext := numbered_transaction hn hentries (by rw [hlength]; rfl)
    rw [hlength] at hnext
    rw [issued_recordReversal hstored (h.fresh_newReversal now original description)]
    exact hnext

theorem numbered_reached (steps : List (Time × Op Amount)) :
    Numbered (reached steps).idCounter (reached steps).issued :=
  run_invariant_of exec_wf exec_numbered wf_newBook (Numbered.zero 0) steps

/-! ## What stays -/

/-- The later book has what the earlier one has, but for the status of transactions. -/
structure Retains (s s' : Book Amount) : Prop where
  ledgers : Finmap.Retains Eq s.ledgers s'.ledgers
  subledgers : Finmap.Retains Eq s.subledgers s'.subledgers
  accounts : Finmap.Retains Eq s.accounts s'.accounts
  transactions : Finmap.Retains Transaction.Remains s.transactions s'.transactions
  index : Finmap.Retains Eq s.idempotencyIndex s'.idempotencyIndex
  auditLog : s.auditLog <+: s'.auditLog

namespace Retains

omit [AddCommGroup Amount] [LinearOrder Amount]

theorem refl (s : Book Amount) : s.Retains s where
  ledgers := .refl Eq.refl _
  subledgers := .refl Eq.refl _
  accounts := .refl Eq.refl _
  transactions := .refl Transaction.Remains.refl _
  index := .refl Eq.refl _
  auditLog := List.prefix_rfl

theorem trans {s s' s'' : Book Amount} (h : s.Retains s') (h' : s'.Retains s'') :
    s.Retains s'' where
  ledgers := h.ledgers.trans Eq.trans h'.ledgers
  subledgers := h.subledgers.trans Eq.trans h'.subledgers
  accounts := h.accounts.trans Eq.trans h'.accounts
  transactions := h.transactions.trans Transaction.Remains.trans h'.transactions
  index := h.index.trans Eq.trans h'.index
  auditLog := h.auditLog.trans h'.auditLog

end Retains

theorem exec_retains (step : Time × Op Amount) (s : Book Amount) (h : s.WF) :
    s.Retains (exec step s) := by
  obtain ⟨now, op⟩ := step
  have hc := exec_change now op s
  generalize exec (now, op) s = s' at hc ⊢
  have hsame := Retains.refl s
  cases hc with
  | refused => exact hsame
  | ledger name =>
    exact { hsame with
      ledgers := .insert Eq.refl (h.fresh_newLedger now name) _
      auditLog := List.prefix_append .. }
  | subledger ledgerID name =>
    exact { hsame with
      subledgers := .insert Eq.refl (h.fresh_newSubledger now ledgerID name) _
      auditLog := List.prefix_append .. }
  | account subledgerID name accountType =>
    exact { hsame with
      accounts := .insert Eq.refl (h.fresh_newAccount now subledgerID name accountType) _
      auditLog := List.prefix_append .. }
  | post req hacc =>
    refine { hsame with
      transactions := .insert Transaction.Remains.refl (h.fresh_newTransaction now req) _
      index := ?_
      auditLog := List.prefix_append .. }
    show Finmap.Retains Eq s.idempotencyIndex (if req.idempotencyKey = "" then _ else _)
    split
    · exact hsame.index
    · next hkey => exact .insert Eq.refl (hacc.key.resolve_left hkey) _
  | reverse txID description original hstored hstatus =>
    have hmarked : Finmap.Retains Transaction.Remains s.transactions
        (s.transactions.insert txID { original with status := .reversed }) :=
      .update Transaction.Remains.refl hstored rfl
    have hfresh := Finmap.lookup_update_none hstored
      (h.fresh_newReversal now original description) { original with status := .reversed }
    exact { hsame with
      transactions := hmarked.trans Transaction.Remains.trans
        (.insert Transaction.Remains.refl hfresh _)
      auditLog := List.prefix_append .. }

theorem run_retains {s : Book Amount} (h : s.WF) (steps : List (Time × Op Amount)) :
    s.Retains (run exec s steps) := by
  have hstep : ∀ (step : Time × Op Amount) (t : Book Amount), t.WF → s.Retains t →
      s.Retains (exec step t) :=
    fun step t ht hr => hr.trans (exec_retains step t ht)
  exact run_invariant_of exec_wf hstep h (.refl s) steps

/-! ## Fresh ids -/

/-- All that is in the book is stored under its id and has a number of its own, and no call
puts anything in the place of something else. -/
structure FreshIDs (s : Book Amount) : Prop where
  numbered : Numbered s.idCounter s.issued
  distinct : (s.issued.map Prod.snd).Nodup
  unused : ∀ n, s.idCounter < n → ∀ pfx, ident pfx n ∉ s.issued.map Prod.snd
  ledger : ∀ k l, s.ledgers.lookup k = some l → l.id = k
  subledger : ∀ k sl, s.subledgers.lookup k = some sl → sl.id = k
  account : ∀ k acct, s.accounts.lookup k = some acct → acct.id = k
  transaction : ∀ k t, s.transactions.lookup k = some t → t.id = k
  retains : ∀ step, s.Retains (exec step s)

theorem freshIDs_reached (steps : List (Time × Op Amount)) : (reached steps).FreshIDs where
  numbered := numbered_reached steps
  distinct := (numbered_reached steps).nodup
  unused _ := (numbered_reached steps).fresh
  ledger := (resolves_reached steps).ledger_id
  subledger := (resolves_reached steps).subledger_id
  account := (resolves_reached steps).account_id
  transaction := (wf_reached steps).transaction_id
  retains step := exec_retains step _ (wf_reached steps)

end Book

end CoreBanking.Ledger
