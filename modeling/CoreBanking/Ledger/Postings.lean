import CoreBanking.Ledger.Keyed

/-!
# What is posted between two states

`newEntries` is the multiset of the entries of the transactions that a later book has and an
earlier one has not: an entry that is posted twice counts twice.

- `WF.newEntries_transfer` / `WF.newEntries_reversal`: what a posting of a transfer and its reversal
  add;
- `Keeps.newEntries_eq`: a book keeps what it has posted (`Book.Keeps`), so what is posted in two
  stretches adds up.
-/

namespace CoreBanking.Ledger

variable {Amount : Type}

/-- The entries of the transactions that are new between two states, without their ids. -/
def newEntries (before after : GoMap TransactionID (Transaction Amount)) :
    Multiset (Entry Amount) :=
  Finmap.sumNew before after fun _ t => ↑(t.entries.map Entry.anonymous)

@[simp] theorem newEntries_self (transactions : GoMap TransactionID (Transaction Amount)) :
    newEntries transactions transactions = 0 :=
  Finmap.sumNew_self _ _

/-- A transfer the other way round is the transfer back. -/
theorem Transaction.Moves.reversed {t : Transaction Amount} {debit credit : AccountID}
    {amount : Amount} (h : t.Moves debit credit amount) :
    (↑((t.entries.map Entry.reversed).map Entry.anonymous) : Multiset (Entry Amount))
      = ↑(transfer credit debit amount) := by
  have hentries : (t.entries.map Entry.reversed).map Entry.anonymous
      = (transfer debit credit amount).map Entry.reversed := by
    rw [← h, List.map_map, List.map_map]
    rfl
  rw [hentries, Multiset.coe_eq_coe]
  exact .swap _ _ _

namespace Book

/-- The later book has the transactions of the earlier one, with the same entries. -/
def Keeps (s s' : Book Amount) : Prop :=
  Finmap.Retains (fun t t' => t'.entries = t.entries) s.transactions s'.transactions

/-- A new transaction moves the amount on the account in the given direction. -/
def Posts (s s' : Book Amount) (direction : Direction) (a : AccountID) (amount : Amount) :
    Prop :=
  ∃ e ∈ newEntries s.transactions s'.transactions,
    e.direction = direction ∧ e.accountID = a ∧ e.amount = amount

variable {s t u : Book Amount} {direction : Direction} {a : AccountID} {amount : Amount}

theorem not_posts_of_eq (h : t.transactions = s.transactions) :
    ¬s.Posts t direction a amount := by
  rintro ⟨e, he, -⟩
  rw [h, newEntries_self] at he
  exact Multiset.notMem_zero e he

theorem Keeps.of_eq (h : t.transactions = s.transactions) : s.Keeps t :=
  fun _ tx hk => ⟨tx, h ▸ hk, rfl⟩

theorem Keeps.trans (h : s.Keeps t) (h' : t.Keeps u) : s.Keeps u :=
  Finmap.Retains.trans (fun heq heq' => heq'.trans heq) h h'

/-- What is posted in two stretches. -/
theorem Keeps.newEntries_eq (h : s.Keeps t) (h' : t.Keeps u) :
    newEntries s.transactions u.transactions
      = newEntries s.transactions t.transactions + newEntries t.transactions u.transactions :=
  Finmap.sumNew_trans h h' fun _ _ _ heq => by rw [heq]

variable [AddCommGroup Amount] [LinearOrder Amount]

namespace WF

theorem keeps_record (h : s.WF) (now : Time) (req : PostTransactionRequest Amount) :
    s.Keeps (s.record now (s.newTransaction now req)) :=
  fun _ t hk => ⟨t, h.lookup_record.mpr (.inr hk), rfl⟩

/-- A posting adds the entries of its request. -/
theorem newEntries_record (h : s.WF) (now : Time) (req : PostTransactionRequest Amount) :
    newEntries s.transactions (s.record now (s.newTransaction now req)).transactions
      = ↑(req.entries.map Entry.anonymous) := by
  have hfresh := h.fresh_newTransaction now req
  refine (Finmap.sumNew_insert hfresh hfresh).trans ?_
  rw [Finmap.sumNew_self, add_zero, newTransaction, map_assignIDs Entry.anonymous fun _ _ => rfl]

theorem newEntries_transfer (h : s.WF) {now : Time} {req : PostTransactionRequest Amount}
    {debit credit : AccountID} {moved : Amount}
    (hentries : req.entries = transfer debit credit moved) :
    newEntries s.transactions (s.record now (s.newTransaction now req)).transactions
      = ↑(transfer debit credit moved) := by
  rw [h.newEntries_record, hentries]
  rfl

/-- A transfer debits one account and credits the other. -/
theorem posts_transfer (h : s.WF) {now : Time} {req : PostTransactionRequest Amount}
    {debit credit : AccountID} {moved : Amount}
    (hentries : req.entries = transfer debit credit moved) :
    s.Posts (s.record now (s.newTransaction now req)) direction a amount ↔
      ((direction = .debit ∧ a = debit) ∨ (direction = .credit ∧ a = credit)) ∧
        amount = moved := by
  rw [Posts, h.newEntries_transfer hentries]
  simp only [transfer, Multiset.mem_coe, List.mem_cons, List.not_mem_nil, or_false,
    exists_eq_or_imp, exists_eq_left]
  grind

section Reversal

variable {txID : TransactionID} {original : Transaction Amount}

theorem keeps_recordReversal (h : s.WF) (hstored : s.transactions.lookup txID = some original)
    (now : Time) (description : String) :
    s.Keeps (s.recordReversal now txID original description) := by
  intro k t hk
  refine ⟨_, h.lookup_recordReversal_old now description hstored hk, ?_⟩
  split <;> rfl

/-- The reversal of a transfer adds the transfer back. -/
theorem newEntries_reversal (h : s.WF) (hstored : s.transactions.lookup txID = some original)
    {debit credit : AccountID} {moved : Amount} (hmoves : original.Moves debit credit moved)
    (now : Time) (description : String) :
    newEntries s.transactions (s.recordReversal now txID original description).transactions
      = ↑(transfer credit debit moved) := by
  have hfresh := h.fresh_newReversal now original description
  have hmarked : (s.transactions.insert txID { original with status := .reversed }).lookup
      (s.newReversal now original description).id = none :=
    Finmap.lookup_update_none hstored hfresh _
  have hsame : ∀ k ∈ s.transactions.insert txID { original with status := .reversed },
      k ∈ s.transactions := by
    intro k hk
    rcases Finmap.mem_insert.mp hk with rfl | hold
    · exact Finmap.mem_of_lookup_eq_some hstored
    · exact hold
  refine (Finmap.sumNew_insert hfresh hmarked).trans ?_
  rw [Finmap.sumNew_eq_zero hsame, add_zero, newReversal,
    map_assignIDs Entry.anonymous fun _ _ => rfl]
  exact hmoves.reversed

end Reversal

end WF

/-- No call takes a transaction away or changes its entries. -/
theorem Change.keeps {now : Time} {op : Op Amount} {s s' : Book Amount}
    (hc : Change now s op s') (h : s.WF) : s.Keeps s' := by
  cases hc with
  | refused => exact .of_eq rfl
  | ledger => exact .of_eq rfl
  | subledger => exact .of_eq rfl
  | account => exact .of_eq rfl
  | post req hacc => exact h.keeps_record now req
  | reverse txID description original hstored =>
    exact h.keeps_recordReversal hstored now description

end Book

end CoreBanking.Ledger
