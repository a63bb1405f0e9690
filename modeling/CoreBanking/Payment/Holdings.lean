import CoreBanking.Payment.Invariant

/-!
# What the accounts of a network hold

Money is in one of these places: with a customer, in the suspense or in the
reserve of a bank, or in the account of a bank at the central bank.
`Network.holdings` is the balance at every place, a function into the amounts,
so that the effect of a posting is a sum of functions that are nonzero at one
place each (`credit`).

- `holdings_posted`, `holdings_reversed`: a transfer in the ledger of a bank,
  and its reversal;
- `holdings_cbPosted`: a posting at the central bank;
- `holdings_setDeposit`, `holdings_withBank`: other changes of a bank, and a new
  one, move nothing.
-/

namespace CoreBanking.Payment

open Ledger (Book Direction Entry PostTransactionRequest Transaction transfer)
open Deposit (Register)

/-! ## Places -/

/-- Where the money of a network is. -/
inductive Place where
  /-- In the ledger of a bank. -/
  | bank (i : ParticipantID) (role : Role)
  /-- In the account of a bank at the central bank. -/
  | centralBank (i : ParticipantID)
deriving DecidableEq

/-- The account of a customer. -/
def PartyRef.place (ref : PartyRef) : Place :=
  .bank ref.participant (.customer ref.account)

/-- The direction that increases the balance: only the reserve is an Asset. -/
def Role.normal : Role → Direction
  | .customer _ => .credit
  | .suspense => .credit
  | .reserve => .debit

theorem Role.normal_eq (role : Role) : role.normal = .debit ∨ role.normal = .credit := by
  cases role <;> simp [normal]

section Credit

variable {Amount : Type} [AddCommGroup Amount]

/-- What a credit does to the balance of an account. -/
def Role.credited (role : Role) (amount : Amount) : Amount :=
  if role.normal = .credit then amount else -amount

/-- What a transfer from one account of a bank to another does to the balance of
the account for `role`. -/
def Role.moved (source target : Role) (amount : Amount) (role : Role) : Amount :=
  (if target = role then target.credited amount else 0)
    - if source = role then source.credited amount else 0

/-- What a credit does to all balances. -/
def credit : Place → Amount → Place → Amount
  | .bank i role, amount => Pi.single (.bank i role) (role.credited amount)
  | .centralBank i, amount => Pi.single (.centralBank i) amount

theorem credit_neg (place : Place) (amount : Amount) :
    credit place (-amount) = -credit place amount := by
  cases place with
  | bank i role =>
    rw [credit, credit, ← Pi.single_neg]
    cases role <;> rfl
  | centralBank i => rw [credit, credit, Pi.single_neg]

theorem credit_zero (place : Place) : credit place (0 : Amount) = 0 := by
  cases place with
  | bank i role => cases role <;> simp [credit, Role.credited, Role.normal]
  | centralBank i => simp [credit]

@[simp] theorem credit_bank_centralBank (i j : ParticipantID) (role : Role)
    (amount : Amount) : credit (.bank i role) amount (.centralBank j) = 0 :=
  Pi.single_eq_of_ne (by simp) _

@[simp] theorem credit_centralBank_bank (i j : ParticipantID) (role : Role)
    (amount : Amount) : credit (.centralBank i) amount (.bank j role) = 0 :=
  Pi.single_eq_of_ne (by simp) _

@[simp] theorem credit_centralBank (i j : ParticipantID) (amount : Amount) :
    credit (.centralBank i) amount (.centralBank j) = if i = j then amount else 0 := by
  simp [credit, Pi.single_apply, eq_comm]

theorem credit_bank (i j : ParticipantID) (role role' : Role) (amount : Amount) :
    credit (.bank i role) amount (.bank j role')
      = if i = j ∧ role = role' then role.credited amount else 0 := by
  simp [credit, Pi.single_apply, eq_comm]

theorem credit_role_of_ne {role role' : Role} (h : role ≠ role') (i j : ParticipantID)
    (amount : Amount) : credit (.bank i role) amount (.bank j role') = 0 := by
  rw [credit_bank, if_neg fun hij => h hij.2]

end Credit

variable {Amount : Type} [AddCommGroup Amount]

/-- The balance of the account of a bank for a role, 0 if there is none. -/
def Participant.balanceOf (b : Participant Amount) (role : Role) : Amount :=
  match b.accountOf role with
  | none => 0
  | some a => b.ledger.balance a

/-- What entries do to the account of a bank for a role. -/
def Participant.effectOf (b : Participant Amount) (role : Role)
    (entries : List (Entry Amount)) : Amount :=
  match b.accountOf role with
  | none => 0
  | some a => Ledger.effect role.normal a entries

namespace Network

/-- The balance at every place. -/
def holdings (s : Network Amount) : Place → Amount
  | .bank i role =>
    match s.participants.lookup i with
    | none => 0
    | some b => b.balanceOf role
  | .centralBank i =>
    match s.participants.lookup i with
    | none => 0
    | some b => s.centralBank.balance b.settlementAccount

theorem holdings_bank {s : Network Amount} {i : ParticipantID}
    {b : Participant Amount} (hb : s.participants.lookup i = some b) (role : Role) :
    s.holdings (.bank i role) = b.balanceOf role := by
  rw [holdings, hb]

theorem holdings_centralBank {s : Network Amount} {i : ParticipantID}
    {b : Participant Amount} (hb : s.participants.lookup i = some b) :
    s.holdings (.centralBank i) = s.centralBank.balance b.settlementAccount := by
  rw [holdings, hb]

end Network

/-! ## One bank -/

namespace Participant

theorem balanceOf_of_account {b : Participant Amount} {role : Role}
    {a : Ledger.AccountID} (h : b.accountOf role = some a) :
    b.balanceOf role = b.ledger.balance a := by
  rw [balanceOf, h]

theorem effectOf_of_account {b : Participant Amount} {role : Role} {a : Ledger.AccountID}
    (h : b.accountOf role = some a) (entries : List (Entry Amount)) :
    b.effectOf role entries = Ledger.effect role.normal a entries := by
  rw [effectOf, h]

theorem effectOf_of_none {b : Participant Amount} {role : Role} (h : b.accountOf role = none)
    (entries : List (Entry Amount)) : b.effectOf role entries = 0 := by
  rw [effectOf, h]

theorem effectOf_moves_reversed {b : Participant Amount} {t : Transaction Amount}
    {debit credit : Ledger.AccountID} {amount : Amount} (h : t.Moves debit credit amount)
    (role : Role) : b.effectOf role (t.entries.map Entry.reversed)
      = b.effectOf role (transfer credit debit amount) := by
  cases ha : b.accountOf role with
  | none => rw [effectOf_of_none ha, effectOf_of_none ha]
  | some a => rw [effectOf_of_account ha, effectOf_of_account ha, h.effect_reversed]

/-- Entries on accounts without a role. -/
theorem effectOf_eq_zero {b : Participant Amount} {entries : List (Entry Amount)}
    (h : ∀ e ∈ entries, ∀ role, b.accountOf role ≠ some e.accountID) (role : Role) :
    b.effectOf role entries = 0 := by
  cases ha : b.accountOf role with
  | none => exact effectOf_of_none ha entries
  | some a =>
    rw [effectOf_of_account ha]
    refine Ledger.effect_eq_zero fun e he => ?_
    rintro rfl
    exact h e he role ha

variable [LinearOrder Amount]

namespace Chart

variable {b : Participant Amount}

/-- The account for a role exists and grows in the direction of the role. -/
theorem account (h : b.Chart) {role : Role} {a : Ledger.AccountID}
    (ha : b.accountOf role = some a) :
    ∃ acct, b.ledger.accounts.lookup a = some acct ∧
      acct.type.normalBalance = role.normal := by
  cases role with
  | customer id =>
    obtain ⟨d, hd, rfl⟩ := Option.map_eq_some_iff.mp ha
    obtain ⟨g, hg, htype⟩ := h.deposit.gl id d hd
    exact ⟨g, hg, by rw [htype]; rfl⟩
  | suspense =>
    cases ha
    obtain ⟨acct, hacct, htype⟩ := h.suspense
    exact ⟨acct, hacct, by rw [htype]; rfl⟩
  | reserve =>
    cases ha
    obtain ⟨acct, hacct, htype⟩ := h.reserve
    exact ⟨acct, hacct, by rw [htype]; rfl⟩

/-- No account has two roles. -/
theorem role_unique (h : b.Chart) {role role' : Role} {a : Ledger.AccountID}
    (ha : b.accountOf role = some a) (ha' : b.accountOf role' = some a) :
    role = role' := by
  cases role with
  | customer id =>
    obtain ⟨d, hd, rfl⟩ := Option.map_eq_some_iff.mp ha
    cases role' with
    | customer id' =>
      obtain ⟨d', hd', hgl⟩ := Option.map_eq_some_iff.mp ha'
      exact congrArg Role.customer (h.deposit.gl_unique id id' d d' hd hd' hgl.symm)
    | suspense => exact absurd (Option.some.inj ha').symm (h.gl_ne_suspense id d hd)
    | reserve => exact absurd (Option.some.inj ha').symm (h.gl_ne_reserve hd)
  | suspense =>
    cases ha
    cases role' with
    | customer id' =>
      obtain ⟨d', hd', hgl⟩ := Option.map_eq_some_iff.mp ha'
      exact absurd hgl (h.gl_ne_suspense id' d' hd')
    | suspense => rfl
    | reserve => exact absurd (Option.some.inj ha').symm h.suspense_ne_reserve
  | reserve =>
    cases ha
    cases role' with
    | customer id' =>
      obtain ⟨d', hd', hgl⟩ := Option.map_eq_some_iff.mp ha'
      exact absurd hgl (h.gl_ne_reserve hd')
    | suspense => exact absurd (Option.some.inj ha') h.suspense_ne_reserve
    | reserve => rfl

/-- The accounts for two roles are the same only if the roles are. -/
theorem accountOf_eq_iff (h : b.Chart) {role role' : Role} {a a' : Ledger.AccountID}
    (ha : b.accountOf role = some a) (ha' : b.accountOf role' = some a') :
    a = a' ↔ role = role' := by
  constructor
  · rintro rfl
    exact h.role_unique ha ha'
  · rintro rfl
    exact Option.some.inj (ha.symm.trans ha')

section Transfer

variable {source target : Role} {debit credit : Ledger.AccountID}

/-- A transfer credits one role and debits another. -/
theorem effect_transfer (h : b.Chart) {role : Role} {a : Ledger.AccountID}
    (hsource : b.accountOf source = some debit)
    (htarget : b.accountOf target = some credit) (ha : b.accountOf role = some a)
    (amount : Amount) : Ledger.effect role.normal a (transfer debit credit amount)
      = Role.moved source target amount role := by
  have hdebit : a = debit ↔ source = role :=
    (h.accountOf_eq_iff ha hsource).trans eq_comm
  have hcredit : a = credit ↔ target = role :=
    (h.accountOf_eq_iff ha htarget).trans eq_comm
  -- the two conditions are on accounts on the left and on roles on the right
  have hif : ∀ r : Role, (if r = role then r.credited amount else 0)
      = if r = role then role.credited amount else 0 :=
    fun r => if_ctx_congr Iff.rfl (fun h => by rw [h]) fun _ => rfl
  rw [Role.moved, hif, hif, Role.credited]
  rcases role.normal_eq with hn | hn
  · rw [hn, Ledger.effect_transfer_debit]
    by_cases ht : target = role <;> by_cases hs : source = role <;>
      simp [hdebit, hcredit, ht, hs]
  · simp [hn, hdebit, hcredit]

/-- The same for all roles, those without an account included. -/
theorem effectOf_transfer (h : b.Chart) (hsource : b.accountOf source = some debit)
    (htarget : b.accountOf target = some credit) (amount : Amount) (role : Role) :
    b.effectOf role (transfer debit credit amount) = Role.moved source target amount role := by
  cases ha : b.accountOf role with
  | some a =>
    rw [effectOf_of_account ha]
    exact h.effect_transfer hsource htarget ha amount
  | none =>
    have hs : source ≠ role := by
      rintro rfl
      cases ha.symm.trans hsource
    have ht : target ≠ role := by
      rintro rfl
      cases ha.symm.trans htarget
    rw [effectOf_of_none ha, Role.moved, if_neg hs, if_neg ht, sub_zero]

end Transfer

/-- What a posting does to the balances. -/
theorem balanceOf_record (h : b.Chart) (now : Time) (req : PostTransactionRequest Amount)
    (role : Role) :
    (b.withLedger (b.ledger.record now (b.ledger.newTransaction now req))).balanceOf role
      = b.balanceOf role + b.effectOf role req.entries := by
  let b' := b.withLedger (b.ledger.record now (b.ledger.newTransaction now req))
  show b'.balanceOf role = _
  cases ha : b.accountOf role with
  | none =>
    have ha' : b'.accountOf role = none := ha
    rw [balanceOf, balanceOf, ha, ha', effectOf_of_none ha, add_zero]
  | some a =>
    have ha' : b'.accountOf role = some a := ha
    obtain ⟨acct, hacct, hnormal⟩ := h.account ha
    rw [balanceOf_of_account ha, balanceOf_of_account ha', effectOf_of_account ha, ← hnormal]
    exact h.ledger.balance_record hacct now req

/-- A reversal adds the effect of the opposite entries. -/
theorem balanceOf_recordReversal (h : b.Chart) {txID : Ledger.TransactionID}
    {original : Transaction Amount}
    (hstored : b.ledger.transactions.lookup txID = some original) (now : Time)
    (description : String) (role : Role) :
    (b.withLedger (b.ledger.recordReversal now txID original description)).balanceOf role
      = b.balanceOf role + b.effectOf role (original.entries.map Entry.reversed) := by
  let b' := b.withLedger (b.ledger.recordReversal now txID original description)
  show b'.balanceOf role = _
  cases ha : b.accountOf role with
  | none =>
    have ha' : b'.accountOf role = none := ha
    rw [balanceOf, balanceOf, ha, ha', effectOf_of_none ha, add_zero]
  | some a =>
    have ha' : b'.accountOf role = some a := ha
    obtain ⟨acct, hacct, hnormal⟩ := h.account ha
    rw [balanceOf_of_account ha, balanceOf_of_account ha', effectOf_of_account ha, ← hnormal]
    exact h.ledger.balance_recordReversal hacct now description hstored

/-! ### A deposit layer that grows -/

section Grows

variable {r : Register Amount}

omit [AddCommGroup Amount] [LinearOrder Amount] in
/-- A role keeps its account, or gets one that is new. -/
theorem accountOf_withDeposit (hg : b.deposit.Grows r) (role : Role) :
    (b.withDeposit r).accountOf role = b.accountOf role ∨
      b.accountOf role = none ∧ ∃ a, (b.withDeposit r).accountOf role = some a ∧
        b.ledger.accounts.lookup a = none := by
  cases role with
  | suspense => exact .inl rfl
  | reserve => exact .inl rfl
  | customer id =>
    cases hd : b.deposit.accounts.lookup id with
    | some d =>
      obtain ⟨d', hd', hgl, -⟩ := hg.accounts id d hd
      have ha' : (b.withDeposit r).accountOf (.customer id) = some d.glAccount :=
        Option.map_eq_some_iff.mpr ⟨d', hd', hgl⟩
      exact .inl (ha'.trans (accountOf_customer hd).symm)
    | none =>
      have ha : b.accountOf (.customer id) = none := Option.map_eq_none_iff.mpr hd
      cases hd' : r.accounts.lookup id with
      | none =>
        have ha' : (b.withDeposit r).accountOf (.customer id) = none :=
          Option.map_eq_none_iff.mpr hd'
        exact .inl (ha'.trans ha.symm)
      | some d' =>
        refine .inr ⟨ha, d'.glAccount, accountOf_customer hd', ?_⟩
        rcases hg.new id d' hd' with ⟨d, hd₀, -⟩ | hnew
        · cases hd.symm.trans hd₀
        · exact hnew

/-- Without a posting, no balance changes. -/
theorem balanceOf_withDeposit (h : b.Chart) (hg : b.deposit.Grows r)
    (htx : r.book.transactions = b.ledger.transactions) (role : Role) :
    (b.withDeposit r).balanceOf role = b.balanceOf role := by
  rcases accountOf_withDeposit hg role with hsame | ⟨hnone, a, ha, hnew⟩
  · cases ha : b.accountOf role with
    | none => rw [balanceOf, balanceOf, hsame, ha]
    | some a =>
      obtain ⟨acct, hacct, -⟩ := h.account ha
      rw [balanceOf_of_account ha, balanceOf_of_account (hsame.trans ha)]
      exact Book.balance_congr hacct (hg.glAccounts a acct hacct) htx
  · rw [balanceOf_of_account ha, balanceOf, hnone]
    exact h.ledger.balance_fresh hnew htx

omit [LinearOrder Amount] in
/-- Entries on old accounts do what they did. -/
theorem effectOf_withDeposit (hg : b.deposit.Grows r) {entries : List (Entry Amount)}
    (hentries : ∀ e ∈ entries, e.accountID ∈ b.ledger.accounts) (role : Role) :
    (b.withDeposit r).effectOf role entries = b.effectOf role entries := by
  rcases accountOf_withDeposit hg role with hsame | ⟨hnone, a, ha, hnew⟩
  · rw [effectOf, effectOf, hsame]
  · rw [effectOf_of_account ha, effectOf_of_none hnone]
    refine Ledger.effect_eq_zero fun e he => ?_
    rintro rfl
    exact Finmap.lookup_eq_none.mp hnew (hentries e he)

end Grows

end Chart

end Participant

/-! ## All banks -/

namespace Network

variable [LinearOrder Amount] {s : Network Amount} {now : Time} {i : ParticipantID}
  {b : Participant Amount}

omit [LinearOrder Amount] in
/-- Writing a bank back changes what the bank holds. -/
theorem holdings_setParticipant (hb : s.participants.lookup i = some b)
    {b' : Participant Amount} {delta : Role → Amount}
    (hdelta : ∀ role, b'.balanceOf role = b.balanceOf role + delta role)
    (hset : b'.settlementAccount = b.settlementAccount) :
    (s.setParticipant i b').holdings = s.holdings + fun place =>
      match place with
      | .bank j role => if j = i then delta role else 0
      | .centralBank _ => 0 := by
  funext place
  rw [Pi.add_apply]
  cases place with
  | bank j role =>
    dsimp only [holdings]
    rw [setParticipant_lookup]
    by_cases hj : j = i
    · subst hj
      rw [if_pos rfl, if_pos rfl, hb]
      exact hdelta role
    · rw [if_neg hj, if_neg hj, add_zero]
  | centralBank j =>
    dsimp only [holdings]
    rw [setParticipant_lookup, add_zero]
    by_cases hj : j = i
    · subst hj
      rw [if_pos rfl, hb]
      show (s.setParticipant j b').centralBank.balance b'.settlementAccount = _
      rw [hset]
      rfl
    · rw [if_neg hj]
      rfl

omit [LinearOrder Amount] in
/-- A transfer between two roles of a bank, as a function of the place. -/
theorem moved_eq_credit (i : ParticipantID) (source target : Role) (amount : Amount) :
    (fun place => match place with
      | .bank j role => if j = i then Role.moved source target amount role else 0
      | .centralBank _ => 0)
      = credit (.bank i target) amount - credit (.bank i source) amount := by
  funext place
  rw [Pi.sub_apply]
  cases place with
  | bank j role =>
    dsimp only
    rw [credit_bank, credit_bank, Role.moved]
    by_cases hj : j = i
    · simp [hj]
    · simp [hj, Ne.symm hj]
  | centralBank j => simp

/-- A transfer in the ledger of a bank. -/
theorem holdings_posted (h : s.Banks) (hb : s.participants.lookup i = some b)
    (source target : Role) {debit credit : Ledger.AccountID} {amount : Amount}
    {req : PostTransactionRequest Amount} (hsource : b.accountOf source = some debit)
    (htarget : b.accountOf target = some credit)
    (hentries : req.entries = transfer debit credit amount) :
    (s.posted now i b req).holdings = s.holdings
      + (Payment.credit (.bank i target) amount
        - Payment.credit (.bank i source) amount) := by
  have hchart := (h.bank i b hb).chart
  have hdelta : ∀ role, (b.withLedger (b.ledger.record now
      (b.ledger.newTransaction now req))).balanceOf role
        = b.balanceOf role + Role.moved source target amount role := by
    intro role
    rw [hchart.balanceOf_record, hentries, hchart.effectOf_transfer hsource htarget]
  rw [posted, holdings_setParticipant hb hdelta rfl, moved_eq_credit]

/-- The reversal of a transfer in the ledger of a bank. -/
theorem holdings_reversed (h : s.Banks) (hb : s.participants.lookup i = some b)
    (source target : Role) {debit credit : Ledger.AccountID} {amount : Amount}
    {txID : Ledger.TransactionID} {original : Transaction Amount}
    (hsource : b.accountOf source = some debit)
    (htarget : b.accountOf target = some credit)
    (hmoves : original.Moves debit credit amount)
    (hstored : b.ledger.transactions.lookup txID = some original)
    (description : String) :
    (s.reversed now i b txID original description).holdings = s.holdings
      - (Payment.credit (.bank i target) amount
        - Payment.credit (.bank i source) amount) := by
  have hchart := (h.bank i b hb).chart
  have hdelta : ∀ role, (b.withLedger (b.ledger.recordReversal now txID original
      description)).balanceOf role
        = b.balanceOf role + Role.moved target source amount role := by
    intro role
    rw [hchart.balanceOf_recordReversal hstored, Participant.effectOf_moves_reversed hmoves,
      hchart.effectOf_transfer htarget hsource]
  rw [reversed, holdings_setParticipant hb hdelta rfl, moved_eq_credit]
  abel

/-! ## The central bank -/

omit [LinearOrder Amount] in
/-- What entries in the ledger of the central bank do to the accounts of the
banks. -/
def cbEffect (s : Network Amount) (entries : List (Entry Amount)) : Place → Amount
  | .bank _ _ => 0
  | .centralBank i =>
    match s.participants.lookup i with
    | none => 0
    | some b => Ledger.effect .credit b.settlementAccount entries

/-- A posting at the central bank. -/
theorem holdings_cbPosted (h : s.Banks) (req : PostTransactionRequest Amount) :
    (s.cbPosted now req).holdings = s.holdings + s.cbEffect req.entries := by
  funext place
  rw [Pi.add_apply]
  cases place with
  | bank j role => exact (add_zero _).symm
  | centralBank j =>
    dsimp only [holdings, cbEffect, cbPosted, setCentralBank]
    cases hb : s.participants.lookup j with
    | none => exact (add_zero _).symm
    | some b =>
      obtain ⟨acct, hacct, htype⟩ := h.settlement j b hb
      refine (h.centralBank.balance_record hacct now req).trans ?_
      rw [htype]
      rfl

omit [LinearOrder Amount] in
theorem cbEffect_append (s : Network Amount) (es es' : List (Entry Amount)) :
    s.cbEffect (es ++ es') = s.cbEffect es + s.cbEffect es' := by
  funext place
  rw [Pi.add_apply]
  cases place with
  | bank j role => exact (add_zero _).symm
  | centralBank j =>
    dsimp only [cbEffect]
    cases s.participants.lookup j with
    | none => exact (add_zero _).symm
    | some b =>
      dsimp only
      rw [Ledger.effect, Ledger.effect, Ledger.effect, List.map_append, List.sum_append]

omit [LinearOrder Amount] in
theorem cbEffect_nil (s : Network Amount) :
    s.cbEffect ([] : List (Entry Amount)) = 0 := by
  funext place
  cases place with
  | bank j role => rfl
  | centralBank j =>
    dsimp only [cbEffect]
    cases s.participants.lookup j <;> rfl

/-- An entry on the account of bank `i`. -/
theorem cbEffect_settlement (h : s.Banks) (hb : s.participants.lookup i = some b)
    {e : Entry Amount} (he : e.accountID = b.settlementAccount) :
    s.cbEffect [e] = credit (.centralBank i)
      (if e.direction = .credit then e.amount else -e.amount) := by
  funext place
  cases place with
  | bank j role => exact (credit_centralBank_bank ..).symm
  | centralBank j =>
    rw [credit_centralBank]
    dsimp only [cbEffect]
    cases hj : s.participants.lookup j with
    | none =>
      refine (if_neg ?_).symm
      rintro rfl
      cases hj.symm.trans hb
    | some c =>
      have hiff : e.accountID ≠ c.settlementAccount ↔ ¬i = j := by
        rw [he, not_iff_not]
        constructor
        · exact h.settlement_unique i j b c hb hj
        · rintro rfl
          cases hb.symm.trans hj
          rfl
      simp only [Ledger.effect_cons, Ledger.effect_nil, add_zero, Entry.effect, hiff]
      by_cases hij : i = j
      · simp [hij]
      · simp [hij]

/-- An entry on the settlement assets. -/
theorem cbEffect_assets (h : s.Banks) {e : Entry Amount}
    (he : e.accountID = s.cbAssets) : s.cbEffect [e] = 0 := by
  funext place
  cases place with
  | bank j role => rfl
  | centralBank j =>
    dsimp only [cbEffect]
    cases hj : s.participants.lookup j with
    | none => rfl
    | some c =>
      have hne : e.accountID ≠ c.settlementAccount :=
        fun heq => h.settlement_ne_assets hj (heq.symm.trans he)
      simp [Ledger.Entry.effect, hne]

/-- New reserves for bank `i`. -/
theorem cbEffect_issue (h : s.Banks) (hb : s.participants.lookup i = some b)
    (amount : Amount) : s.cbEffect (transfer s.cbAssets b.settlementAccount amount)
      = credit (.centralBank i) amount := by
  let debit : Entry Amount :=
    { accountID := s.cbAssets, amount := amount, direction := .debit }
  let credit' : Entry Amount :=
    { accountID := b.settlementAccount, amount := amount, direction := .credit }
  show s.cbEffect ([debit] ++ [credit']) = _
  rw [cbEffect_append, cbEffect_assets h rfl, cbEffect_settlement h hb rfl, zero_add]
  rfl

/-- Reserves that move from bank `i` to bank `j`. -/
theorem cbEffect_transfer (h : s.Banks) (hb : s.participants.lookup i = some b)
    {j : ParticipantID} {c : Participant Amount}
    (hc : s.participants.lookup j = some c) (amount : Amount) :
    s.cbEffect (transfer b.settlementAccount c.settlementAccount amount)
      = credit (.centralBank j) amount - credit (.centralBank i) amount := by
  let debit : Entry Amount :=
    { accountID := b.settlementAccount, amount := amount, direction := .debit }
  let credit' : Entry Amount :=
    { accountID := c.settlementAccount, amount := amount, direction := .credit }
  show s.cbEffect ([debit] ++ [credit']) = _
  rw [cbEffect_append, cbEffect_settlement h hb rfl, cbEffect_settlement h hc rfl]
  show credit _ (-amount) + credit _ amount = _
  rw [credit_neg]
  abel

/-- The legs of net positions. -/
theorem cbEffect_settlementEntries (h : s.Banks) {l : List (ParticipantID × Amount)}
    (hl : ∀ d ∈ l, d.1 ∈ s.participants) : s.cbEffect (s.settlementEntries l)
      = (l.map fun d => credit (.centralBank d.1) d.2).sum := by
  induction l with
  | nil => exact cbEffect_nil s
  | cons d l ih =>
    obtain ⟨b, hb⟩ := Finmap.mem_iff.mp (hl d List.mem_cons_self)
    have hleg : s.cbEffect (s.settlementLeg d) = credit (.centralBank d.1) d.2 := by
      rw [settlementLeg]
      split
      · next hzero => rw [hzero, credit_zero, cbEffect_nil]
      · rw [hb]
        dsimp only
        split
        · exact cbEffect_settlement h hb rfl
        · refine (cbEffect_settlement h hb rfl).trans ?_
          show credit _ (- -d.2) = _
          rw [neg_neg]
    rw [settlementEntries, List.flatMap_cons, ← settlementEntries, cbEffect_append, hleg,
      ih fun d' h' => hl d' (List.mem_cons_of_mem _ h'), List.map_cons, List.sum_cons]

/-! ## Changes that move no money -/

/-- A deposit layer that grows without a posting. -/
theorem holdings_withDeposit (h : s.Banks) (hb : s.participants.lookup i = some b)
    {r : Register Amount} (hg : b.deposit.Grows r)
    (htx : r.book.transactions = b.ledger.transactions) :
    (s.setParticipant i (b.withDeposit r)).holdings = s.holdings := by
  have hsame : ∀ role,
      (b.withDeposit r).balanceOf role = b.balanceOf role + (fun _ => 0) role := by
    intro role
    rw [add_zero]
    exact (h.bank i b hb).chart.balanceOf_withDeposit hg htx role
  rw [holdings_setParticipant hb hsame rfl]
  funext place
  rw [Pi.add_apply]
  cases place <;> simp

/-- A new bank has nothing. -/
theorem holdings_withBank (h : s.Banks) {acct : Ledger.Account}
    {p : Participant Amount} (hnew : s.NewBank acct p) :
    (s.withBank now acct p).holdings = s.holdings := by
  have hfresh := h.fresh_bank hnew
  have hlook : ∀ j, (s.withBank now acct p).participants.lookup j
      = if j = p.id then some p else s.participants.lookup j :=
    fun j => Finmap.lookup_insert_ite ..
  funext place
  cases place with
  | bank j role =>
    dsimp only [holdings]
    rw [hlook]
    by_cases hj : j = p.id
    · rw [if_pos hj, hj, hfresh]
      show p.balanceOf role = 0
      rw [Participant.balanceOf]
      cases ha : p.accountOf role with
      | none => rfl
      | some a =>
        obtain ⟨g, hg, -⟩ := hnew.wf.chart.account ha
        show p.ledger.balance a = 0
        rw [Book.balance_of_lookup hg, Book.computeBookBalance, hnew.transactions,
          Finmap.sum_empty]
    · rw [if_neg hj]
  | centralBank j =>
    dsimp only [holdings]
    rw [hlook]
    by_cases hj : j = p.id
    · rw [if_pos hj, hj, hfresh]
      show (s.withBank now acct p).centralBank.balance p.settlementAccount = 0
      rw [hnew.settlement]
      exact h.centralBank.balance_fresh (h.fresh_settlement hnew) rfl
    · rw [if_neg hj]
      cases hb : s.participants.lookup j with
      | none => rfl
      | some b =>
        obtain ⟨g, hg, -⟩ := h.settlement j b hb
        have hg' : (s.withBank now acct p).centralBank.accounts.lookup
            b.settlementAccount = some g :=
          (Book.Extends.addAccount (h.fresh_settlement hnew)).accounts _ g hg
        exact Book.balance_congr hg hg' rfl

end Network

end CoreBanking.Payment
