import CoreBanking.Api.Refused

/-!
# All accounts of a bank in one list (web/src/lib/api/endpoints.ts)

There is no endpoint for that. The web client asks for the ledgers of the bank, for the
subledgers of each and for the accounts of each of those, while others go on.

- `all_accounts_listed`: the list has every account that was there at the start, none twice,
  and each with the names of its own ledger and subledger.
-/

namespace CoreBanking.Api

open Ledger (Book)
open Payment (Network Participant ParticipantID)
open Payment.Network (clientExec)

variable {Amount : Type}

/-! ## Lists of lists -/

section Lists

variable {α β K T : Type} {as : List α} {f : α → List β} {tag : α → T} {key : β → K}

/-- Keys that tell whose list they are in are not met twice. -/
theorem nodup_flatMap_of_owner (owner : K → Option T) (htags : (as.map tag).Nodup)
    (hkeys : ∀ a ∈ as, ((f a).map key).Nodup)
    (howner : ∀ a ∈ as, ∀ b ∈ f a, owner (key b) = some (tag a)) :
    ((as.flatMap f).map key).Nodup := by
  rw [List.map_flatMap, List.nodup_flatMap]
  refine ⟨hkeys, (List.pairwise_map.mp htags).imp_of_mem fun {a a'} ha ha' hne k hk hk' => hne ?_⟩
  obtain ⟨b, hb, rfl⟩ := List.mem_map.mp hk
  obtain ⟨b', hb', heq⟩ := List.mem_map.mp hk'
  have hsame : some (tag a) = some (tag a') :=
    (howner a ha b hb).symm.trans (heq ▸ howner a' ha' b' hb')
  exact Option.some.inj hsame

end Lists

/-! ## The client -/

/-- What `request` throws. -/
structure ApiError where
  status : ℕ
  message : String

/-- What `request` makes of a response: the body, unless the status is an error. -/
def fetched (r : Response Amount) : Except ApiError (Body Amount) :=
  if 200 ≤ r.status ∧ r.status < 300 then .ok r.body
  else .error ⟨r.status, match r.body with
    | .error message => message
    -- the server sends nothing else with an error
    | _ => ""⟩

/-- A GL account with the names of its ledger and subledger. -/
structure AccountWithContext extends AccountDTO where
  ledgerName : String
  subledgerName : String

def Body.items : Body Amount → List (DTO Amount)
  | .list ds => ds
  | _ => []

section Endpoints

variable {m : Type → Type} [Monad m] (request : Request Amount → m (Body Amount))

/-- A request for a listing. -/
def requestList {β : Type} (decode : DTO Amount → Option β) (req : Request Amount) :
    m (List β) := do
  let body ← request req
  pure (body.items.filterMap decode)

def listLedgers (pid : String) : m (List LedgerDTO) :=
  requestList request (fun | .ledger d => some d | _ => none) (.listLedgers pid)

def listSubledgers (pid lid : String) : m (List SubledgerDTO) :=
  requestList request (fun | .subledger d => some d | _ => none) (.listSubledgers pid lid)

def listAccounts (pid sid : String) : m (List AccountDTO) :=
  requestList request (fun | .account d => some d | _ => none) (.listAccounts pid sid)

/-- `getAllAccounts`: ledgers, then subledgers, then accounts. No request is sent twice, so
that it does not matter in which order `Promise.all` sends them. -/
def getAllAccounts (pid : String) : m (List AccountWithContext) := do
  let ledgers ← listLedgers request pid
  let perLedger ← ledgers.mapM fun l => do
    let subs ← listSubledgers request pid l.id
    let perSub ← subs.mapM fun s => do
      let accts ← listAccounts request pid s.id
      pure (accts.map fun a => AccountWithContext.mk a l.name s.name)
    pure perSub.flatten
  pure perLedger.flatten

end Endpoints

/-! ## What the client gets -/

section Walk

open Ledger (Ledger Subledger Account LedgerID SubledgerID AccountID)

/-- The list that the answers make. -/
def accountsOf (ledgers : List Ledger) (subledgers : LedgerID → List Subledger)
    (accounts : SubledgerID → List Account) : List AccountWithContext :=
  ledgers.flatMap fun l => (subledgers l.id).flatMap fun sl =>
    (accounts sl.id).map fun a => ⟨toAccountDTO a, l.name, sl.name⟩

variable {ledgers : List Ledger} {subledgers : LedgerID → List Subledger}
  {accounts : SubledgerID → List Account}

theorem mem_accountsOf {x : AccountWithContext} : x ∈ accountsOf ledgers subledgers accounts ↔
    ∃ l ∈ ledgers, ∃ sl ∈ subledgers l.id, ∃ a ∈ accounts sl.id,
      (⟨toAccountDTO a, l.name, sl.name⟩ : AccountWithContext) = x := by
  simp only [accountsOf, List.mem_flatMap, List.mem_map]

theorem requestList_eq {α β : Type} {request : Request Amount → Except ApiError (Body Amount)}
    {decode : DTO Amount → Option β} {req : Request Amount} {as : List α} {g : α → DTO Amount}
    {f : α → β} (hreq : request req = .ok (.list (as.map g)))
    (hdecode : ∀ a, decode (g a) = some (f a)) :
    requestList request decode req = pure (as.map f) := by
  have hmap : (as.map g).filterMap decode = as.map f := by
    rw [List.filterMap_map, show decode ∘ g = some ∘ f from funext hdecode, List.filterMap_eq_map]
  rw [requestList, hreq, ← hmap]
  rfl

theorem getAllAccounts_eq {request : Request Amount → Except ApiError (Body Amount)} {pid : String}
    (hledgers : request (.listLedgers pid)
      = .ok (.list (ledgers.map fun l => .ledger (toLedgerDTO l))))
    (hsubledgers : ∀ lid, request (.listSubledgers pid lid)
      = .ok (.list ((subledgers ⟨lid⟩).map fun sl => .subledger (toSubledgerDTO sl))))
    (haccounts : ∀ sid, request (.listAccounts pid sid)
      = .ok (.list ((accounts ⟨sid⟩).map fun a => .account (toAccountDTO a)))) :
    getAllAccounts request pid = .ok (accountsOf ledgers subledgers accounts) := by
  have hl : listLedgers request pid = pure (ledgers.map toLedgerDTO) :=
    requestList_eq hledgers fun _ => rfl
  have hsl : ∀ lid, listSubledgers request pid lid
      = pure ((subledgers ⟨lid⟩).map toSubledgerDTO) :=
    fun lid => requestList_eq (hsubledgers lid) fun _ => rfl
  have ha : ∀ sid, listAccounts request pid sid = pure ((accounts ⟨sid⟩).map toAccountDTO) :=
    fun sid => requestList_eq (haccounts sid) fun _ => rfl
  simp only [getAllAccounts, hl, hsl, ha, pure_bind, List.mapM_pure, List.map_map]
  rfl

/-! ### The books that are looked at -/

/-- A state of the book, after `first` and before `last`. -/
structure Between (first last b : Book Amount) : Prop where
  since : first.Retains b
  till : b.Retains last
  resolves : b.Resolves

variable (c : Request Amount → Choices Amount) (book : Request Amount → Book Amount) (pid : String)

/-- What is seen of the ledgers, where each request finds a book of its own. -/
def ledgersSeen : List Ledger :=
  (book (.listLedgers pid)).listLedgers (c (.listLedgers pid)).ledgers.order
    (c (.listLedgers pid)).ledgers.sorter

@[inherit_doc ledgersSeen]
def subledgersSeen (lid : LedgerID) : List Subledger :=
  (book (.listSubledgers pid lid.val)).listSubledgers
    (c (.listSubledgers pid lid.val)).subledgers.order
    (c (.listSubledgers pid lid.val)).subledgers.sorter lid

@[inherit_doc ledgersSeen]
def accountsSeen (sid : SubledgerID) : List Account :=
  (book (.listAccounts pid sid.val)).listAccounts (c (.listAccounts pid sid.val)).accounts.order
    (c (.listAccounts pid sid.val)).accounts.sorter sid

def listedAccounts : List AccountWithContext :=
  accountsOf (ledgersSeen c book pid) (subledgersSeen c book pid) (accountsSeen c book pid)

variable {c book pid} {first last : Book Amount}

theorem mem_listedAccounts (h : ∀ req, (book req).Resolves) {x : AccountWithContext} :
    x ∈ listedAccounts c book pid ↔ ∃ l sl a,
      (book (.listLedgers pid)).ledgers.lookup l.id = some l ∧
      (book (.listSubledgers pid l.id.val)).subledgers.lookup sl.id = some sl ∧
      (book (.listAccounts pid sl.id.val)).accounts.lookup a.id = some a ∧
      sl.ledgerID = l.id ∧ a.subledgerID = sl.id ∧ ⟨toAccountDTO a, l.name, sl.name⟩ = x := by
  rw [listedAccounts, mem_accountsOf]
  constructor
  · rintro ⟨l, hl, sl, hsl, a, ha, rfl⟩
    obtain ⟨hl, -⟩ := (mem_listed_of_id (h _).ledger_id).mp hl
    obtain ⟨hsl, hledger⟩ := (mem_listed_of_id (h _).subledger_id).mp hsl
    obtain ⟨ha, hsubledger⟩ := (mem_listed_of_id (h _).account_id).mp ha
    exact ⟨l, sl, a, hl, hsl, ha, hledger, hsubledger, rfl⟩
  · rintro ⟨l, sl, a, hl, hsl, ha, hledger, hsubledger, rfl⟩
    exact ⟨l, (mem_listed_of_id (h _).ledger_id).mpr ⟨hl, trivial⟩,
      sl, (mem_listed_of_id (h _).subledger_id).mpr ⟨hsl, hledger⟩,
      a, (mem_listed_of_id (h _).account_id).mpr ⟨ha, hsubledger⟩, rfl⟩

/-- What is listed is there at the end, with the names of its own ledger and subledger. -/
theorem last_of_listed (h : ∀ req, Between first last (book req)) {x : AccountWithContext}
    (hx : x ∈ listedAccounts c book pid) :
    ∃ l sl a, last.accounts.lookup a.id = some a ∧
      last.subledgers.lookup a.subledgerID = some sl ∧
      last.ledgers.lookup sl.ledgerID = some l ∧ x = ⟨toAccountDTO a, l.name, sl.name⟩ := by
  obtain ⟨l, sl, a, hl, hsl, ha, hledger, hsubledger, rfl⟩ :=
    (mem_listedAccounts fun req => (h req).resolves).mp hx
  obtain ⟨_, hl', rfl⟩ := (h _).till.ledgers _ l hl
  obtain ⟨_, hsl', rfl⟩ := (h _).till.subledgers _ sl hsl
  obtain ⟨_, ha', rfl⟩ := (h _).till.accounts _ a ha
  exact ⟨l, sl, a, ha', hsubledger ▸ hsl', hledger ▸ hl', rfl⟩

/-- What is there at the start is listed. -/
theorem listed_of_first (h : ∀ req, Between first last (book req)) (hfirst : first.Resolves)
    {k : AccountID} {a : Account} (ha : first.accounts.lookup k = some a) :
    ∃ x ∈ listedAccounts c book pid, x.toAccountDTO = toAccountDTO a := by
  obtain ⟨sl, hsl⟩ := Finmap.mem_iff.mp (hfirst.subledger k a ha)
  obtain ⟨l, hl⟩ := Finmap.mem_iff.mp (hfirst.ledger _ sl hsl)
  have hk := hfirst.account_id k a ha
  have hsid := hfirst.subledger_id _ sl hsl
  have hlid := hfirst.ledger_id _ l hl
  obtain ⟨_, hl', rfl⟩ := (h (.listLedgers pid)).since.ledgers _ l hl
  obtain ⟨_, hsl', rfl⟩ := (h (.listSubledgers pid l.id.val)).since.subledgers _ sl hsl
  obtain ⟨_, ha', rfl⟩ := (h (.listAccounts pid sl.id.val)).since.accounts _ a ha
  refine ⟨_, (mem_listedAccounts fun req => (h req).resolves).mpr
    ⟨l, sl, a, ?_, ?_, ?_, hlid.symm, hsid.symm, rfl⟩, rfl⟩
  · rw [hlid]
    exact hl'
  · rw [hsid]
    exact hsl'
  · rw [hk]
    exact ha'

/-- No account is listed twice. It belongs to one subledger at the end, and that to one ledger. -/
theorem nodup_listed_accounts (h : ∀ req, Between first last (book req)) :
    ((listedAccounts c book pid).map fun x => x.id).Nodup := by
  let subledgerOf (id : String) : Option SubledgerID :=
    (last.accounts.lookup ⟨id⟩).map Account.subledgerID
  let ledgerOf (id : String) : Option LedgerID := do
    let sl ← last.subledgers.lookup (← subledgerOf id)
    pure sl.ledgerID
  have haccount : ∀ sid, ∀ a ∈ accountsSeen c book pid sid, subledgerOf a.id.val = some sid := by
    intro sid a ha
    obtain ⟨ha, hsubledger⟩ := (mem_listed_of_id (h _).resolves.account_id).mp ha
    obtain ⟨_, ha', rfl⟩ := (h _).till.accounts _ a ha
    show (last.accounts.lookup a.id).map Account.subledgerID = some sid
    rw [ha', Option.map_some, hsubledger]
  have hledgers : ((ledgersSeen c book pid).map Ledger.id).Nodup :=
    nodup_listed (h _).resolves.ledger_id
  have hsubledgers : ∀ lid, ((subledgersSeen c book pid lid).map Subledger.id).Nodup :=
    fun lid => nodup_listed (h _).resolves.subledger_id
  have haccounts : ∀ sid, ((accountsSeen c book pid sid).map Account.id).Nodup :=
    fun sid => nodup_listed (h _).resolves.account_id
  refine nodup_flatMap_of_owner ledgerOf hledgers (fun l _ => ?_) fun l _ x hx => ?_
  · refine nodup_flatMap_of_owner subledgerOf (hsubledgers l.id) (fun sl _ => ?_)
      fun sl _ x hx => ?_
    · rw [List.map_map]
      have hnames := (haccounts sl.id).map (f := AccountID.val) fun _ _ => congrArg AccountID.mk
      rwa [List.map_map] at hnames
    · obtain ⟨a, ha, rfl⟩ := List.mem_map.mp hx
      exact haccount sl.id a ha
  · obtain ⟨sl, hsl, hx⟩ := List.mem_flatMap.mp hx
    obtain ⟨a, ha, rfl⟩ := List.mem_map.mp hx
    obtain ⟨hsl, hledger⟩ := (mem_listed_of_id (h _).resolves.subledger_id).mp hsl
    obtain ⟨_, hsl', rfl⟩ := (h _).till.subledgers _ sl hsl
    show (subledgerOf a.id.val >>= fun sid => _) = some l.id
    rw [haccount sl.id a ha]
    show (last.subledgers.lookup sl.id >>= fun sl => pure sl.ledgerID) = some l.id
    rw [hsl', ← hledger]
    rfl

end Walk

/-! ## The walk while others go on -/

variable [AddCommGroup Amount] [LinearOrder Amount] {s : Network Amount} {p : Participant Amount}
  {pid : String}

namespace Arrival

theorem retains_exec (a : Arrival Amount) (h : s.Sound) : s.Retains (a.exec s) := by
  obtain ⟨r, -, hexec, -⟩ := a.served_eq h
  rw [hexec]
  cases a.op s with
  | none => exact .refl s
  | some o => exact (h.anyExec_outcome (a.now.now, .client o)).retains h

theorem sound_retains_run (as : List (Arrival Amount)) (h : s.Sound) :
    (run Arrival.exec s as).Sound ∧ s.Retains (run Arrival.exec s as) := by
  have hstep : ∀ (a : Arrival Amount) (t : Network Amount),
      t.Sound ∧ s.Retains t → (a.exec t).Sound ∧ s.Retains (a.exec t) :=
    fun a t ht => ⟨a.sound_exec ht.1, ht.2.trans (a.retains_exec ht.1)⟩
  exact run_invariant hstep ⟨h, .refl s⟩ as

/-- The response to the request. -/
def response (a : Arrival Amount) (s : Network Amount) : Response Amount :=
  match a.served s with
  | .ok r _ => r
  | .error e _ => e.elim

theorem response_of_view {a : Arrival Amount} {r : Response Amount}
    (hview : view a.choices a.now.now s a.request = some (.ok r)) : a.response s = r := by
  have hserved : a.served s = .ok r s := Prog.alone_recover_of_ok _ (alone_of_view hview) _
  rw [response, hserved]

end Arrival

omit [AddCommGroup Amount] [LinearOrder Amount] in
theorem see_listing {α : Type} (hp : s.participants.lookup ⟨pid⟩ = some p) (f : Book Amount → α)
    (g : α → Response Amount) :
    see (atLedger s pid fun b => .ok (f b)) g = .ok (g (f p.ledger)) := by
  have hlook : atLedger s pid (fun b => .ok (f b)) = .ok (f p.ledger) :=
    atLedger_eq_ok.mpr ⟨p, hp, rfl⟩
  rw [hlook]
  rfl

/-- Each request finds a network of its own, with a state of the bank. -/
theorem getAllAccounts_at {net : Request Amount → Network Amount}
    {bank : Request Amount → Participant Amount}
    (hbank : ∀ req, (net req).participants.lookup ⟨pid⟩ = some (bank req))
    (now : Request Amount → Clock) (c : Request Amount → Choices Amount) :
    getAllAccounts
        (fun req => fetched (Arrival.response ⟨now req, c req, req⟩ (net req))) pid
      = .ok (listedAccounts c (fun req => (bank req).ledger) pid) := by
  have hrequest : ∀ req {ds : List (DTO Amount)},
      view (c req) (now req).now (net req) req = some (.ok (listOK ds)) →
        fetched (Arrival.response ⟨now req, c req, req⟩ (net req)) = .ok (.list ds) := by
    intro req ds hview
    rw [Arrival.response_of_view hview]
    rfl
  refine getAllAccounts_eq (hrequest (.listLedgers pid) ?_)
    (fun lid => hrequest (.listSubledgers pid lid) ?_)
    fun sid => hrequest (.listAccounts pid sid) ?_
  · exact congrArg some (see_listing (hbank _) _ _)
  · exact congrArg some (see_listing (hbank _) _ _)
  · exact congrArg some (see_listing (hbank _) _ _)

/-- The bank after some of the requests. -/
theorem between_of_take {during : List (Arrival Amount)} {p' : Participant Amount} (h : s.Sound)
    (hp : s.participants.lookup ⟨pid⟩ = some p)
    (hp' : (run Arrival.exec s during).participants.lookup ⟨pid⟩ = some p') (n : ℕ) :
    ∃ b, (run Arrival.exec s (during.take n)).participants.lookup ⟨pid⟩ = some b ∧
      Between p.ledger p'.ledger b.ledger := by
  obtain ⟨hsound, hsince⟩ := Arrival.sound_retains_run (during.take n) h
  have htill := (Arrival.sound_retains_run (during.drop n) hsound).2
  rw [← run_append, List.take_append_drop] at htill
  obtain ⟨b, hb, hgrown⟩ := hsince.participants _ p hp
  obtain ⟨b', hb', hgrows⟩ := htill.participants _ b hb
  rw [hp'] at hb'
  cases hb'
  exact ⟨b, hb, hgrown.deposit.book, hgrows.deposit.book, resolves_of_lookup hsound hb⟩

/-- **All accounts, while others go on.** Each request of the walk is handled after some of the
requests of others. Accounts that were there at the start are listed. None is listed twice, and
each is there at the end, with the names of its own ledger and subledger. -/
theorem all_accounts_listed (start : Clock) (before during : List (Arrival Amount))
    (moment : Request Amount → ℕ) (now : Request Amount → Clock)
    (c : Request Amount → Choices Amount) (pid : String) {p : Participant Amount}
    (hp : (run Arrival.exec (Network.newNetwork Amount start.now) before).participants.lookup ⟨pid⟩
      = some p) :
    let first := run Arrival.exec (Network.newNetwork Amount start.now) before
    let last := run Arrival.exec first during
    let request (req : Request Amount) := fetched
      (Arrival.response ⟨now req, c req, req⟩ (run Arrival.exec first (during.take (moment req))))
    ∃ l p', getAllAccounts request pid = .ok l ∧ last.participants.lookup ⟨pid⟩ = some p' ∧
      (l.map fun x => x.id).Nodup ∧
      (∀ k a, p.ledger.accounts.lookup k = some a → ∃ x ∈ l, x.toAccountDTO = toAccountDTO a) ∧
      ∀ x ∈ l, ∃ lg sl a, p'.ledger.accounts.lookup a.id = some a ∧
        p'.ledger.subledgers.lookup a.subledgerID = some sl ∧
        p'.ledger.ledgers.lookup sl.ledgerID = some lg ∧
        x = ⟨toAccountDTO a, lg.name, sl.name⟩ := by
  intro first last request
  have hfirst : first.Sound :=
    (Arrival.sound_retains_run before (Network.sound_newNetwork start.now)).1
  obtain ⟨p', hp', -⟩ := (Arrival.sound_retains_run during hfirst).2.participants _ p hp
  have hbank : ∀ req, ∃ b,
      (run Arrival.exec first (during.take (moment req))).participants.lookup ⟨pid⟩ = some b ∧
        Between p.ledger p'.ledger b.ledger :=
    fun req => between_of_take hfirst hp hp' (moment req)
  choose bank hbank hbetween using hbank
  refine ⟨_, p', getAllAccounts_at hbank now c, hp', nodup_listed_accounts hbetween,
    fun k a ha => ?_, fun x hx => ?_⟩
  · exact listed_of_first hbetween (resolves_of_lookup hfirst hp) ha
  · exact last_of_listed hbetween hx

/-! ## A new bank -/

/-- To found a bank. -/
def founding : Arrival ℤ := ⟨⟨⟨5, 0⟩, by decide⟩, .byName, .addParticipant (.ok ⟨"A"⟩)⟩

/-- To open a ledger there. -/
def opening : Arrival ℤ :=
  ⟨⟨⟨6, 0⟩, by decide⟩, .byName, .createLedger "bank_1" (.ok ⟨"L"⟩)⟩

/-- The ledger is opened after the first request of the walk. -/
def afterFirst : Request ℤ → ℕ
  | .listLedgers _ => 0
  | _ => 1

theorem exists_founded : ∃ p, (run Arrival.exec (Network.newNetwork ℤ ⟨5, 0⟩)
    [founding]).participants.lookup ⟨"bank_1"⟩ = some p := by
  have hcalls : calls (Network.newNetwork ℤ ⟨5, 0⟩) [founding]
      = [(founding.now, .network (.addParticipant "A"))] := rfl
  rw [run_arrivals _ (Network.sound_newNetwork ⟨5, 0⟩), hcalls]
  have hfound : ((run clientExec (Network.newNetwork ℤ ⟨5, 0⟩)
      [(founding.now, .network (.addParticipant "A"))]).participants.lookup ⟨"bank_1"⟩).isSome := by
    decide +kernel
  exact Option.isSome_iff_exists.mp hfound

/-- Its accounts are listed, though a ledger is opened meanwhile. -/
theorem all_accounts_listed_founded :
    let first := run Arrival.exec (Network.newNetwork ℤ ⟨5, 0⟩) [founding]
    let request (req : Request ℤ) := fetched (Arrival.response ⟨founding.now, .byName, req⟩
      (run Arrival.exec first ([opening].take (afterFirst req))))
    ∃ p l, first.participants.lookup ⟨"bank_1"⟩ = some p ∧
      getAllAccounts request "bank_1" = .ok l ∧ (l.map fun x => x.id).Nodup ∧
      ∀ k a, p.ledger.accounts.lookup k = some a → ∃ x ∈ l, x.toAccountDTO = toAccountDTO a := by
  intro first request
  obtain ⟨p, hp⟩ := exists_founded
  obtain ⟨l, -, hl, -, hnodup, hlisted, -⟩ := all_accounts_listed founding.now [founding]
    [opening] afterFirst (fun _ => founding.now) (fun _ => .byName) "bank_1" hp
  exact ⟨p, l, hp, hl, hnodup, hlisted⟩

end CoreBanking.Api
