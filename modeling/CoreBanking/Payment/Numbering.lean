import CoreBanking.Payment.References

/-!
# The ids of a network

One counter numbers the banks, payments, mandates, cycles and settlements of a network, and
the keys under which it posts are derived from their ids.

- `numbered_anyReached`: in every run all of them have numbers of their own
  (`Network.issued`);
- `KeySource.key_inj`: so no two postings are made under the same key;
- `nothing_overwritten`: what follows for the three stores.
-/

namespace CoreBanking.Payment

open Ledger (Book)
open Deposit (Register)

variable {Amount : Type}

namespace Network

/-- The ids of all that is in the network, each with its kind. -/
def issued (s : Network Amount) : Multiset (String × String) :=
  idsOf "bank" (fun b => b.id.val) s.participants +
    idsOf "pay" (fun p => p.id.val) s.payments +
    idsOf "mnd" (fun m => m.id.val) s.mandates +
    idsOf "cyc" (fun c => c.id.val) s.cycles +
    idsOf "set" (fun st => st.id.val) s.settlements

section Numbered

variable [AddCommGroup Amount] [LinearOrder Amount]

/-- A new entity gets the next number, and a changed one keeps its own. -/
theorem Update.numbered {s s' : Network Amount} (hu : Update s s') (h : s.IDs)
    (hn : Numbered s.idCounter s.issued) : Numbered s'.idCounter s'.issued := by
  have hnext := hn.mono (Nat.le_succ s.idCounter)
  cases hu with
  | scheme => exact hn
  | centralBank => exact hn
  | closed => exact hn
  | indexed => exact hn
  | drawn => exact hnext
  | bank hb step =>
    simp only [issued, setParticipant]
    rw [idsOf_update hb "bank"]
    · exact hn
    · rfl
  | revoked hm =>
    simp only [issued]
    rw [idsOf_update hm "mnd"]
    · exact hn
    · rfl
  | cycle hc c' hsame =>
    simp only [issued, setCycle]
    rw [idsOf_update hc "cyc"]
    · exact hn
    · rw [hsame]
  | payment hp p' hterms =>
    simp only [issued, setPayment]
    rw [idsOf_update hp "pay"]
    · exact hn
    · rw [hterms]
  | joined b hid =>
    have hfresh := h.participants.fresh (fun _ _ => ParticipantID.mk.inj) hid
    simp only [issued, idsOf_insert hfresh, Multiset.cons_add]
    rw [hid]
    exact hn.next "bank"
  | mandated m hid =>
    have hfresh := h.mandates.fresh (fun _ _ => MandateID.mk.inj) hid
    simp only [issued, idsOf_insert hfresh, Multiset.cons_add, Multiset.add_cons]
    rw [hid]
    exact hn.next "mnd"
  | opened c hid =>
    have hfresh := h.cycles.fresh (fun _ _ => CycleID.mk.inj) hid
    simp only [issued, idsOf_insert hfresh, Multiset.cons_add, Multiset.add_cons]
    rw [hid]
    exact hn.next "cyc"
  | paid p hid =>
    have hfresh := h.payments.fresh (fun _ _ => PaymentID.mk.inj) hid
    simp only [issued, idsOf_insert hfresh, Multiset.cons_add, Multiset.add_cons]
    rw [hid]
    exact hn.next "pay"
  | settled st hid =>
    have hfresh := h.settlements.fresh (fun _ _ => SettlementID.mk.inj) hid
    simp only [issued, idsOf_insert hfresh, Multiset.add_cons]
    rw [hid]
    exact hn.next "set"

theorem Updates.numbered {s s' : Network Amount} (hu : Updates s s') (h : s.Sound)
    (hn : Numbered s.idCounter s.issued) : Numbered s'.idCounter s'.issued := by
  induction hu with
  | refl => exact hn
  | tail hbefore hlast ih => exact hlast.numbered (Updates.sound hbefore h).ids ih

/-! ## Runs -/

theorem anyExec_numbered (step : Time × AnyOp Amount) (s : Network Amount) (h : s.Sound)
    (hn : Numbered s.idCounter s.issued) :
    Numbered (anyExec step s).idCounter (anyExec step s).issued := by
  have ho := h.anyExec_outcome step
  generalize anyExec step s = s' at ho ⊢
  cases ho with
  | updates hu => exact hu.numbered h hn
  | opened hu => exact hu.numbered h hn

omit [AddCommGroup Amount] [LinearOrder Amount] in
theorem numbered_newNetwork (now : Time) :
    Numbered (newNetwork Amount now).idCounter (newNetwork Amount now).issued := by
  have hempty : (newNetwork Amount now).issued = 0 := by
    rw [newNetwork]
    split <;> rfl
  rw [hempty]
  exact .zero _

theorem numbered_anyReached (start : Time) (steps : List (Time × AnyOp Amount)) :
    Numbered (anyReached start steps).idCounter (anyReached start steps).issued :=
  run_invariant_of anyExec_sound anyExec_numbered (sound_newNetwork start)
    (numbered_newNetwork start) steps

end Numbered

end Network

/-! ## Derived keys -/

/-- The postings of a payment. -/
inductive PaymentLeg where
  | debit
  | credit
  | returnDebit
  | returnCredit
  | returnSettle
deriving DecidableEq

namespace PaymentLeg

/-- The key of a posting. -/
def key : PaymentLeg → PaymentID → String
  | .debit => PaymentID.debitKey
  | .credit => PaymentID.creditKey
  | .returnDebit => PaymentID.returnDebitKey
  | .returnCredit => PaymentID.returnCreditKey
  | .returnSettle => PaymentID.returnSettleKey

/-- What comes after the id of the payment. -/
def suffix : PaymentLeg → String
  | .debit => "debit"
  | .credit => "credit"
  | .returnDebit => "return-debit"
  | .returnCredit => "return-credit"
  | .returnSettle => "return-settle"

theorem key_eq (leg : PaymentLeg) (id : PaymentID) :
    leg.key id = joinColon id.val leg.suffix := by
  cases leg <;> rfl

theorem suffix_inj {leg leg' : PaymentLeg} (h : leg.suffix = leg'.suffix) : leg = leg' := by
  revert h
  cases leg <;> cases leg' <;> decide

end PaymentLeg

/-- What the network derives a key for: a posting of a payment, the settlement of a cycle, or
its mirror in the ledger of a bank. -/
inductive KeySource where
  | payment (leg : PaymentLeg) (id : PaymentID)
  | settle (id : CycleID)
  | mirror (id : CycleID) (i : ParticipantID)
deriving DecidableEq

namespace KeySource

def key : KeySource → String
  | .payment leg id => leg.key id
  | .settle id => id.settleKey
  | .mirror id i => id.mirrorKey i

/-- The id has been drawn from the counter of a network, or will be. -/
def Drawn : KeySource → Prop
  | .payment _ id => ∃ n, id = ⟨ident "pay" n⟩
  | .settle id => ∃ n, id = ⟨ident "cyc" n⟩
  | .mirror id _ => ∃ n, id = ⟨ident "cyc" n⟩

theorem colonFree_pay (n : Nat) : ColonFree (ident "pay" n) := colonFree_ident (by decide) n

theorem colonFree_cyc (n : Nat) : ColonFree (ident "cyc" n) := colonFree_ident (by decide) n

/-- The key of a payment is not one of a cycle. -/
theorem joinColon_pay_ne_cyc (n m : Nat) (a b : String) :
    joinColon (ident "pay" n) a ≠ joinColon (ident "cyc" m) b := by
  intro h
  obtain ⟨hid, -⟩ := (joinColon_inj (colonFree_pay n) (colonFree_cyc m)).mp h
  exact absurd (ident_eq_iff.mp hid).1 (by decide)

/-- The key of a settlement is not one of a mirror. -/
theorem settleKey_ne_mirrorKey (n m : Nat) (i : ParticipantID) :
    CycleID.settleKey ⟨ident "cyc" n⟩ ≠ CycleID.mirrorKey ⟨ident "cyc" m⟩ i := by
  intro h
  obtain ⟨-, hsuffix⟩ := (joinColon_inj (colonFree_cyc n) (colonFree_cyc m)).mp h
  refine not_colonFree_joinColon "reserve" i.val ?_
  rw [← hsuffix]
  decide

/-- Different postings have different keys. -/
theorem key_inj {k k' : KeySource} (hk : k.Drawn) (hk' : k'.Drawn) (h : k.key = k'.key) :
    k = k' := by
  cases k with
  | payment leg id =>
    obtain ⟨n, rfl⟩ := hk
    rw [key, PaymentLeg.key_eq] at h
    cases k' with
    | payment leg' id' =>
      obtain ⟨m, rfl⟩ := hk'
      rw [key, PaymentLeg.key_eq] at h
      obtain ⟨hid, hsuffix⟩ := (joinColon_inj (colonFree_pay n) (colonFree_pay m)).mp h
      rw [PaymentLeg.suffix_inj hsuffix, ident_inj.mp hid]
    | settle id' =>
      obtain ⟨m, rfl⟩ := hk'
      exact absurd h (joinColon_pay_ne_cyc n m _ _)
    | mirror id' i' =>
      obtain ⟨m, rfl⟩ := hk'
      exact absurd h (joinColon_pay_ne_cyc n m _ _)
  | settle id =>
    obtain ⟨n, rfl⟩ := hk
    cases k' with
    | payment leg' id' =>
      obtain ⟨m, rfl⟩ := hk'
      rw [key, key, PaymentLeg.key_eq] at h
      exact absurd h.symm (joinColon_pay_ne_cyc m n _ _)
    | settle id' =>
      obtain ⟨m, rfl⟩ := hk'
      obtain ⟨hid, -⟩ := (joinColon_inj (colonFree_cyc n) (colonFree_cyc m)).mp h
      rw [ident_inj.mp hid]
    | mirror id' i' =>
      obtain ⟨m, rfl⟩ := hk'
      exact absurd h (settleKey_ne_mirrorKey n m i')
  | mirror id i =>
    obtain ⟨n, rfl⟩ := hk
    cases k' with
    | payment leg' id' =>
      obtain ⟨m, rfl⟩ := hk'
      rw [key, key, PaymentLeg.key_eq] at h
      exact absurd h.symm (joinColon_pay_ne_cyc m n _ _)
    | settle id' =>
      obtain ⟨m, rfl⟩ := hk'
      exact absurd h.symm (settleKey_ne_mirrorKey m n i)
    | mirror id' i' =>
      obtain ⟨m, rfl⟩ := hk'
      obtain ⟨hid, hsuffix⟩ := (joinColon_inj (colonFree_cyc n) (colonFree_cyc m)).mp h
      have hi : i = i' := congrArg ParticipantID.mk (joinColon_right.mp hsuffix)
      rw [ident_inj.mp hid, hi]

end KeySource

/-! ## Nothing is replaced -/

namespace Network

variable [AddCommGroup Amount] [LinearOrder Amount]

/-- All that is in the network has a number of its own, and no call puts anything in the place
of something else. The same holds of the ledgers in it. -/
structure FreshIDs (s : Network Amount) : Prop where
  numbered : Numbered s.idCounter s.issued
  distinct : (s.issued.map Prod.snd).Nodup
  unused : ∀ n, s.idCounter < n → ∀ pfx, ident pfx n ∉ s.issued.map Prod.snd
  ids : s.IDs
  retains : ∀ step, s.Retains (anyExec step s)
  openCycle : ∀ step sc id id', s.openCycle.lookup sc = some id →
    (anyExec step s).openCycle.lookup sc = some id' → id' = id
  centralBank : s.centralBank.FreshIDs
  deposit : ∀ i b, s.participants.lookup i = some b → b.deposit.FreshIDs

theorem freshIDs_anyReached (start : Time) (steps : List (Time × AnyOp Amount)) :
    (anyReached start steps).FreshIDs where
  numbered := numbered_anyReached start steps
  distinct := (numbered_anyReached start steps).nodup
  unused _ := (numbered_anyReached start steps).fresh
  ids := (sound_anyReached start steps).ids
  retains step := by
    have h := sound_anyReached start steps
    exact (h.anyExec_outcome step).retains h
  openCycle step _ _ _ := ((sound_anyReached start steps).anyExec_outcome step).openCycle_kept
  centralBank := by
    obtain ⟨ops, hops⟩ := (sound_anyReached start steps).centralBank
    rw [hops]
    exact Book.freshIDs_reached ops
  deposit i b hb := by
    obtain ⟨ops, hops⟩ := ((sound_anyReached start steps).banks i b hb).reachable
    rw [hops]
    exact Register.freshIDs_reached ops

/-- **Nothing is ever overwritten.** In whatever state calls of any kind have left a book, a
register or a network, all that is in it, entries and audit events included, has a number of
its own up to the counter, and is in its id; so no call replaces an entry of a map by another
one. Nor do two postings of a network share a key. -/
theorem nothing_overwritten (Amount : Type) [AddCommGroup Amount] [LinearOrder Amount] :
    Function.Injective (fun n : Nat => toString n) ∧
    (∀ steps : List (Time × Book.Op Amount), (Book.reached steps).FreshIDs) ∧
    (∀ steps : List (Time × Register.Step Amount), (Register.reached steps).FreshIDs) ∧
    (∀ (start : Time) (steps : List (Time × AnyOp Amount)),
      (anyReached start steps).FreshIDs) ∧
    ∀ k k' : KeySource, k.Drawn → k'.Drawn → k.key = k'.key → k = k' :=
  ⟨fun _ _ => toString_nat_inj.mp, Book.freshIDs_reached, Register.freshIDs_reached,
    freshIDs_anyReached, fun _ _ => KeySource.key_inj⟩

end Network

end CoreBanking.Payment
