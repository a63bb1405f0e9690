import CoreBanking.Api.Serial
import CoreBanking.Payment.AllOrNothing

/-!
# The calls of requests

Which layer the call of a request goes to, whether it takes effect as a whole, and for which
days it takes snapshots (`forall_op`).
-/

namespace CoreBanking.Api

open Ledger (Book)
open Payment (Network)
open Payment.Network (Op ClientOp)

variable {Amount : Type}

/-- The request is a call on the ledger of a bank. -/
def Request.OnLedger : Request Amount → Prop
  | .createLedger _ _ | .createSubledger _ _ _ | .createAccount _ _ _ | .postTransaction _ _
  | .reverseTransaction _ _ _ => True
  | _ => False

/-- The request is no settlement and no return. -/
def Request.AllOrNothing : Request Amount → Prop
  | .settleCycle _ | .returnPayment _ _ => False
  | _ => True

/-- The call goes to the ledger of a bank. -/
def OnLedgerOp : ClientOp Amount → Prop
  | .network _ => False
  | .ledger _ _ => True

/-- The call takes effect as a whole. -/
def AllOrNothingOp : ClientOp Amount → Prop
  | .network op => op.AllOrNothing
  | .ledger _ _ => True

/-- The date is one that a request can name. -/
def IsDay (date : Time) : Prop := ∃ text, parseDay text = .ok date

/-- A call takes a snapshot for a day at most. -/
def DayOp (o : ClientOp Amount) : Prop :=
  ∀ i id date, o = .network (.register i (.takeEndOfDaySnapshot id date)) → IsDay date

/-- What is known of a call from the request that makes it. -/
structure Request.Fits (req : Request Amount) (o : ClientOp Amount) : Prop where
  allOrNothing : req.AllOrNothing → AllOrNothingOp o
  ledger : ¬req.OnLedger → ¬OnLedgerOp o
  day : DayOp o
  initiates : (∃ r, o = .network (.initiatePayment r)) → ∃ body, req = .initiatePayment body

theorem isDay_of_parsed {text : String} {day : Time} (h : (parseDay text).toOption = some day) :
    IsDay day := by
  cases hparse : parseDay text with
  | error message =>
    rw [hparse] at h
    cases h
  | ok day' =>
    rw [hparse] at h
    cases h
    exact ⟨text, hparse⟩

variable {s : Network Amount} {P : ClientOp Amount → Prop} {α : Type}

theorem forall_atBank {pid : String} {f : Payment.Participant Amount → Option (ClientOp Amount)}
    (hf : ∀ p, ∀ o ∈ f p, P o) : ∀ o ∈ atBank s pid f, P o := by
  intro o ho
  obtain ⟨p, -, hp⟩ := Option.bind_eq_some_iff.mp ho
  exact hf p o hp

theorem forall_bind {x : Option α} {f : α → Option (ClientOp Amount)}
    (hf : ∀ a, ∀ o ∈ f a, P o) : ∀ o ∈ x.bind f, P o := by
  intro o ho
  obtain ⟨a, -, ha⟩ := Option.bind_eq_some_iff.mp ho
  exact hf a o ha

theorem forall_map {x : Option α} {f : α → ClientOp Amount} (hf : ∀ a, P (f a)) :
    ∀ o ∈ x.map f, P o := by
  intro o ho
  obtain ⟨a, -, rfl⟩ := Option.map_eq_some_iff.mp ho
  exact hf a

theorem forall_some {o : ClientOp Amount} (h : P o) : ∀ o' ∈ some o, P o' := by
  intro o' ho'
  cases ho'
  exact h

theorem forall_none : ∀ o ∈ (none : Option (ClientOp Amount)), P o :=
  fun o ho => by cases ho

/-- **The calls that requests make.** -/
theorem forall_op (c : Choices Amount) (s : Network Amount) (req : Request Amount) :
    ∀ o ∈ req.op c s, req.Fits o := by
  have hnetwork : ∀ op : Op Amount, op.AllOrNothing → DayOp (.network op) →
      (∀ r, op ≠ .initiatePayment r) → ∀ req : Request Amount, req.Fits (.network op) := by
    refine fun op hop hday hpay req => ⟨fun _ => hop, fun _ => not_false, hday, ?_⟩
    rintro ⟨r, ⟨⟩⟩
    exact absurd rfl (hpay r)
  have hledger : ∀ i (op : Book.Op Amount) (req : Request Amount), req.OnLedger →
      req.Fits (.ledger i op) :=
    fun i op req hreq => ⟨fun _ => trivial, fun hno => absurd hreq hno, by rintro _ _ _ ⟨⟩,
      by rintro ⟨_, ⟨⟩⟩⟩
  cases req with
  | addParticipant body =>
    exact forall_map fun _ =>
      hnetwork _ (by trivial) (by rintro _ _ _ ⟨⟩) (by rintro _ ⟨⟩) _
  | fundDeposit pid body =>
    exact forall_atBank fun _ => forall_map fun _ =>
      hnetwork _ (by trivial) (by rintro _ _ _ ⟨⟩) (by rintro _ ⟨⟩) _
  | createLedger pid body =>
    exact forall_atBank fun _ => forall_map fun _ => hledger _ _ _ trivial
  | createSubledger pid lid body =>
    exact forall_atBank fun _ => forall_map fun _ => hledger _ _ _ trivial
  | createAccount pid sid body =>
    exact forall_atBank fun _ => forall_bind fun _ => forall_map fun _ => hledger _ _ _ trivial
  | postTransaction pid body =>
    exact forall_atBank fun _ => forall_bind fun _ => forall_map fun _ => hledger _ _ _ trivial
  | reverseTransaction pid tid body =>
    exact forall_atBank fun _ => forall_map fun _ => hledger _ _ _ trivial
  | openDepositAccount pid body =>
    exact forall_atBank fun _ => forall_map fun _ =>
      hnetwork _ (by trivial) (by rintro _ _ _ ⟨⟩) (by rintro _ ⟨⟩) _
  | depositStatus pid did body =>
    refine forall_atBank fun _ => forall_bind fun req o ho => ?_
    obtain ⟨op, hop, rfl⟩ := Option.map_eq_some_iff.mp ho
    refine hnetwork _ (by trivial) ?_ (by rintro _ ⟨⟩) _
    rintro _ id date ⟨⟩
    rw [statusOp] at hop
    split_ifs at hop <;> cases hop
  | closeDepositAccount pid did =>
    exact forall_atBank fun _ => forall_some
      (hnetwork _ (by trivial) (by rintro _ _ _ ⟨⟩) (by rintro _ ⟨⟩) _)
  | createHold pid did body =>
    exact forall_atBank fun _ => forall_map fun _ =>
      hnetwork _ (by trivial) (by rintro _ _ _ ⟨⟩) (by rintro _ ⟨⟩) _
  | releaseHold pid hid =>
    exact forall_atBank fun _ => forall_some
      (hnetwork _ (by trivial) (by rintro _ _ _ ⟨⟩) (by rintro _ ⟨⟩) _)
  | captureHold pid hid body =>
    exact forall_atBank fun _ => forall_map fun _ =>
      hnetwork _ (by trivial) (by rintro _ _ _ ⟨⟩) (by rintro _ ⟨⟩) _
  | takeSnapshot pid did body =>
    refine forall_atBank fun _ => forall_bind fun req o ho => ?_
    obtain ⟨day, hday, rfl⟩ := Option.map_eq_some_iff.mp ho
    refine hnetwork _ (by trivial) ?_ (by rintro _ ⟨⟩) _
    rintro _ _ _ ⟨⟩
    exact isDay_of_parsed hday
  | createMandate body =>
    exact forall_map fun _ =>
      hnetwork _ (by trivial) (by rintro _ _ _ ⟨⟩) (by rintro _ ⟨⟩) _
  | revokeMandate mid =>
    exact forall_some
      (hnetwork _ (by trivial) (by rintro _ _ _ ⟨⟩) (by rintro _ ⟨⟩) _)
  | initiatePayment body =>
    exact forall_map fun _ => ⟨fun _ => trivial, fun _ => not_false, by rintro _ _ _ ⟨⟩,
      fun _ => ⟨body, rfl⟩⟩
  | rejectPayment payid body =>
    exact forall_map fun _ =>
      hnetwork _ (by trivial) (by rintro _ _ _ ⟨⟩) (by rintro _ ⟨⟩) _
  | returnPayment payid body =>
    exact forall_map fun _ =>
      ⟨False.elim, fun _ => not_false, by rintro _ _ _ ⟨⟩, by rintro ⟨_, ⟨⟩⟩⟩
  | openCycle body =>
    exact forall_map fun _ =>
      hnetwork _ (by trivial) (by rintro _ _ _ ⟨⟩) (by rintro _ ⟨⟩) _
  | closeCycle cid =>
    exact forall_some
      (hnetwork _ (by trivial) (by rintro _ _ _ ⟨⟩) (by rintro _ ⟨⟩) _)
  | settleCycle cid =>
    exact forall_some ⟨False.elim, fun _ => not_false, by rintro _ _ _ ⟨⟩, by rintro ⟨_, ⟨⟩⟩⟩
  | _ => exact forall_none

end CoreBanking.Api
