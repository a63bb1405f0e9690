import CoreBanking.Api.Handlers
import CoreBanking.Concurrent.Order

/-!
# The order of locks in the handlers

A handler makes its calls one after another, and holds no lock between them. So each request
takes locks in the order of their rank, as its calls do (`ascends_serve`).
-/

namespace CoreBanking.Api

open Concurrent
open Ledger (Book)
open Payment (Network Participant)
open Prog (Ascends)

variable {Amount α β : Type}

theorem ascends_orBadRequest (x : Except String α) :
    (orBadRequest x : Handling Amount α).Ascends Lock.rank 0 :=
  .ofExcept _

/-- A body is decoded before anything else happens. -/
theorem ascends_body {x : Except String α} {f : α → Handling Amount β}
    (hf : ∀ a, (f a).Ascends Lock.rank 0) : (orBadRequest x >>= f).Ascends Lock.rank 0 :=
  .bind (ascends_orBadRequest x) hf

theorem ascends_call {p : Program Amount α} {f : α → Handling Amount β}
    (hp : p.Ascends Lock.rank 0) (hf : ∀ a, (f a).Ascends Lock.rank 0) :
    (call p >>= f).Ascends Lock.rank 0 :=
  .bind (hp.mapError _) hf

/-- A call, and its response. -/
theorem ascends_respond {p : Program Amount α} (hp : p.Ascends Lock.rank 0)
    (g : α → Response Amount) :
    (call p >>= fun a => pure (g a) : Handling Amount (Response Amount)).Ascends Lock.rank 0 :=
  ascends_call hp fun _ => .pure _

theorem ascends_participant {pid : String} {f : Participant Amount → Handling Amount β}
    (hf : ∀ p, (f p).Ascends Lock.rank 0) : (participant pid >>= f).Ascends Lock.rank 0 :=
  ascends_call (ascends_query _) hf

/-- A look at the ledger of a bank, and the response. -/
theorem ascends_viewLedger (pid : String) (f : Book Amount → Except Ledger.Err α)
    (g : α → Response Amount) :
    (participant pid >>= fun _ => readLedger pid f >>= fun a => pure (g a) :
      Handling Amount (Response Amount)).Ascends Lock.rank 0 :=
  ascends_participant fun _ => ascends_respond (ascends_onLedger (by decide) _ _ _) g

@[inherit_doc ascends_viewLedger]
theorem ascends_viewDeposit (pid : String)
    (f : Deposit.Register Amount → Except Deposit.Err α) (g : α → Response Amount) :
    (participant pid >>= fun _ => readDeposit pid f >>= fun a => pure (g a) :
      Handling Amount (Response Amount)).Ascends Lock.rank 0 :=
  ascends_participant fun _ => ascends_respond (ascends_onRegister (by decide) _ _ _) g

/-- A call on the ledger of a bank, and the response. -/
theorem ascends_write (pid : String) (x : Time → Call (Book Amount) Ledger.Err α)
    (g : α → Response Amount) :
    (call (onLedger ⟨pid⟩ .write x) >>= fun a => pure (g a) :
      Handling Amount (Response Amount)).Ascends Lock.rank 0 :=
  ascends_respond (ascends_onLedger (by decide) _ _ _) g

theorem ascends_statusCall (pid did action : String) :
    (statusCall pid did action : Handling Amount Unit).Ascends Lock.rank 0 := by
  have hregister : ∀ (x : Time → Call (Deposit.Register Amount) Deposit.Err Unit),
      (call (onRegister ⟨pid⟩ .write x)).Ascends Lock.rank 0 :=
    fun x => Ascends.mapError (ascends_onRegister (by decide) _ _ x) _
  rw [statusCall]
  split
  · exact hregister _
  split
  · exact hregister _
  split
  · exact hregister _
  split
  · exact hregister _
  · exact .fail _

variable [AddCommGroup Amount] [LinearOrder Amount]

theorem ascends_handle (c : Choices Amount) (req : Request Amount) :
    (handle c req).Ascends Lock.rank 0 := by
  have hone : 0 ≤ 1 := by decide
  cases req with
  | addParticipant body => exact ascends_body fun _ => ascends_respond (ascends_addParticipant _) _
  | listParticipants => exact ascends_respond (ascends_query _) _
  | getParticipant pid => exact ascends_participant fun _ => .pure _
  | fundDeposit pid body =>
    refine ascends_participant fun _ => ascends_body fun _ => ?_
    exact ascends_call (ascends_deposit _ _ _ _) fun _ =>
      ascends_respond (ascends_program hone _ _ _ _) _
  | listSchemes => exact ascends_respond (ascends_query _) _
  | listReserves =>
    refine ascends_call (ascends_query _) fun parts =>
      .bind (.mapM (fun p => ?_) _) fun _ => .pure _
    exact ascends_call (ascends_reserveBalance _) fun _ => .pure _
  | getReserve pid => exact ascends_respond (ascends_reserveBalance _) _
  | centralBankAudit => exact ascends_respond (ascends_onCentralBank (by decide) _ _) _
  | createLedger pid body =>
    exact ascends_participant fun _ => ascends_body fun _ => ascends_write _ _ _
  | listLedgers pid => exact ascends_viewLedger _ _ _
  | getLedger pid lid => exact ascends_viewLedger _ _ _
  | createSubledger pid lid body =>
    exact ascends_participant fun _ => ascends_body fun _ => ascends_write _ _ _
  | listSubledgers pid lid => exact ascends_viewLedger _ _ _
  | getSubledger pid sid => exact ascends_viewLedger _ _ _
  | createAccount pid sid body =>
    refine ascends_participant fun _ => ascends_body fun _ => ascends_body fun _ => ?_
    exact ascends_write _ _ _
  | listAccounts pid sid => exact ascends_viewLedger _ _ _
  | getAccount pid aid => exact ascends_viewLedger _ _ _
  | bookBalance pid aid => exact ascends_viewLedger _ _ _
  | postTransaction pid body =>
    refine ascends_participant fun _ => ascends_body fun _ => ascends_body fun _ => ?_
    exact ascends_write _ _ _
  | listTransactions pid account => exact ascends_viewLedger _ _ _
  | getTransaction pid tid => exact ascends_viewLedger _ _ _
  | reverseTransaction pid tid body =>
    exact ascends_participant fun _ => ascends_body fun _ => ascends_write _ _ _
  | ledgerAudit pid entity => exact ascends_viewLedger _ _ _
  | openDepositAccount pid body =>
    refine ascends_participant fun _ => ascends_body fun _ => ?_
    exact ascends_respond (ascends_program hone _ _ _ _) _
  | listDepositAccounts pid => exact ascends_viewDeposit _ _ _
  | getDepositAccount pid did => exact ascends_viewDeposit _ _ _
  | depositBalance pid did =>
    exact ascends_participant fun _ => ascends_respond (ascends_program hone _ _ _ _) _
  | depositStatus pid did body =>
    refine ascends_participant fun _ => ascends_body fun _ => ?_
    refine .bind (ascends_statusCall _ _ _) fun _ => ?_
    exact ascends_respond (ascends_onRegister hone _ _ _) _
  | closeDepositAccount pid did =>
    exact ascends_participant fun _ => ascends_respond (ascends_program hone _ _ _ _) _
  | createHold pid did body =>
    refine ascends_participant fun _ => ascends_body fun _ => ?_
    exact ascends_respond (ascends_program hone _ _ _ _) _
  | listHolds pid did => exact ascends_viewDeposit _ _ _
  | getHold pid hid => exact ascends_viewDeposit _ _ _
  | releaseHold pid hid =>
    exact ascends_participant fun _ => ascends_respond (ascends_onRegister hone _ _ _) _
  | captureHold pid hid body =>
    refine ascends_participant fun _ => ascends_body fun _ => ?_
    exact ascends_respond (ascends_program hone _ _ _ _) _
  | takeSnapshot pid did body =>
    refine ascends_participant fun _ => ascends_body fun _ => ascends_body fun _ => ?_
    exact ascends_respond (ascends_program hone _ _ _ _) _
  | getSnapshots pid did date =>
    refine ascends_participant fun _ => ?_
    split
    · exact ascends_body fun _ => ascends_respond (ascends_onRegister hone _ _ _) _
    · exact ascends_respond (ascends_onRegister hone _ _ _) _
  | depositAudit pid => exact ascends_viewDeposit _ _ _
  | createMandate body =>
    exact ascends_body fun _ => ascends_respond (ascends_createMandate _ _ _) _
  | listMandates => exact ascends_respond (ascends_query _) _
  | getMandate mid => exact ascends_respond (ascends_query _) _
  | revokeMandate mid =>
    exact ascends_call (ascends_revokeMandate _) fun _ => ascends_respond (ascends_query _) _
  | initiatePayment body =>
    exact ascends_body fun _ => ascends_respond (ascends_initiatePayment _) _
  | listPayments => exact ascends_respond (ascends_query _) _
  | getPayment payid => exact ascends_respond (ascends_query _) _
  | rejectPayment payid body =>
    exact ascends_body fun _ => ascends_respond (ascends_rejectPayment _ _) _
  | returnPayment payid body =>
    exact ascends_body fun _ => ascends_respond (ascends_returnPayment _ _) _
  | openCycle body => exact ascends_body fun _ => ascends_respond (ascends_openCycleFor _) _
  | listCycles => exact ascends_respond (ascends_query _) _
  | getCycle cid => exact ascends_respond (ascends_query _) _
  | closeCycle cid => exact ascends_respond (ascends_closeCycle _) _
  | settleCycle cid => exact ascends_respond (ascends_settleCycle _ _ _) _
  | listSettlements => exact ascends_respond (ascends_query _) _
  | getSettlement sid => exact ascends_respond (ascends_query _) _

theorem ascends_serve (c : Choices Amount) (req : Request Amount) :
    (serve c req).Ascends Lock.rank 0 :=
  (ascends_handle c req).recover _

end CoreBanking.Api
