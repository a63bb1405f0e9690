import CoreBanking.Base.Sorting
import CoreBanking.Payment.Network

/-!
# Listings and lookups of a network (list.go, system.go)

The listings go over a map, in the order in which Go visits it, and sort what they have
collected: banks and schemes by id, the others by a time stamp, then id. Each takes the order
of its map and a sort.
-/

namespace CoreBanking.Payment.Network

variable {Amount : Type} (s : Network Amount)

/-! ## Lookups -/

def getParticipant (id : ParticipantID) : Except Err (Participant Amount) :=
  s.participants.find id .participantNotFound

def getPayment (id : PaymentID) : Except Err (Payment Amount) :=
  s.payments.find id .paymentNotFound

def getCycle (id : CycleID) : Except Err (ClearingCycle Amount) :=
  s.cycles.find id .cycleNotFound

def getMandate (id : MandateID) : Except Err (Mandate Amount) :=
  s.mandates.find id .mandateNotFound

def getSettlement (id : SettlementID) : Except Err (Settlement Amount) :=
  s.settlements.find id .settlementNotFound

/-- `ReserveBalance`: what a bank has on reserve at the central bank. -/
def reserveBalance [AddCommGroup Amount] (id : ParticipantID) : Except Err Amount := do
  let p ← s.participants.find id .participantNotFound
  (s.centralBank.bookBalance p.settlementAccount).mapError .ledger

/-! ## Listings -/

def listParticipants (order : MapOrder ParticipantID (Participant Amount))
    (sorter : SliceSort (Participant Amount)) : List (Participant Amount) :=
  listed order sorter (fun x y => x.id.val < y.id.val) (fun _ => True) s.participants

def listSchemes (order : MapOrder SchemeID Scheme) (sorter : SliceSort Scheme) : List Scheme :=
  listed order sorter (fun x y => x.id.val < y.id.val) (fun _ => True) s.schemes

def listPayments (order : MapOrder PaymentID (Payment Amount))
    (sorter : SliceSort (Payment Amount)) : List (Payment Amount) :=
  listed order sorter (ByCreation Payment.createdAt fun p => p.id.val) (fun _ => True) s.payments

def listMandates (order : MapOrder MandateID (Mandate Amount))
    (sorter : SliceSort (Mandate Amount)) : List (Mandate Amount) :=
  listed order sorter (ByCreation Mandate.createdAt fun m => m.id.val) (fun _ => True) s.mandates

def listCycles (order : MapOrder CycleID (ClearingCycle Amount))
    (sorter : SliceSort (ClearingCycle Amount)) : List (ClearingCycle Amount) :=
  listed order sorter (ByCreation ClearingCycle.openedAt fun c => c.id.val) (fun _ => True)
    s.cycles

def listSettlements (order : MapOrder SettlementID (Settlement Amount))
    (sorter : SliceSort (Settlement Amount)) : List (Settlement Amount) :=
  listed order sorter (ByCreation Settlement.settledAt fun st => st.id.val) (fun _ => True)
    s.settlements

end CoreBanking.Payment.Network
