import StoreBench.Failure
import StoreBench.Random.Choice
import StoreBench.Telecom.Procedure
import StoreBench.Telecom.SubscriberNumber

/-! Endless requests: kinds by their weights, inputs from the sets that the population uses. -/
namespace StoreBench.Telecom

open StoreBench.Random

def drawKind : Draw ProcedureKind := return ProcedureKind.atPoint ProcedureKind.all (← fair32 100)

def drawId (subscribers : UInt64) : Draw UInt64 :=
  return UInt64.ofNat (1 + (← fair64 subscribers.toNat))

/-- The hour at which a forwarding ends, from 1 on. -/
def drawEndTime : Draw UInt8 := return UInt8.ofNat (1 + (← fair32 maxEndTime))

def drawProcedure (subscribers : UInt64) : ProcedureKind → Draw Procedure
  | .getSubscriberData => return .getSubscriberData (← drawId subscribers)
  | .getNewDestination => do
    let id ← drawId subscribers
    let kind ← pick facilityTypes
    let start ← pick startTimes
    let stop ← drawEndTime
    return .getNewDestination id kind start stop
  | .getAccessData => do
    let id ← drawId subscribers
    let kind ← pick accessTypes
    return .getAccessData id kind
  | .updateSubscriberData => do
    let id ← drawId subscribers
    let kind ← pick facilityTypes
    let bit ← chance evenChance
    let dataA ← drawByte
    return .updateSubscriberData id kind bit dataA
  | .updateLocation => do
    let id ← drawId subscribers
    let vlr ← quick32 (UInt32.size - 1)
    return .updateLocation (SubscriberNumber.ofId id) (UInt32.ofNat (1 + vlr))
  | .insertCallForwarding => do
    let id ← drawId subscribers
    let kind ← pick facilityTypes
    let start ← pick startTimes
    let stop ← drawEndTime
    let target ← drawDigits numberWidth
    return .insertCallForwarding (SubscriberNumber.ofId id) kind start stop target
  | .deleteCallForwarding => do
    let id ← drawId subscribers
    let kind ← pick facilityTypes
    let start ← pick startTimes
    return .deleteCallForwarding (SubscriberNumber.ofId id) kind start

structure Traffic where
  subscribers : UInt64
  stream : Stream
  deriving DecidableEq

namespace Traffic

/-- Requests need someone to be about. -/
def ofStream (subscribers : UInt64) (stream : Stream) : Except Failure Traffic :=
  if subscribers = 0 then .error (.ofCause .noSubscribers) else .ok ⟨subscribers, stream⟩

def ofSeed (subscribers seed : UInt64) : Except Failure Traffic :=
  ofStream subscribers (Stream.ofSeed seed)

def draw {α : Type} (t : Traffic) (d : Draw α) : α × Traffic :=
  let result := d t.stream
  (result.1, { t with stream := result.2 })

theorem draw_fst {α : Type} (t : Traffic) (d : Draw α) : (t.draw d).1 = d.value t.stream := (rfl)

theorem draw_snd {α : Type} (t : Traffic) (d : Draw α) :
    (t.draw d).2 = { t with stream := d.rest t.stream } := (rfl)

def nextKind (t : Traffic) : ProcedureKind × Traffic := t.draw drawKind

def generate (t : Traffic) (kind : ProcedureKind) : Procedure × Traffic :=
  t.draw (drawProcedure t.subscribers kind)

def next (t : Traffic) : Procedure × Traffic :=
  let (kind, t) := t.nextKind
  t.generate kind

end Traffic

end StoreBench.Telecom
