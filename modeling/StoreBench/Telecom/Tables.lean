import StoreBench.Telecom.Row

/-!
The contents of the four tables, and which rows they take. A row is refused if its key is taken,
if it is a subscriber whose number is taken, if it is too long, and, where foreign keys are
enforced, if its parent is absent.
-/
namespace StoreBench.Telecom

/-- The rows of each table, the latest first. -/
structure Tables where
  subscribers : List Subscriber
  accessInfos : List AccessInfo
  facilities : List Facility
  forwardings : List Forwarding
  deriving DecidableEq

namespace Tables

def empty : Tables := ⟨[], [], [], []⟩

def hasSubscriber (t : Tables) (id : UInt64) : Bool := t.subscribers.any (·.id == id)

def hasNumber (t : Tables) (number : String) : Bool := t.subscribers.any (·.number == number)

def hasAccessInfo (t : Tables) (owner : UInt64) (kind : UInt8) : Bool :=
  t.accessInfos.any fun r => r.owner == owner && r.kind == kind

def hasFacility (t : Tables) (owner : UInt64) (kind : UInt8) : Bool :=
  t.facilities.any fun r => r.owner == owner && r.kind == kind

def hasForwarding (t : Tables) (owner : UInt64) (kind start : UInt8) : Bool :=
  t.forwardings.any fun r => r.owner == owner && r.kind == kind && r.start == start

def idOf? (t : Tables) (number : String) : Option UInt64 :=
  (t.subscribers.find? (·.number == number)).map (·.id)

/-- Whether the key of a row is that of a row in its table. -/
def takesKey (t : Tables) : Record → Bool
  | .subscriber r => t.hasSubscriber r.id
  | .accessInfo r => t.hasAccessInfo r.owner r.kind
  | .facility r => t.hasFacility r.owner r.kind
  | .forwarding r => t.hasForwarding r.owner r.kind r.start

/-- Whether a row is a subscriber with the number of another. -/
def takesNumber (t : Tables) : Record → Bool
  | .subscriber r => t.hasNumber r.number
  | _ => false

def hasParent (t : Tables) : Record → Bool
  | .subscriber _ => true
  | .accessInfo r => t.hasSubscriber r.owner
  | .facility r => t.hasSubscriber r.owner
  | .forwarding r => t.hasFacility r.owner r.kind

/-- Why a row cannot be added. Keys are checked first, parents last. -/
def refusal? (t : Tables) (foreignKeys : Bool) (r : Record) : Option DatabaseError :=
  if t.takesKey r then some (.takenKey r.table.keyColumns)
  else if t.takesNumber r then some (.takenValue (r.table.column "sub_nbr"))
  else if maxLength < r.length then some .tooBig
  else if foreignKeys && !t.hasParent r then some .orphan
  else none

def add (t : Tables) : Record → Tables
  | .subscriber r => { t with subscribers := r :: t.subscribers }
  | .accessInfo r => { t with accessInfos := r :: t.accessInfos }
  | .facility r => { t with facilities := r :: t.facilities }
  | .forwarding r => { t with forwardings := r :: t.forwardings }

def records (t : Tables) : List Record :=
  t.subscribers.map .subscriber ++ t.accessInfos.map .accessInfo ++
    t.facilities.map .facility ++ t.forwardings.map .forwarding

def recordsOf (t : Tables) : Table → List Record
  | .subscriber => t.subscribers.map .subscriber
  | .accessInfo => t.accessInfos.map .accessInfo
  | .specialFacility => t.facilities.map .facility
  | .callForwarding => t.forwardings.map .forwarding

def orphans (t : Tables) : List Record := t.records.filter fun r => !t.hasParent r

end Tables

end StoreBench.Telecom
