import StoreBench.Telecom.Statement
import StoreBench.Telecom.Tables

/-! Statements with values for their places, and what they do to tables that are there. -/
namespace StoreBench.Telecom

inductive Command where
  | selectSubscriber (id : UInt64)
  | selectDestination (id : UInt64) (kind start stop : UInt8)
  | selectAccessData (id : UInt64) (kind : UInt8)
  | updateBit (bit : Bool) (id : UInt64)
  | updateFacility (dataA : UInt8) (id : UInt64) (kind : UInt8)
  | updateLocation (vlrLocation : UInt32) (number : String)
  | selectId (number : String)
  | selectFacilityTypes (id : UInt64)
  | deleteForwarding (id : UInt64) (kind start : UInt8)
  | insert (r : Record)
  deriving DecidableEq

namespace Command

def statement : Command → Statement
  | selectSubscriber _ => .selectSubscriber
  | selectDestination .. => .selectDestination
  | selectAccessData .. => .selectAccessData
  | updateBit .. => .updateBit
  | updateFacility .. => .updateFacility
  | updateLocation .. => .updateLocation
  | selectId _ => .selectId
  | selectFacilityTypes _ => .selectFacilityTypes
  | deleteForwarding .. => .deleteForwarding
  | insert r => .insert r.table

def cells : Command → List Cell
  | selectSubscriber id => [.ofKey id]
  | selectDestination id kind start stop => [.ofKey id, .ofByte kind, .ofByte start, .ofByte stop]
  | selectAccessData id kind => [.ofKey id, .ofByte kind]
  | updateBit bit id => [.ofBool bit, .ofKey id]
  | updateFacility dataA id kind => [.ofByte dataA, .ofKey id, .ofByte kind]
  | updateLocation vlrLocation number => [.ofWord vlrLocation, .text number]
  | selectId number => [.text number]
  | selectFacilityTypes id => [.ofKey id]
  | deleteForwarding id kind start => [.ofKey id, .ofByte kind, .ofByte start]
  | insert r => r.cells

/-- Why the values cannot be handed over. -/
def fault? (c : Command) : Option DatabaseError := c.cells.findSome? Cell.fault?

def writes (c : Command) : Bool := c.statement.writes

end Command

/-- The rows that a statement finds, or the number of those that it changes. -/
structure Answer where
  rows : List (List Cell)
  changed : Nat
  deriving DecidableEq

namespace Answer

def none : Answer := ⟨[], 0⟩

def found (rows : List (List Cell)) : Answer := ⟨rows, 0⟩

/-- The key in the first cell of the first row. -/
def key? (a : Answer) : Option UInt64 := do
  let row ← a.rows.head?
  let cell ← row.head?
  cell.key?

end Answer

namespace Tables

/-- The numbers that active facilities forward to at `start` and beyond `stop`. -/
def destinations (t : Tables) (id : UInt64) (kind start stop : UInt8) : List String :=
  (t.facilities.filter fun r => r.owner == id && r.kind == kind && r.active).flatMap fun _ =>
    (t.forwardings.filter fun r =>
      r.owner == id && r.kind == kind && r.start ≤ start && stop < r.stop).map (·.target)

def setBit (t : Tables) (id : UInt64) (bit : Bool) : Tables :=
  { t with subscribers := t.subscribers.map fun r =>
      if r.id = id then { r with bits := r.bits.set 0 bit } else r }

def setDataA (t : Tables) (id : UInt64) (kind dataA : UInt8) : Tables :=
  { t with facilities := t.facilities.map fun r =>
      if r.owner = id ∧ r.kind = kind then { r with dataA } else r }

def setLocation (t : Tables) (number : String) (vlrLocation : UInt32) : Tables :=
  { t with subscribers := t.subscribers.map fun r =>
      if r.number = number then { r with vlrLocation } else r }

def removeForwarding (t : Tables) (owner : UInt64) (kind start : UInt8) : Tables :=
  { t with forwardings := t.forwardings.filter fun r =>
      !(r.owner == owner && r.kind == kind && r.start == start) }

def withId (t : Tables) (id : UInt64) : List Record :=
  (t.subscribers.filter (·.id == id)).map .subscriber

def withNumber (t : Tables) (number : String) : List Record :=
  (t.subscribers.filter (·.number == number)).map .subscriber

def withKind (t : Tables) (owner : UInt64) (kind : UInt8) : List Record :=
  (t.facilities.filter fun r => r.owner == owner && r.kind == kind).map .facility

/-- Tables that some rows were written into. None may have become too long. -/
def written (t : Tables) (rows : List Record) : Except DatabaseError (Answer × Tables) :=
  if rows.any (maxLength < ·.length) then .error .tooBig else .ok (⟨[], rows.length⟩, t)

/-- Runs a command: its answer, and the tables after it. -/
def perform (t : Tables) (foreignKeys : Bool) : Command → Except DatabaseError (Answer × Tables)
  | .selectSubscriber id =>
    .ok (.found ((t.subscribers.filter (·.id == id)).map Subscriber.cells), t)
  | .selectDestination id kind start stop =>
    .ok (.found ((t.destinations id kind start stop).map ([.text ·])), t)
  | .selectAccessData id kind =>
    .ok (.found ((t.accessInfos.filter fun r => r.owner == id && r.kind == kind).map fun r =>
      [.ofByte r.data1, .ofByte r.data2, .text r.data3, .text r.data4]), t)
  | .updateBit bit id =>
    let after := t.setBit id bit
    after.written (after.withId id)
  | .updateFacility dataA id kind =>
    let after := t.setDataA id kind dataA
    after.written (after.withKind id kind)
  | .updateLocation vlrLocation number =>
    let after := t.setLocation number vlrLocation
    after.written (after.withNumber number)
  | .selectId number =>
    .ok (.found ((t.subscribers.filter (·.number == number)).map ([.ofKey ·.id])), t)
  | .selectFacilityTypes id =>
    .ok (.found ((t.facilities.filter (·.owner == id)).map ([.ofByte ·.kind])), t)
  | .deleteForwarding id kind start =>
    let gone := t.forwardings.countP fun r => r.owner == id && r.kind == kind && r.start == start
    .ok (⟨[], gone⟩, t.removeForwarding id kind start)
  | .insert r =>
    match t.refusal? foreignKeys r with
    | some e => .error e
    | none => .ok (⟨[], 1⟩, t.add r)

end Tables

end StoreBench.Telecom
