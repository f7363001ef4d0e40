import StoreBench.Telecom.Command

/-!
What a connection does on its way through a transaction: it begins and commits it, converts ids,
prepares statements, hands values to them and runs them.
-/
namespace StoreBench.Telecom

/-- The greatest integer that a database holds. -/
def maxInteger : Nat := 0x7fffffffffffffff

/-- Ids are words of 64 bits, of which a database takes those that are integers with a sign. -/
def fits (id : UInt64) : Bool := id.toNat ≤ maxInteger

/-- The failure to convert an id that does not fit. -/
def unfit? (id : UInt64) : Option Failure :=
  if fits id then none else some ((Failure.ofCause .tooLarge).during (.convertingKey id))

inductive Action where
  /-- Takes the right to write, and begins a transaction. -/
  | begin
  | commit
  | convert (id : UInt64)
  | prepare (q : Statement)
  | bind (c : Command)
  | run (c : Command)
  deriving DecidableEq

/-- Tables as a connection sees them, and those that it goes back to unless it commits. -/
structure Draft where
  tables : Tables
  saved : Option Tables
  deriving DecidableEq

namespace Draft

def ofTables (t : Tables) : Draft := ⟨t, none⟩

def begin (d : Draft) : Draft := { d with saved := some d.tables }

def commit (d : Draft) : Draft := { d with saved := none }

/-- What is left for others. A transaction that was not committed is rolled back. -/
def leave (d : Draft) : Tables := d.saved.getD d.tables

/-- Performs an action that nothing keeps it from. -/
def perform (foreignKeys : Bool) (d : Draft) : Action → Except Failure (Answer × Draft)
  | .begin => .ok (.none, d.begin)
  | .commit => .ok (.none, d.commit)
  | .convert id =>
    match unfit? id with
    | some f => .error f
    | none => .ok (.none, d)
  | .prepare _ => .ok (.none, d)
  | .bind c =>
    match c.fault? with
    | some e => .error (.ofDatabase e)
    | none => .ok (.none, d)
  | .run c =>
    match d.tables.perform foreignKeys c with
    | .error e => .error (.ofDatabase e)
    | .ok (answer, tables) => .ok (answer, { d with tables })

end Draft

end StoreBench.Telecom
