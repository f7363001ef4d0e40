import StoreBench.Connection.Barrier
import StoreBench.Telecom.Transaction

/-!
What transactions meet in a database besides the tables. A table with the name of one of the four
may be another workload's: it has a single column, which no statement names, so that no statement
on it can be compiled. And a barrier may keep the connection from writing.
-/
namespace StoreBench.Telecom

namespace Statement

/-- The number of characters before a word in a text. -/
def offsetOf (word text : String) : Nat := ((text.splitOn word).headD "").length

def missing (column : String) (q : Statement) : DatabaseError :=
  .noSuchColumn column (some ⟨q.text, offsetOf column q.text⟩)

/-- The error of a statement on an impostor. The columns that an update sets are missed without
telling the place. -/
def misfit : Statement → DatabaseError
  | selectSubscriber => selectSubscriber.missing "s_id"
  | selectDestination => selectDestination.missing "cf.numberx"
  | selectAccessData => selectAccessData.missing "data1"
  | updateBit => .noSuchColumn "bit_1" none
  | updateFacility => .noSuchColumn "data_a" none
  | updateLocation => .noSuchColumn "vlr_location" none
  | selectId => selectId.missing "s_id"
  | selectFacilityTypes => selectFacilityTypes.missing "sf_type"
  | deleteForwarding => deleteForwarding.missing "s_id"
  | insert t => .wrongValueCount t.name 1 t.columns.length

end Statement

def Command.changes (t : Tables) (foreignKeys : Bool) (c : Command) : Bool :=
  match t.perform foreignKeys c with
  | .ok (answer, _) => 0 < answer.changed
  | .error _ => false

structure Circumstance where
  foreignKeys : Bool
  impostors : List Table
  barrier : Option Connection.Barrier
  /-- Whether nothing has ever been written into the database. -/
  isBlank : Bool
  deriving DecidableEq

namespace Circumstance

def misfit? (c : Circumstance) (has : Table → Bool) (q : Statement) : Option DatabaseError :=
  match q.lack? (fun t => has t || c.impostors.contains t) c.foreignKeys with
  | some e => some e
  | none => if q.tables.any c.impostors.contains then some q.misfit else none

/-- What keeps a connection from an action. The right to write a database that is blank is taken by
writing its first page. -/
def obstacle? (c : Circumstance) (has : Table → Bool) (t : Tables) : Action → Option DatabaseError
  | .begin =>
    if c.isBlank && c.barrier = some .noJournal then some Connection.Barrier.noJournal.error
    else none
  | .prepare q => c.misfit? has q
  | .run command =>
    c.barrier.bind fun b =>
      if command.writes && b.stops (command.changes t c.foreignKeys) then some b.error else none
  | _ => none

def gate (c : Circumstance) (s : Store) : Gate Unit := fun t x _ =>
  (match c.obstacle? s.has t x with
  | some e => .error (.ofDatabase e)
  | none => .ok (), ())

/-- Nothing but tables that are absent is in the way where there are neither impostors nor a
barrier. -/
theorem gate_plain (s : Store) (foreignKeys isBlank : Bool) :
    gate ⟨foreignKeys, [], none, isBlank⟩ s = s.gate foreignKeys := by
  funext t x _
  cases x with
  | prepare q =>
    cases hl : q.lack? s.has foreignKeys <;> simp [gate, obstacle?, misfit?, Store.gate, hl]
  | begin | commit | convert | bind | run => simp [gate, obstacle?, Store.gate]

end Circumstance

end StoreBench.Telecom
