import StoreBench.Failure
import StoreBench.Telecom.Definition

/-!
The statements that transactions and loads are made of. Before a statement can run it is compiled,
for which the tables have to be there that it looks at.
-/
namespace StoreBench.Telecom

inductive Statement where
  | selectSubscriber
  | selectDestination
  | selectAccessData
  | updateBit
  | updateFacility
  | updateLocation
  | selectId
  | selectFacilityTypes
  | deleteForwarding
  | insert (table : Table)
  deriving DecidableEq

namespace Statement

/-- The places for the values of a new row. Those of a subscriber have no numbers. -/
def places (t : Table) : List String :=
  if t = .subscriber then t.columns.map fun _ => "?"
  else (List.range' 1 t.columns.length).map fun i => s!"?{i}"

def text : Statement → String
  | selectSubscriber => "SELECT * FROM subscriber WHERE s_id = ?1"
  | selectDestination =>
    "SELECT cf.numberx FROM special_facility AS sf, call_forwarding AS cf " ++
      "WHERE sf.s_id = ?1 AND sf.sf_type = ?2 AND sf.is_active = 1 " ++
      "AND cf.s_id = sf.s_id AND cf.sf_type = sf.sf_type " ++
      "AND cf.start_time <= ?3 AND ?4 < cf.end_time"
  | selectAccessData =>
    "SELECT data1, data2, data3, data4 FROM access_info WHERE s_id = ?1 AND ai_type = ?2"
  | updateBit => "UPDATE subscriber SET bit_1 = ?1 WHERE s_id = ?2"
  | updateFacility => "UPDATE special_facility SET data_a = ?1 WHERE s_id = ?2 AND sf_type = ?3"
  | updateLocation => "UPDATE subscriber SET vlr_location = ?1 WHERE sub_nbr = ?2"
  | selectId => "SELECT s_id FROM subscriber WHERE sub_nbr = ?1"
  | selectFacilityTypes => "SELECT sf_type FROM special_facility WHERE s_id = ?1"
  | deleteForwarding =>
    "DELETE FROM call_forwarding WHERE s_id = ?1 AND sf_type = ?2 AND start_time = ?3"
  | insert t => "INSERT INTO " ++ t.name ++ " VALUES (" ++ commas (places t) ++ ")"

def tables : Statement → List Table
  | selectSubscriber => [.subscriber]
  | selectDestination => [.specialFacility, .callForwarding]
  | selectAccessData => [.accessInfo]
  | updateBit => [.subscriber]
  | updateFacility => [.specialFacility]
  | updateLocation => [.subscriber]
  | selectId => [.subscriber]
  | selectFacilityTypes => [.specialFacility]
  | deleteForwarding => [.callForwarding]
  | insert t => [t]

def changed? : Statement → Option Table
  | deleteForwarding => some .callForwarding
  | insert t => some t
  | _ => none

def writes : Statement → Bool
  | updateBit => true
  | updateFacility => true
  | updateLocation => true
  | deleteForwarding => true
  | insert _ => true
  | _ => false

/-- The table with the parents of the rows that come or go. -/
def parent? (q : Statement) : Option Table := q.changed?.bind Table.parent?

/-- Why the statement cannot be compiled where `has` says which tables there are. Where foreign keys
are enforced it looks at parents, too, and at those last. -/
def lack? (has : Table → Bool) (foreignKeys : Bool) (q : Statement) : Option DatabaseError :=
  match q.tables.find? (!has ·) with
  | some t => some (.noSuchTable t.name)
  | none =>
    match q.parent? with
    | none => none
    | some p => if foreignKeys && !has p then some (.noSuchTable ("main." ++ p.name)) else none

/-- With all tables there, every statement can be compiled. -/
theorem lack?_eq_none {has : Table → Bool} (h : ∀ t, has t = true) (foreignKeys : Bool)
    (q : Statement) : q.lack? has foreignKeys = none := by
  have : q.tables.find? (!has ·) = none := by simp [h]
  unfold lack?
  rw [this]
  cases q.parent? <;> simp [h]

end Statement

end StoreBench.Telecom
