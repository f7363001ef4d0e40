import StoreBench.Telecom.Plan

/-! A database whose tables may be absent: making and dropping them. -/
namespace StoreBench.Telecom

structure Store where
  subscribers : Option (List Subscriber)
  accessInfos : Option (List AccessInfo)
  facilities : Option (List Facility)
  forwardings : Option (List Forwarding)
  deriving DecidableEq

namespace Store

def bare : Store := ⟨none, none, none, none⟩

def ofTables (t : Tables) : Store :=
  ⟨some t.subscribers, some t.accessInfos, some t.facilities, some t.forwardings⟩

/-- The rows; a table that is absent has none. -/
def tables (s : Store) : Tables :=
  ⟨s.subscribers.getD [], s.accessInfos.getD [], s.facilities.getD [], s.forwardings.getD []⟩

@[simp] theorem tables_ofTables (t : Tables) : (ofTables t).tables = t := rfl

def withTables (s : Store) (t : Tables) : Store :=
  ⟨s.subscribers.map fun _ => t.subscribers, s.accessInfos.map fun _ => t.accessInfos,
    s.facilities.map fun _ => t.facilities, s.forwardings.map fun _ => t.forwardings⟩

@[simp] theorem withTables_ofTables (t u : Tables) : (ofTables t).withTables u = ofTables u := rfl

def has (s : Store) : Table → Bool
  | .subscriber => s.subscribers.isSome
  | .accessInfo => s.accessInfos.isSome
  | .specialFacility => s.facilities.isSome
  | .callForwarding => s.forwardings.isSome

@[simp] theorem has_ofTables (t : Tables) (table : Table) : (ofTables t).has table = true := by
  cases table <;> rfl

/-- Keeps statements from being prepared whose tables are absent. -/
def gate (s : Store) (foreignKeys : Bool) : Gate Unit := fun _ x _ =>
  match x with
  | .prepare q => (match q.lack? s.has foreignKeys with
    | some e => .error (.ofDatabase e)
    | none => .ok (), ())
  | _ => (.ok (), ())

/-- Whether rows that are there would lose their parents if a table went. -/
def isParentInUse (s : Store) (table : Table) : Bool :=
  s.tables.records.any fun r => r.table.parent? = some table && s.tables.hasParent r

def without (s : Store) : Table → Store
  | .subscriber => { s with subscribers := none }
  | .accessInfo => { s with accessInfos := none }
  | .specialFacility => { s with facilities := none }
  | .callForwarding => { s with forwardings := none }

def withEmpty (s : Store) : Table → Store
  | .subscriber => { s with subscribers := some [] }
  | .accessInfo => { s with accessInfos := some [] }
  | .specialFacility => { s with facilities := some [] }
  | .callForwarding => { s with forwardings := some [] }

def drop (s : Store) (foreignKeys : Bool) (table : Table) : Except DatabaseError Store :=
  if foreignKeys && s.isParentInUse table then .error .orphan else .ok (s.without table)

/-- Makes all tables anew: they are dropped, children first, and created, parents first. -/
def recreate (s : Store) (foreignKeys : Bool) : Except DatabaseError Store := do
  let dropped ← Table.all.reverse.foldlM (fun s table => s.drop foreignKeys table) s
  return Table.all.foldl withEmpty dropped

end Store

end StoreBench.Telecom
