import StoreBench.Database
import StoreBench.Telecom.Row

/-!
All tables of a database under their names, with those that it keeps about itself: a list of its
tables and indexes, and the statistics of an analysis.
-/
namespace StoreBench

structure RelationColumn where
  name : String
  /-- Whether its values are compared as texts. -/
  isText : Bool
  deriving DecidableEq

structure Relation where
  name : String
  columns : List RelationColumn
  rows : List (List Cell)
  deriving DecidableEq

namespace Database

/-- The most keys of an index that an analysis takes as samples. -/
def maxSamples : Nat := 24

def telecomRelation (d : Database) (t : Telecom.Table) : Option Relation :=
  if d.telecom.has t then
    some {
      name := t.name
      columns := t.columns.map fun c => ⟨c.name, c.type = .text⟩
      rows := (d.telecom.tables.recordsOf t).map Telecom.Record.cells }
  else none

def blobRelation (d : Database) : Option Relation :=
  d.blob.cells.map fun cells =>
    ⟨Blob.tableName, [⟨Blob.columnName, false⟩], cells.map fun c => [c]⟩

def starRelation (t : StarSchema.Table) : Relation :=
  ⟨t.name, [⟨StarSchema.Database.columnName, false⟩], t.values.map fun v => [.integer v]⟩

def userRelations (d : Database) : List Relation :=
  Telecom.Table.all.filterMap d.telecomRelation ++ d.blobRelation.toList ++
    d.star.tables.map starRelation

/-- Columns whose values are not compared as texts. -/
def plainColumns (names : List String) : List RelationColumn := names.map (⟨·, false⟩)

def statisticRelations (d : Database) : List Relation :=
  match d.statistics with
  | none => []
  | some found =>
    [⟨"sqlite_stat1", plainColumns ["tbl", "idx", "stat"],
        found.map fun s => [.text s.table, .null, .null]⟩,
      ⟨"sqlite_stat4", plainColumns ["tbl", "idx", "neq", "nlt", "ndlt", "sample"],
        found.flatMap fun s =>
          List.replicate s.samples [.text s.table, .null, .null, .null, .null, .null]⟩]

/-- Whether a name is that of a table with an index: those of the telecom workload have one each. -/
def isIndexed (name : String) : Bool := Telecom.Table.all.any fun t => t.name == name

def masterName : String := "sqlite_master"

/-- The names under which the list of tables and indexes can be read. -/
def masterNames : List String := [masterName, "sqlite_schema"]

def masterColumns : List RelationColumn :=
  [⟨"type", true⟩, ⟨"name", true⟩, ⟨"tbl_name", true⟩, ⟨"rootpage", false⟩, ⟨"sql", true⟩]

def masterRow (type name table : String) : List Cell :=
  [.text type, .text name, .text table, .null, .null]

def masterRows (d : Database) : List (List Cell) :=
  (d.userRelations ++ d.statisticRelations).flatMap fun r =>
    masterRow "table" r.name r.name ::
      if isIndexed r.name then [masterRow "index" ("sqlite_autoindex_" ++ r.name ++ "_1") r.name]
      else []

def isMaster (name : String) : Bool := masterNames.any (Text.sameUpToCase name)

def relation? (d : Database) (name : String) : Option Relation :=
  if isMaster name then some ⟨masterName, masterColumns, d.masterRows⟩
  else (d.userRelations ++ d.statisticRelations).find? fun r => Text.sameUpToCase r.name name

/-- The table with a name, or the error of a statement that names it if there is none. -/
def relation (d : Database) (name : String) : Except DatabaseError Relation :=
  match d.relation? name with
  | some r => .ok r
  | none => .error (.noSuchTable name)

def insert (d : Database) (name : String) (value : Int) : Except DatabaseError Database := do
  let r ← d.relation name
  if isMaster name then throw (.protectedTable r.name)
  if r.columns.length ≠ 1 then throw (.wrongValueCount name r.columns.length 1)
  if d.blob.cells.isSome && Text.sameUpToCase Blob.tableName name then
    return { d with blob := ← d.blob.add (.integer value) }
  else return { d with star := d.star.append name value }

/-- What the names begin with that a database keeps for itself. -/
def reservedStart : String := "sqlite_"

def createStar (d : Database) (name : String) (n : Nat) : Except DatabaseError Database :=
  if Text.sameUpToCase (String.ofList (name.toList.take reservedStart.length)) reservedStart then
    .error (.reservedName name)
  else if (d.relation? name).isSome then .error (.tableExists name)
  else .ok { d with star := d.star.create name n }

def analyse (d : Database) : Database :=
  let found := (d.userRelations.filter (!·.rows.isEmpty)).map fun r =>
    Statistic.mk r.name (if isIndexed r.name then min r.rows.length maxSamples else 0)
  { d with statistics := some found }

/-- The tables of other workloads that have names of telecom tables. -/
def telecomImpostors (d : Database) : List Telecom.Table :=
  Telecom.Table.all.filter fun t => (d.star.table? t.name).isSome

/-- Whether a table of another workload has the name of the blob table. -/
def hasBlobImpostor (d : Database) : Bool := (d.star.table? Blob.tableName).isSome

end Database

end StoreBench
