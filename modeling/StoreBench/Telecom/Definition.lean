import StoreBench.Telecom.Domain

/-!
The definitions of the four tables: their columns and keys, and the statements that make them.
-/
namespace StoreBench.Telecom

inductive ColumnType where
  | integer
  | text
  deriving DecidableEq

def ColumnType.name : ColumnType → String
  | .integer => "INTEGER"
  | .text => "TEXT"

structure Column where
  name : String
  type : ColumnType
  deriving DecidableEq

def numberedColumns (stem : String) : List Column :=
  (List.range' 1 10).map fun i => ⟨s!"{stem}_{i}", .integer⟩

def Table.columns : Table → List Column
  | .subscriber =>
    [⟨"s_id", .integer⟩, ⟨"sub_nbr", .text⟩] ++ numberedColumns "bit" ++ numberedColumns "hex" ++
      numberedColumns "byte2" ++ [⟨"msc_location", .integer⟩, ⟨"vlr_location", .integer⟩]
  | .accessInfo =>
    [⟨"s_id", .integer⟩, ⟨"ai_type", .integer⟩, ⟨"data1", .integer⟩, ⟨"data2", .integer⟩,
      ⟨"data3", .text⟩, ⟨"data4", .text⟩]
  | .specialFacility =>
    [⟨"s_id", .integer⟩, ⟨"sf_type", .integer⟩, ⟨"is_active", .integer⟩,
      ⟨"error_cntrl", .integer⟩, ⟨"data_a", .integer⟩, ⟨"data_b", .text⟩]
  | .callForwarding =>
    [⟨"s_id", .integer⟩, ⟨"sf_type", .integer⟩, ⟨"start_time", .integer⟩,
      ⟨"end_time", .integer⟩, ⟨"numberx", .text⟩]

def Table.key : Table → List String
  | .subscriber => ["s_id"]
  | .accessInfo => ["s_id", "ai_type"]
  | .specialFacility => ["s_id", "sf_type"]
  | .callForwarding => ["s_id", "sf_type", "start_time"]

def Table.column (t : Table) (name : String) : String := t.name ++ "." ++ name

def Table.keyColumns (t : Table) : List String := t.key.map t.column

def Table.parent? : Table → Option Table
  | .subscriber => none
  | .accessInfo => some .subscriber
  | .specialFacility => some .subscriber
  | .callForwarding => some .specialFacility

/-- A further column whose values differ in all rows. -/
def Table.uniqueColumn? : Table → Option String
  | .subscriber => some "sub_nbr"
  | _ => none

def commas (names : List String) : String := ", ".intercalate names

def Table.columnClause (t : Table) (c : Column) : String :=
  c.name ++ " " ++ c.type.name ++ if t.uniqueColumn? = some c.name then " UNIQUE" else ""

def Table.parentClause (t : Table) : List String :=
  t.parent?.toList.map fun p =>
    "FOREIGN KEY (" ++ commas p.key ++ ") REFERENCES " ++ p.name ++ " (" ++ commas p.key ++ ")"

def Table.createStatement (t : Table) : String :=
  "CREATE TABLE " ++ t.name ++ " (" ++
    commas (t.columns.map t.columnClause ++ ["PRIMARY KEY (" ++ commas t.key ++ ")"] ++
      t.parentClause) ++ ")"

def Table.dropStatement (t : Table) : String := "DROP TABLE IF EXISTS " ++ t.name

def createStatements : List String :=
  Table.all.reverse.map Table.dropStatement ++ Table.all.map Table.createStatement

end StoreBench.Telecom
