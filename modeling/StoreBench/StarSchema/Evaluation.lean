import StoreBench.Database.Catalog
import StoreBench.StarSchema.Statement

/-! What statements do with the tables of a database. -/
namespace StoreBench.StarSchema

/-- All choices of one row from each list, with the cells side by side. -/
def choices : List (List (List Cell)) → List (List Cell)
  | [] => [[]]
  | [] :: _ => []
  | rows :: rest =>
    let tails := choices rest
    rows.flatMap fun row => tails.map (row ++ ·)

/-- The tables that a query reads. -/
abbrev Scope := List Relation

namespace Scope

def columns (s : Scope) : List RelationColumn := s.flatMap Relation.columns

def rows (s : Scope) : List (List Cell) := choices (s.map Relation.rows)

/-- The first table that is named more than once. -/
def repeated? (s : Scope) : Option Relation :=
  s.find? fun r => 1 < s.countP (·.name == r.name)

/-- The name by which the first column of a table is told from those of other tables. -/
def longName (r : Relation) : String :=
  ".".intercalate ["main", r.name, (r.columns.head?.map RelationColumn.name).getD ""]

def maxNamed : Nat := 200

def maxJoined : Nat := 64

end Scope

/-- Whether a cell lies above a number. Every text and every blob does, unless the column is one of
texts, where the number is taken as a text. -/
def exceeds (bound : Int) (isText : Bool) : Cell → Bool
  | .null => false
  | .integer value => bound < value
  | .text value => !isText || toString bound < value
  | .blob _ => true

/-- What a name stands for: a cell of each row, which is to be compared as a text or not. -/
structure Source where
  cell : List Cell → Cell
  isText : Bool

namespace ColumnName

/-- The place of the name, in the text of its statement. -/
def place (sql : String) (c : ColumnName) : Option Place := some ⟨sql, c.offset⟩

/-- What the name stands for where there is no such column. -/
def withoutColumn (sql : String) (c : ColumnName) : Except DatabaseError Cell :=
  if c.isQuoted then .ok (.text c.name) else .error (.noSuchColumn c.name (c.place sql))

def resolve (sql : String) (s : Scope) (c : ColumnName) : Except DatabaseError Source :=
  match s.columns.zipIdx.filter fun (column, _) => Text.sameUpToCase column.name c.name with
  | [] => (c.withoutColumn sql).map fun cell => ⟨fun _ => cell, false⟩
  | [(column, i)] => .ok ⟨fun row => row.getD i .null, column.isText⟩
  | _ => .error (.ambiguousColumn c.name (c.place sql))

end ColumnName

namespace Term

def resolve (sql : String) (s : Scope) : Term → Except DatabaseError (List Cell → Cell)
  | column c => (c.resolve sql s).map Source.cell
  | literal cell => .ok fun _ => cell

end Term

/-- What becomes of the rows of a query. All cells can be asked for only of tables, each of which is
named once. -/
def Wanted.result (sql : String) (s : Scope) :
    Wanted → Except DatabaseError (List (List Cell) → List (List Cell))
  | all offset =>
    if s.isEmpty then .error .noTables
    else
      match s.repeated? with
      | some r => .error (.ambiguousColumn (Scope.longName r) (some ⟨sql, offset⟩))
      | none => .ok id
  | count => .ok fun rows => [[.integer rows.length]]
  | term t => do
    let cell ← t.resolve sql s
    return fun rows => rows.map fun row => [cell row]

/-- Whether a row meets a condition, if there is one. -/
def Scope.meets (sql : String) (s : Scope) :
    Option Condition → Except DatabaseError (List Cell → Bool)
  | none => .ok fun _ => true
  | some c => do
    let source ← c.column.resolve sql s
    return fun row => exceeds c.bound source.isText (source.cell row)

def Scope.query (sql : String) (s : Scope) (wanted : Wanted) (condition : Option Condition) :
    Except DatabaseError (List (List Cell)) := do
  let result ← wanted.result sql s
  let meets ← s.meets sql condition
  if maxJoined < s.length then throw (.tooManyJoined maxJoined)
  return result (s.rows.filter meets)

/-- The result rows of a statement, and the database after it; `sql` is its text. -/
def Statement.run (sql : String) (d : StoreBench.Database) :
    Statement → Except DatabaseError (List (List Cell) × StoreBench.Database)
  | query wanted tables condition => do
    if Scope.maxNamed < tables.length then throw (.tooManyNamed Scope.maxNamed)
    let scope : Scope ← tables.mapM d.relation
    return (← scope.query sql wanted condition, d)
  | insert table value => return ([], ← d.insert table value)

end StoreBench.StarSchema
