import StoreBench.Database
import StoreBench.Decimal.Natural
import StoreBench.Telecom.Row
import StoreBench.Text.Hex

/-!
Databases as text, to be kept in a file: a line for each table, and behind it a line for each of
its rows. Texts and blobs are written as the hexadecimal digits of their bytes, so that blanks and
line ends stand between cells and rows only.
-/
namespace StoreBench.Snapshot

def writeText (s : String) : String := String.ofList (Text.writeHex s.toUTF8.toList)

def readText? (cs : List Char) : Option String :=
  (Text.readHex? cs).bind fun bytes => String.fromUTF8? ⟨bytes.toArray⟩

/-- A cell: a letter for its kind, and its value. -/
def writeCell : Cell → String
  | .null => "n"
  | .integer value => "i" ++ toString value
  | .text value => "t" ++ writeText value
  | .blob bytes => "b" ++ String.ofList (Text.writeHex bytes)

def readCell? (s : String) : Option Cell :=
  match s.toList with
  | ['n'] => some .null
  | 'i' :: '-' :: cs => (Decimal.value? cs).map fun n => .integer (-n)
  | 'i' :: cs => (Decimal.value? cs).map fun n => .integer n
  | 't' :: cs => (readText? cs).map .text
  | 'b' :: cs => (Text.readHex? cs).map .blob
  | _ => none

structure Table where
  workload : String
  name : String
  rows : List (List Cell)

def writeTable (t : Table) : List String :=
  ("table " ++ t.workload ++ " " ++ writeText t.name) ::
    t.rows.map fun row => " ".intercalate (row.map writeCell)

/-- The rows on some lines, up to the next table, and the lines from there on. -/
def readRows? : List String → Option (List (List Cell) × List String)
  | [] => some ([], [])
  | line :: rest =>
    if line.startsWith "table " then some ([], line :: rest)
    else do
      let row ← (line.splitOn " ").mapM readCell?
      let (rows, left) ← readRows? rest
      return (row :: rows, left)

/-- The tables on some lines; there are at most `fuel` of them. -/
def readTables? : Nat → List String → Option (List Table)
  | _, [] => some []
  | 0, _ => none
  | fuel + 1, line :: rest =>
    match line.splitOn " " with
    | ["table", workload, name] => do
      let (rows, left) ← readRows? rest
      return ⟨workload, ← readText? name.toList, rows⟩ :: (← readTables? fuel left)
    | _ => none

def heading : String := "StoreBench database"

open Telecom in
def telecomTables (s : Store) : List Table :=
  let table (t : Telecom.Table) (rows : Option (List Record)) : List Table :=
    rows.toList.map fun rs => ⟨"telecom", t.name, rs.map Record.cells⟩
  table .subscriber (s.subscribers.map (·.map .subscriber)) ++
    table .accessInfo (s.accessInfos.map (·.map .accessInfo)) ++
    table .specialFacility (s.facilities.map (·.map .facility)) ++
    table .callForwarding (s.forwardings.map (·.map .forwarding))

/-- Says that a database keeps a log, as a table without rows. -/
def logTable : Table := ⟨"log", "", []⟩

def statisticTable (found : List Statistic) : Table :=
  ⟨"statistics", "", found.map fun s => [.text s.table, .integer s.samples]⟩

def tables (d : Database) : List Table :=
  telecomTables d.telecom ++
    d.blob.cells.toList.map (fun cells => ⟨"blob", Blob.tableName, cells.map fun c => [c]⟩) ++
    d.star.tables.map (fun t => ⟨"star", t.name, t.values.map fun v => [.integer v]⟩) ++
    d.statistics.toList.map statisticTable ++ (if d.keepsLog then [logTable] else [])

def write (d : Database) : String :=
  "\n".intercalate (heading :: (tables d).flatMap writeTable) ++ "\n"

def addTelecom? (s : Telecom.Store) (t : Table) : Option Telecom.Store := do
  let table ← Telecom.Table.all.find? (·.name == t.name)
  let records ← t.rows.mapM (Telecom.Record.ofCells? table)
  match table with
  | .subscriber => return { s with subscribers := records.filterMap Telecom.Record.subscriber? }
  | .accessInfo => return { s with accessInfos := records.filterMap Telecom.Record.accessInfo? }
  | .specialFacility => return { s with facilities := records.filterMap Telecom.Record.facility? }
  | .callForwarding => return { s with forwardings := records.filterMap Telecom.Record.forwarding? }

def value? : List Cell → Option Int
  | [.integer value] => some value
  | _ => none

def statistic? : List Cell → Option Statistic
  | [.text table, .integer samples] => some ⟨table, samples.toNat⟩
  | _ => none

def addTable? (d : Database) (t : Table) : Option Database :=
  match t.workload with
  | "telecom" => do return { d with telecom := ← addTelecom? d.telecom t }
  | "blob" => do return { d with blob := ⟨← t.rows.mapM List.head?⟩ }
  | "star" => do return { d with star := ⟨d.star.tables ++ [⟨t.name, ← t.rows.mapM value?⟩]⟩ }
  | "log" => some { d with keepsLog := true }
  | "statistics" => do return { d with statistics := some (← t.rows.mapM statistic?) }
  | _ => none

/-- The database that a text describes, if it is a snapshot. -/
def read? (text : String) : Option Database :=
  match (text.splitOn "\n").filter (· != "") with
  | [] => none
  | first :: rest =>
    if first == heading then do
      (← readTables? rest.length rest).foldlM addTable? .bare
    else none

end StoreBench.Snapshot
