import StoreBench.Connection.Barrier
import StoreBench.Log
import StoreBench.StarSchema.Evaluation

/-!
The queries of the star schema workload. All query files are read before the first query runs, and
the first query that fails is the last one.
-/
namespace StoreBench.StarSchema

def queryNames : List String :=
  ["q1.1", "q1.2", "q1.3", "q2.1", "q2.2", "q2.3", "q3.1", "q3.2", "q3.3", "q3.4", "q4.1", "q4.2",
    "q4.3"]

/-- The tables that are read once before the first query. -/
def tableNames : List String := ["lineorder", "part", "supplier", "customer", "date"]

/-- A query that has run: its name and the number of its result rows, which is a word. -/
structure Answer where
  name : String
  rows : UInt64
  deriving DecidableEq

/-- What runs the statements of those who have a database. It is given the text of a statement,
without blanks around it and semicolons at its end. It tells the rows of the statement, once there
is no further one, or why there was an end before, and it leaves a database. -/
class Engine (σ : Type) where
  run : String → σ → Except Failure (List (List Cell)) × σ

/-- The rows of the statement in a text, and the database after it. -/
def runText (sql : String) (d : StoreBench.Database) :
    Except Failure (List (List Cell)) × StoreBench.Database :=
  match Statement.parse sql with
  | .error e => (.error (.ofDatabase e), d)
  | .ok statement =>
    match statement.run sql d with
    | .error e => (.error (.ofDatabase e), d)
    | .ok (rows, d) => (.ok rows, d)

instance : Engine StoreBench.Database := ⟨runText⟩

/-- What has been recorded so far, and the database. -/
structure SessionOn (σ : Type) where
  log : List Event
  database : σ
  deriving DecidableEq

namespace SessionOn

variable {σ : Type} [Engine σ]

def record (s : SessionOn σ) (e : Event) : SessionOn σ := { s with log := s.log ++ [e] }

/-- Runs the statement in a text to its end and counts its rows. -/
def drain (s : SessionOn σ) (text : String) : Except Failure UInt64 × SessionOn σ :=
  let (result, database) := Engine.run (Statement.trimmed text) s.database
  (result.map fun rows => .ofNat rows.length, { s with database })

/-- Reads a table from its first to its last row. -/
def scan (s : SessionOn σ) (table : String) : Except Failure Unit × SessionOn σ :=
  match s.drain ("SELECT * FROM \"" ++ table ++ "\"") with
  | (.error f, s) => (.error (f.during (.scanning table)), s)
  | (.ok rows, s) => (.ok (), s.record (.scanned table rows))

def scanAll : List String → SessionOn σ → Except Failure Unit × SessionOn σ
  | [], s => (.ok (), s)
  | table :: rest, s =>
    match s.scan table with
    | (.error f, s) => (.error f, s)
    | (.ok (), s) => scanAll rest s

def query (s : SessionOn σ) (name text : String) : Except Failure Answer × SessionOn σ :=
  match s.drain text with
  | (.error f, s) => (.error (f.during (.executing name)), s)
  | (.ok rows, s) => (.ok ⟨name, rows⟩, s.record (.queried name rows))

def queryAll : List (String × String) → SessionOn σ → Except Failure (List Answer) × SessionOn σ
  | [], s => (.ok [], s)
  | (name, text) :: rest, s =>
    match s.query name text with
    | (.error f, s) => (.error f, s)
    | (.ok answer, s) =>
      let (result, s) := queryAll rest s
      (result.map (answer :: ·), s)

end SessionOn

def filePath (directory file : String) : String :=
  if directory.isEmpty || directory.toList.getLast? == some '/' then directory ++ file
  else directory ++ "/" ++ file

def queryPath (directory name : String) : String := filePath directory (name ++ ".sql")

/-- The texts of some queries; `read` says what a file holds or why it cannot be read. -/
def readQueries (read : String → Except Cause String) (directory : String) (names : List String) :
    Except Failure (List (String × String)) :=
  names.mapM fun name =>
    let path := queryPath directory name
    match read path with
    | .ok text => .ok (name, text)
    | .error cause => .error ((Failure.ofCause cause).during (.reading path))

/-- Reads all queries of a directory, then runs them. -/
def SessionOn.runQueries {σ : Type} [Engine σ] (s : SessionOn σ)
    (read : String → Except Cause String) (directory : String) :
    Except Failure (List Answer) × SessionOn σ :=
  match readQueries read directory queryNames with
  | .error f => (.error f, s)
  | .ok queries => SessionOn.queryAll queries s

abbrev Session := SessionOn StoreBench.Database

namespace Session

def start (database : StoreBench.Database) : Session := ⟨[], database⟩

/-- Analyses the database, for which it has to be written. -/
def analyse (barrier : Option Connection.Barrier) (s : Session) : Except Failure Session :=
  match barrier with
  | some b => .error (b.failure.during .analyzing)
  | none => .ok { s with database := s.database.analyse }

/-- Analyses the database and reads all tables of the workload. -/
def prepare (barrier : Option Connection.Barrier) (s : Session) : Except Failure Unit × Session :=
  match s.analyse barrier with
  | .error f => (.error f, s)
  | .ok s =>
    match SessionOn.scanAll tableNames s with
    | (.error f, s) => (.error f, s)
    | (.ok (), s) => (.ok (), s.record .prepared)

def prepareAndRun (s : Session) (barrier : Option Connection.Barrier)
    (read : String → Except Cause String) (directory : String) :
    Except Failure (List Answer) × Session :=
  match s.prepare barrier with
  | (.error f, s) => (.error f, s)
  | (.ok (), s) => s.runQueries read directory

end Session

end StoreBench.StarSchema
