import StoreBench.Blob.Request
import StoreBench.Decimal.Shortest
import StoreBench.Run.Phase
import StoreBench.Telecom.Procedure

/-!
Failures: what went wrong, and what was being done at the time. A failure is shown as a chain of
messages, the outermost activity first and the root last.
-/
namespace StoreBench

structure Place where
  sql : String
  offset : Nat
  deriving DecidableEq

inductive DatabaseError where
  | noSuchTable (name : String)
  | noSuchColumn (name : String) (place : Option Place)
  | ambiguousColumn (name : String) (place : Option Place)
  | wrongValueCount (table : String) (columns values : Nat)
  | protectedTable (name : String)
  | tableExists (name : String)
  | syntaxError (token : String) (place : Place)
  | unrecognizedToken (token : String) (place : Place)
  | locked
  | readOnly
  /-- A value or a row has more bytes than it may have. -/
  | tooBig
  /-- The length of a value is not even a number for the database. -/
  | uncountable
  | cannotOpen (path : String)
  /-- A file that the database keeps beside its own cannot be opened. -/
  | cannotOpenCompanion
  /-- The file cannot be locked for writing. -/
  | cannotLock
  /-- Nothing can be found out about a file. -/
  | cannotInspect
  | badAuthority (authority : String)
  | noSuchMode (parameter mode : String)
  | modeNotAllowed (mode : String)
  | noSuchSystem (name : String)
  | noDatabase
  | noStatement
  | incompleteStatement
  /-- A query asks for all cells, but names no table. -/
  | noTables
  | tooManyNamed (limit : Nat)
  | tooManyJoined (limit : Nat)
  | reservedName (name : String)
  | nestedTransaction
  | noTransaction
  | orphan
  | takenKey (columns : List String)
  | takenValue (column : String)
  deriving DecidableEq

def Place.text (p : Place) : String := s!" in {p.sql} at offset {p.offset}"

namespace DatabaseError

def message : DatabaseError → String
  | noSuchTable name => s!"no such table: {name}"
  | noSuchColumn name place => s!"no such column: {name}" ++ (place.map Place.text).getD ""
  | ambiguousColumn name place =>
      s!"ambiguous column name: {name}" ++ (place.map Place.text).getD ""
  | wrongValueCount table columns values =>
      s!"table {table} has {columns} columns but {values} values were supplied"
  | protectedTable name => s!"table {name} may not be modified"
  | tableExists name => "table \"" ++ name ++ "\" already exists"
  | syntaxError token place => "near \"" ++ token ++ "\": syntax error" ++ place.text
  | unrecognizedToken token place => "unrecognized token: \"" ++ token ++ "\"" ++ place.text
  | locked => "database is locked"
  | readOnly => "attempt to write a readonly database"
  | tooBig => "string or blob too big"
  | uncountable => "Error code 18: String or BLOB exceeds size limit"
  | cannotOpen path => s!"unable to open database file: {path}"
  | cannotOpenCompanion => "unable to open database file"
  | cannotLock => "disk I/O error"
  | cannotInspect => "disk I/O error"
  | badAuthority authority => s!"invalid uri authority: {authority}"
  | noSuchMode parameter mode => s!"no such {parameter} mode: {mode}"
  | modeNotAllowed mode => s!"access mode not allowed: {mode}"
  | noSuchSystem name => s!"no such vfs: {name}"
  | noDatabase => "file is not a database"
  | noStatement => "not an error"
  | incompleteStatement => "incomplete input"
  | noTables => "no tables specified"
  | tooManyNamed limit => s!"too many FROM clause terms, max: {limit}"
  | tooManyJoined limit => s!"at most {limit} tables in a join"
  | reservedName name => s!"object name reserved for internal use: {name}"
  | nestedTransaction => "cannot start a transaction within a transaction"
  | noTransaction => "cannot rollback - no transaction is active"
  | orphan => "FOREIGN KEY constraint failed"
  | takenKey columns => "UNIQUE constraint failed: " ++ ", ".intercalate columns
  | takenValue column => s!"UNIQUE constraint failed: {column}"

/-- The number under which the database files the error, and what it says about that number. -/
def code : DatabaseError → Nat × String
  | modeNotAllowed _ => (3, "Access permission denied")
  | locked => (5, "The database file is locked")
  | readOnly => (8, "Attempt to write a readonly database")
  | cannotOpen _ => (14, "Unable to open the database file")
  | cannotOpenCompanion => (14, "Unable to open the database file")
  | tooBig => (18, "String or BLOB exceeds size limit")
  | uncountable => (18, "String or BLOB exceeds size limit")
  | noStatement => (21, "Library used incorrectly")
  | noDatabase => (26, "File opened that is not a database file")
  | orphan => (787, "Foreign key constraint failed")
  | cannotInspect => (1802, "Error invoking fstat to get file metadata")
  | cannotLock => (3850, "I/O error in the advisory file locking layer")
  | takenKey _ => (1555, "A PRIMARY KEY constraint failed")
  | takenValue _ => (2067, "A UNIQUE constraint failed")
  | _ => (1, "SQL error or missing database")

def chain (e : DatabaseError) : List String :=
  [e.message, s!"Error code {e.code.1}: {e.code.2}"]

/-- Whether a row was refused for its key, for a value or for its parent. The low byte of the number
tells the class of an error. -/
def isConstraint (e : DatabaseError) : Bool := e.code.1 % 256 == 19

end DatabaseError

/-- The root of a failure. -/
inductive Cause where
  | zeroBatchSize
  | noSubscribers
  | fractionOutside (fraction : Float)
  | emptyPayload
  | noWorkers
  | zeroMeasurement
  | tooLarge
  | notBlob
  | noSuchFile
  | notDirectory
  | isDirectory
  | fileExists
  | nameTooLong
  | zeroInPath
  /-- A text that cannot be handed on, because of a zero byte at a position. -/
  | zeroByte (position : Nat)
  | notText
  | database (error : DatabaseError)
  | panicked (message : String)
  /-- A worker did not come to its end after its loop. -/
  | workerPanicked (worker : Nat)
  /-- An error that comes from outside, in words of its own. -/
  | reported (message : String)
  deriving DecidableEq

def Cause.chain : Cause → List String
  | zeroBatchSize => ["batch size must be positive"]
  | noSubscribers => ["procedure generator needs at least one subscriber"]
  | fractionOutside x => ["read fraction must be within [0, 1], got " ++ Decimal.shortest x]
  | emptyPayload => ["blob payload size must be positive"]
  | noWorkers => ["no workers to run"]
  | zeroMeasurement => ["measurement duration must be positive"]
  | tooLarge => ["number too large to fit in target type"]
  | notBlob => ["Invalid type"]
  | noSuchFile => ["No such file or directory (os error 2)"]
  | notDirectory => ["Not a directory (os error 20)"]
  | isDirectory => ["Is a directory (os error 21)"]
  | fileExists => ["File exists (os error 17)"]
  | nameTooLong => ["File name too long (os error 36)"]
  | zeroInPath => ["file name contained an unexpected NUL byte"]
  | zeroByte position =>
    let message := s!"nul byte found in provided data at position: {position}"
    [message, message]
  | notText => ["stream did not contain valid UTF-8"]
  | database e => e.chain
  | panicked message => [s!"panicked: {message}"]
  | workerPanicked worker => [s!"worker {worker} panicked"]
  | reported message => [message]

inductive Activity where
  | openingLog (path : String)
  | opening (path : String)
  | configuring
  | creatingTables
  | loadingBlob
  | analyzing
  | inserting (table : Telecom.Table) (owner : UInt64)
  | convertingKey (id : UInt64)
  | loadingBatch (number : UInt64) (size : Nat)
  | transaction (kind : Telecom.ProcedureKind)
  | blobRequest (request : Blob.Request)
  | working (worker : Nat) (phase : Run.Phase)
  | preparingTelecomClients
  | preparingBlobClients
  | reading (path : String)
  | scanning (table : String)
  | executing (query : String)
  /-- An activity from outside, in words of its own. -/
  | reported (message : String)
  deriving DecidableEq

def Activity.message : Activity → String
  | openingLog path => s!"opening log file {path}"
  | opening path => s!"opening SQLite database {path}"
  | configuring => "configuring connection"
  | creatingTables => "creating TATP tables"
  | loadingBlob => "loading blob table"
  | analyzing => "analyzing SSB tables"
  | inserting table owner => s!"inserting {table.name} row for s_id {owner}"
  | convertingKey id => s!"s_id {id} does not fit an SQLite INTEGER"
  | loadingBatch number size => s!"loading batch {number} ({size} records)"
  | transaction kind => s!"{kind.name} transaction"
  | blobRequest request => s!"blob {request.name}"
  | working worker phase => s!"worker {worker} failed during {phase.name}"
  | preparingTelecomClients => "preparing TATP clients"
  | preparingBlobClients => "preparing blob clients"
  | reading path => s!"reading {path}"
  | scanning table => s!"scanning table {table}"
  | executing query => s!"executing query {query}"
  | reported message => message

/-- A cause, and the activities around it from the outside in. -/
structure Failure where
  activities : List Activity
  cause : Cause
  deriving DecidableEq

namespace Failure

def ofCause (cause : Cause) : Failure := ⟨[], cause⟩

def ofDatabase (error : DatabaseError) : Failure := ⟨[], .database error⟩

/-- The failure, as seen from one more activity around it. -/
def during (f : Failure) (activity : Activity) : Failure :=
  { f with activities := activity :: f.activities }

def isConstraint (f : Failure) : Bool :=
  match f.cause with
  | .database e => e.isConstraint
  | _ => false

/-- All messages, the outermost first. -/
def chain (f : Failure) : List String := f.activities.map Activity.message ++ f.cause.chain

def line (f : Failure) : String := ": ".intercalate f.chain

@[simp] theorem chain_during (f : Failure) (activity : Activity) :
    (f.during activity).chain = activity.message :: f.chain := rfl

end Failure

/-- Names the activity around what an action may fail with. -/
def during {α : Type} (activity : Activity) : Except Failure α → Except Failure α
  | .ok x => .ok x
  | .error f => .error (f.during activity)

/-- How a call ends that does not come to its end: it fails, or it panics. -/
inductive Abort where
  | failure (f : Failure)
  | panic (message : String)
  deriving DecidableEq

/-- A failure, as seen from one more activity around it; a panic has no activities. -/
def Abort.during : Abort → Activity → Abort
  | failure f, activity => failure (f.during activity)
  | panic message, _ => panic message

/-- The most bytes that memory can be asked for at once. -/
def maxAllocation : Nat := 0x7fffffffffffffff

/-- More memory is asked for than there can be. -/
def Abort.capacityOverflow : Abort := .panic "capacity overflow"

/-- A wait would end later than the clock can tell. -/
def Abort.deadlineOverflow : Abort := .panic "overflow when adding duration to instant"

end StoreBench
