/-! The commands of the program and the options that each of them takes. -/
namespace StoreBench.CommandLine

inductive Topic where
  | program
  | telecom
  | telecomLoad
  | telecomRun
  | blob
  | blobLoad
  | blobRun
  | queries
  deriving DecidableEq

/-- An option; it is written with two dashes before its name. -/
inductive Parameter where
  | database
  | logLevel
  | logFile
  | json
  | records
  | batchSize
  | clients
  | warmup
  | measure
  | seed
  | size
  | mix
  | directory
  | csv
  | journalMode
  | cacheSize
  | busyTimeout
  | foreignKeys
  deriving DecidableEq

namespace Parameter

def name : Parameter → String
  | database => "db"
  | logLevel => "log-level"
  | logFile => "log-file"
  | json => "json"
  | records => "records"
  | batchSize => "batch-size"
  | clients => "clients"
  | warmup => "warmup"
  | measure => "measure"
  | seed => "seed"
  | size => "size"
  | mix => "mix"
  | directory => "sql-dir"
  | csv => "csv"
  | journalMode => "journal-mode"
  | cacheSize => "cache-size"
  | busyTimeout => "busy-timeout"
  | foreignKeys => "foreign-keys"

def valueName? : Parameter → Option String
  | database => some "DB"
  | logLevel => some "LOG_LEVEL"
  | logFile => some "LOG_FILE"
  | json => none
  | records => some "RECORDS"
  | batchSize => some "BATCH_SIZE"
  | clients => some "CLIENTS"
  | warmup => some "WARMUP"
  | measure => some "MEASURE"
  | seed => some "SEED"
  | size => some "SIZE"
  | mix => some "MIX"
  | directory => some "SQL_DIR"
  | csv => none
  | journalMode => some "JOURNAL_MODE"
  | cacheSize => some "CACHE_SIZE"
  | busyTimeout => some "BUSY_TIMEOUT"
  | foreignKeys => none

def shown (p : Parameter) : String :=
  match p.valueName? with
  | some value => "--" ++ p.name ++ " <" ++ value ++ ">"
  | none => "--" ++ p.name

def isSwitch (p : Parameter) : Bool := p.valueName?.isNone

/-- Whether a value may begin with a minus sign that belongs to a number. -/
def allowsNegative (p : Parameter) : Bool := p = cacheSize

def shared : List Parameter := [database, logLevel, logFile, json]

def ofConnection : List Parameter := [journalMode, cacheSize, busyTimeout, foreignKeys]

def ofRun : List Parameter := [clients, warmup, measure, seed]

end Parameter

namespace Topic

def path : Topic → String
  | program => "dbbench"
  | telecom => "dbbench tatp"
  | telecomLoad => "dbbench tatp load"
  | telecomRun => "dbbench tatp run"
  | blob => "dbbench blob"
  | blobLoad => "dbbench blob load"
  | blobRun => "dbbench blob run"
  | queries => "dbbench ssb"

def about : Topic → String
  | program => "TATP, blob and SSB benchmarks on SQLite"
  | telecom => "Telecom OLTP workload"
  | telecomLoad => "Create the tables and load the subscriber population"
  | telecomRun => "Run the transaction mix against a loaded database"
  | blob => "Single-row blob read/write workload"
  | blobLoad => "Create the blob table holding one random payload"
  | blobRun => "Run the read/write mix against a loaded blob table"
  | queries => "Time the Star Schema Benchmark queries on a loaded database"

/-- The topics within a topic, by the words that select them. -/
def branches : Topic → List (String × Topic)
  | program => [("tatp", telecom), ("blob", blob), ("ssb", queries)]
  | telecom => [("load", telecomLoad), ("run", telecomRun)]
  | blob => [("load", blobLoad), ("run", blobRun)]
  | _ => []

/-- A group of commands is not a command itself. -/
def isGroup (t : Topic) : Bool := !t.branches.isEmpty

def branch? (t : Topic) (word : String) : Option Topic := t.branches.lookup word

/-- Whether a word asks for help. It does in every group of commands. -/
def isHelp (t : Topic) (word : String) : Bool := t.isGroup && word == "help"

def parameters (t : Topic) : List Parameter :=
  Parameter.shared ++
    match t with
    | telecomLoad => [.records, .batchSize] ++ Parameter.ofConnection
    | telecomRun => .records :: (Parameter.ofRun ++ Parameter.ofConnection)
    | blobLoad => .size :: Parameter.ofConnection
    | blobRun => [.size, .mix] ++ Parameter.ofRun ++ Parameter.ofConnection
    | queries => [.directory, .csv] ++ Parameter.ofConnection
    | _ => []

def parameter? (t : Topic) (name : String) : Option Parameter :=
  t.parameters.find? fun p => p.name == name

end Topic

end StoreBench.CommandLine
