import StoreBench.CommandLine.Notice
import StoreBench.Connection.Options
import StoreBench.Decimal.Reading
import StoreBench.Log

/-! The values that options were given, and how they are read from text. -/
namespace StoreBench.CommandLine

/-- Which records are logged: those that are at least as important as a level. -/
inductive LogFilter where
  | off
  | upTo (level : Level)
  deriving DecidableEq

namespace LogFilter

def all : List (String × LogFilter) :=
  [("off", off), ("error", upTo .error), ("warn", upTo .warn), ("info", upTo .info),
    ("debug", upTo .debug), ("trace", upTo .trace)]

/-- The filter with a name, in letters of any case. -/
def ofName? (name : String) : Option LogFilter :=
  all.lookup (String.ofList (name.toList.map Char.toLower))

def admits : LogFilter → Event → Bool
  | off, _ => false
  | upTo level, e => e.level.rank ≤ level.rank

end LogFilter

/-- What was given so far; a switch is either on or was not given. -/
structure Settings where
  database : Option String
  logLevel : Option LogFilter
  logFile : Option String
  json : Option Unit
  records : Option UInt64
  batchSize : Option Nat
  clients : Option Nat
  warmup : Option UInt64
  measure : Option UInt64
  seed : Option UInt64
  size : Option Nat
  mix : Option Float
  directory : Option String
  csv : Option Unit
  journalMode : Option Connection.JournalMode
  cacheSize : Option Int
  busyTimeout : Option UInt64
  foreignKeys : Option Unit

namespace Settings

def empty : Settings :=
  ⟨none, none, none, none, none, none, none, none, none, none, none, none, none, none, none, none,
    none, none⟩

def has (s : Settings) : Parameter → Bool
  | .database => s.database.isSome
  | .logLevel => s.logLevel.isSome
  | .logFile => s.logFile.isSome
  | .json => s.json.isSome
  | .records => s.records.isSome
  | .batchSize => s.batchSize.isSome
  | .clients => s.clients.isSome
  | .warmup => s.warmup.isSome
  | .measure => s.measure.isSome
  | .seed => s.seed.isSome
  | .size => s.size.isSome
  | .mix => s.mix.isSome
  | .directory => s.directory.isSome
  | .csv => s.csv.isSome
  | .journalMode => s.journalMode.isSome
  | .cacheSize => s.cacheSize.isSome
  | .busyTimeout => s.busyTimeout.isSome
  | .foreignKeys => s.foreignKeys.isSome

def hasAny (s : Settings) (ps : List Parameter) : Bool := ps.any s.has

/-- The shared options of a command, and those of the group it is in where the command has none. -/
def within (inner outer : Settings) : Settings :=
  { inner with
    database := inner.database <|> outer.database
    logLevel := inner.logLevel <|> outer.logLevel
    logFile := inner.logFile <|> outer.logFile
    json := inner.json <|> outer.json }

end Settings

namespace Parameter

def readWord (p : Parameter) (value : String) : Except Notice Nat :=
  (Decimal.readNatural (UInt64.size - 1) value.toList).mapError fun fault =>
    .unreadableValue p value fault.message

def readPath (p : Parameter) (value : String) : Except Notice String :=
  if value.isEmpty then .error (.valueMissing p) else .ok value

def readLogLevel (value : String) : Except Notice LogFilter :=
  match LogFilter.ofName? value with
  | some filter => .ok filter
  | none => .error (.unreadableValue logLevel value
      "attempted to convert a string that doesn't match an existing log level")

def readFraction (p : Parameter) (value : String) : Except Notice Float :=
  (Decimal.readFraction value.toList).mapError fun fault => .unreadableValue p value fault.message

def readCacheSize (value : String) : Except Notice Int :=
  (Decimal.readInteger (UInt64.size / 2 - 1) value.toList).mapError fun fault =>
    .unreadableValue cacheSize value fault.message

def readJournalMode (value : String) : Except Notice Connection.JournalMode :=
  match Connection.JournalMode.all.find? fun m => m.name == value with
  | some mode => .ok mode
  | none =>
    .error (if value.isEmpty then .valueMissing journalMode else .invalidValue journalMode value)

def store (p : Parameter) (value : String) (s : Settings) : Except Notice Settings :=
  match p with
  | database => return { s with database := ← readPath p value }
  | logLevel => return { s with logLevel := ← readLogLevel value }
  | logFile => return { s with logFile := value }
  | json => return { s with json := () }
  | records => return { s with records := UInt64.ofNat (← readWord p value) }
  | batchSize => return { s with batchSize := ← readWord p value }
  | clients => return { s with clients := ← readWord p value }
  | warmup => return { s with warmup := UInt64.ofNat (← readWord p value) }
  | measure => return { s with measure := UInt64.ofNat (← readWord p value) }
  | seed => return { s with seed := UInt64.ofNat (← readWord p value) }
  | size => return { s with size := ← readWord p value }
  | mix => return { s with mix := ← readFraction p value }
  | directory => return { s with directory := ← readPath p value }
  | csv => return { s with csv := () }
  | journalMode => return { s with journalMode := ← readJournalMode value }
  | cacheSize => return { s with cacheSize := ← readCacheSize value }
  | busyTimeout => return { s with busyTimeout := UInt64.ofNat (← readWord p value) }
  | foreignKeys => return { s with foreignKeys := () }

/-- Gives a value to an option, which must not have one. -/
def assign (p : Parameter) (value : String) (s : Settings) : Except Notice Settings :=
  if s.has p then .error (.repeated p) else p.store value s

end Parameter

end StoreBench.CommandLine
