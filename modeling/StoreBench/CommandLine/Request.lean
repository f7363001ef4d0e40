import StoreBench.Blob.Mix
import StoreBench.CommandLine.Parse
import StoreBench.Run.Schedule

/-! Requests: what the arguments ask for, with every option that was left out filled in. -/
namespace StoreBench.CommandLine

structure RunOptions where
  clients : Nat
  config : Run.Config
  seed : Option UInt64

def RunOptions.clientSeed (r : RunOptions) (i : Nat) : Option UInt64 :=
  r.seed.map (· + UInt64.ofNat i)

inductive Task where
  | loadTelecom (subscribers : UInt64) (batchSize : Nat)
  | runTelecom (subscribers : UInt64) (run : RunOptions)
  | loadBlob (size : Nat)
  | runBlob (mix : Blob.Mix) (run : RunOptions)
  | timeQueries (directory : String) (csv : Bool)

structure Request where
  task : Task
  database : String
  options : Connection.Options
  logFilter : LogFilter
  logFile : Option String
  json : Bool

namespace Settings

def connection (s : Settings) : Connection.Options :=
  { journalMode := s.journalMode.getD .delete
    cacheSize := s.cacheSize.getD (-1000000)
    busyTimeout := (s.busyTimeout.getD 30).toNat * 1000
    foreignKeys := s.foreignKeys.isSome }

def run (s : Settings) : RunOptions :=
  { clients := s.clients.getD 1
    config := ⟨.ofSecs (s.warmup.getD 10), .ofSecs (s.measure.getD 60)⟩
    seed := s.seed }

/-- The task of a topic, and the database it works on unless another is given. A group of commands
has none. -/
def task? (s : Settings) : Topic → Option (Task × String)
  | .telecomLoad =>
    some (.loadTelecom (s.records.getD 1000) (s.batchSize.getD 10000), "tatp.sqlite")
  | .telecomRun => some (.runTelecom (s.records.getD 1000) s.run, "tatp.sqlite")
  | .blobLoad => some (.loadBlob (s.size.getD 1000), "blob.sqlite")
  | .blobRun => some (.runBlob ⟨s.mix.getD 0.5, s.size.getD 1000⟩ s.run, "blob.sqlite")
  | .queries => some (.timeQueries (s.directory.getD "sql") s.csv.isSome, "ssb.sqlite")
  | _ => none

end Settings

def readRequest (environment : Option String) (arguments : List String) :
    Except Notice Request := do
  let (topic, settings) ← parseArguments environment arguments
  match settings.task? topic with
  | none => throw (.nothingAsked topic)
  | some (task, defaultDatabase) =>
    return {
      task
      database := settings.database.getD defaultDatabase
      options := settings.connection
      logFilter := settings.logLevel.getD (.upTo .info)
      logFile := settings.logFile
      json := settings.json.isSome }

end StoreBench.CommandLine
