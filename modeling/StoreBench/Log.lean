import StoreBench.Duration
import StoreBench.Failure

/-! The log: what a run reports on its way. -/
namespace StoreBench

inductive Level where
  | error
  | warn
  | info
  | debug
  | trace
  deriving DecidableEq

namespace Level

def rank : Level → Nat
  | error => 1
  | warn => 2
  | info => 3
  | debug => 4
  | trace => 5

def name : Level → String
  | error => "ERROR"
  | warn => "WARN"
  | info => "INFO"
  | debug => "DEBUG"
  | trace => "TRACE"

end Level

inductive Event where
  | loadedBatch (number rows : UInt64)
  | loadedPopulation (subscribers rows : UInt64)
  | loadedChildren (accessInfos facilities forwardings : UInt64)
  | loadedBlob (size : Nat)
  | runningTelecom (clients : Nat) (path : String)
  | runningBlob (size : Nat) (readPercent : Float) (clients : Nat)
  | warmingUp (workers : Nat) (warmup : Duration)
  | measuring (measure : Duration)
  | stopping
  | tallied (worker : Nat) (completed missing conflicts : UInt64)
  | failed (failure : Failure)
  | scanned (table : String) (rows : UInt64)
  | prepared
  | queried (name : String) (rows : UInt64)
  deriving DecidableEq

namespace Event

def level : Event → Level
  | failed _ => .error
  | loadedBatch .. => .debug
  | tallied .. => .debug
  | scanned .. => .debug
  | queried .. => .debug
  | _ => .info

/-- The words of a record; `took` is the time that the activity took, where the record tells it. -/
def message (took : String) : Event → String
  | loadedBatch number rows => s!"loaded batch {number} ({rows} rows so far)"
  | loadedPopulation subscribers rows =>
      s!"loaded {subscribers} subscribers ({rows} rows) in {took}"
  | loadedChildren accessInfos facilities forwardings =>
      s!"{accessInfos} access_info, {facilities} special_facility, " ++
        s!"{forwardings} call_forwarding rows"
  | loadedBlob size => s!"loaded blob of {size} bytes"
  | runningTelecom clients path => s!"running TATP with {clients} clients on {path}"
  | runningBlob size readPercent clients =>
      s!"running blob workload ({size} bytes, " ++ Decimal.fixed 0 readPercent ++
        s!"% reads) with {clients} clients"
  | warmingUp workers warmup => s!"warming up {workers} workers for " ++ warmup.text
  | measuring measure => "measuring for " ++ measure.text
  | stopping => "stopping workers"
  | tallied worker completed missing conflicts =>
      s!"worker {worker}: {completed} completed ({missing} missing, {conflicts} conflicts)"
  | failed failure => failure.line
  | scanned table rows => s!"scanned {table}: {rows} rows"
  | prepared => s!"SSB database prepared in {took}"
  | queried name rows => s!"{name}: {rows} rows in {took}"

def line (took : String) (e : Event) : String := e.level.name ++ " " ++ e.message took

end Event

end StoreBench
