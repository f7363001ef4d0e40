import StoreBench.Duration
import StoreBench.Run.Tally

/-! The result of a run. -/
namespace StoreBench.Run

/-- The time that was to be measured, the time it took, and a tally for each worker. -/
structure Report where
  measure : Duration
  elapsed : Duration
  workers : List Tally
  deriving DecidableEq

namespace Report

def sumOf (counter : Tally → UInt64) (r : Report) : UInt64 :=
  (r.workers.map counter).foldr (· + ·) 0

def completed : Report → UInt64 := sumOf Tally.completed

def missing : Report → UInt64 := sumOf Tally.missing

def conflicts : Report → UInt64 := sumOf Tally.conflicts

def throughput (r : Report) : Float := r.completed.toFloat / r.measure.seconds

end Report

end StoreBench.Run
