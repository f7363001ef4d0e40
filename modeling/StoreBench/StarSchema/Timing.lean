import StoreBench.Duration
import StoreBench.StarSchema.Queries

/-! Queries with the time that each of them took. -/
namespace StoreBench.StarSchema

structure Timing where
  name : String
  elapsed : Duration
  rows : UInt64
  deriving DecidableEq

def Answer.timed (a : Answer) (elapsed : Duration) : Timing := ⟨a.name, elapsed, a.rows⟩

end StoreBench.StarSchema
