import StoreBench.Outcome

/-! Counts of completed requests. The counters are words: they wrap around. -/
namespace StoreBench.Run

structure Tally where
  completed : UInt64
  missing : UInt64
  conflicts : UInt64
  deriving DecidableEq

namespace Tally

def zero : Tally := ⟨0, 0, 0⟩

/-- Counts one request, whatever its outcome. -/
def record (t : Tally) : Outcome → Tally
  | .success => { t with completed := t.completed + 1 }
  | .missing => { t with completed := t.completed + 1, missing := t.missing + 1 }
  | .conflict => { t with completed := t.completed + 1, conflicts := t.conflicts + 1 }

/-- What is neither missing nor a conflict. -/
def successes (t : Tally) : UInt64 := t.completed - t.missing - t.conflicts

end Tally

end StoreBench.Run
