/-! How a request that ran to its end came out. -/
namespace StoreBench

inductive Outcome where
  /-- The request found the rows that it addressed. -/
  | success
  /-- No row has the key. -/
  | missing
  /-- A row to be written has a taken key, or its parent is absent. -/
  | conflict
  deriving DecidableEq

namespace Outcome

/-- A request that is a look-up succeeds if it hits. -/
def ofHit (hit : Bool) : Outcome := if hit then success else missing

def name : Outcome → String
  | success => "Success"
  | missing => "Missing"
  | conflict => "Conflict"

end Outcome

end StoreBench
