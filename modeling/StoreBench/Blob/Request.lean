/-! The requests of the blob workload. -/
namespace StoreBench.Blob

inductive Request where
  | read
  | write
  deriving DecidableEq

def Request.name : Request → String
  | read => "Read"
  | write => "Write"

end StoreBench.Blob
