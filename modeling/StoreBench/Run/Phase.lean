/-! The two phases of a run. -/
namespace StoreBench.Run

inductive Phase where
  | warmup
  | measurement
  deriving DecidableEq

def Phase.name : Phase → String
  | warmup => "warmup"
  | measurement => "measurement"

end StoreBench.Run
