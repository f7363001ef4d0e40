import StoreBench.Proofs.Telecom.Running

/-!
Which actions of a plan are performed. A transaction that fails has run no statement that writes, or
has to take back what was too long for a row.
-/
namespace StoreBench.Telecom

open Plan (perform query attempt fail)

variable {α σ : Type}

namespace Plan

def performed (gate : Gate σ) (foreignKeys : Bool) : Plan α → Draft → σ → List Action
  | done _, _, _ => []
  | fail _, _, _ => []
  | ask x next, d, s =>
    match gate d.tables x s with
    | (.error f, s) => (next (.error f)).performed gate foreignKeys d s
    | (.ok (), s) =>
      match d.perform foreignKeys x with
      | .error f => (next (.error f)).performed gate foreignKeys d s
      | .ok (answer, d) => x :: (next (.ok answer)).performed gate foreignKeys d s

/-- The actions that are performed where nothing keeps the plan from any. -/
def trace (foreignKeys : Bool) (plan : Plan α) (d : Draft) : List Action :=
  plan.performed .free foreignKeys d ()

variable {gate : Gate σ} {foreignKeys : Bool} {d : Draft}

end Plan

namespace Handle

end Handle

end StoreBench.Telecom
