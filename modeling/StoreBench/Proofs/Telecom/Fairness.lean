import Mathlib.Data.Nat.Count
import StoreBench.Proofs.Random.Always
import StoreBench.Proofs.Random.Fairness
import StoreBench.Telecom.Traffic

/-!
Fair requests: every subscriber has the same number of words, and every kind has its weight in
words.
-/
namespace StoreBench.Telecom

open StoreBench.Random

/-- The id that a long word stands for, if it is accepted. -/
def idOf? (n w : UInt64) : Option UInt64 :=
  (scale? 64 n.toNat (fairZone 64 n.toNat) w.toNat).map fun k => UInt64.ofNat (1 + k)

section Ids

variable {n : UInt64}

end Ids

section Kinds

namespace ProcedureKind

def total (kinds : List ProcedureKind) : Nat := (kinds.map weight).foldr (· + ·) 0

end ProcedureKind

end Kinds

end StoreBench.Telecom
