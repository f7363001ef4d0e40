import Mathlib.Algebra.BigOperators.Ring.Finset
import Mathlib.Data.Set.Card
import Mathlib.Order.Interval.Finset.Nat
import StoreBench.Random.Draw

/-!
Fair draws: every value below the count stands for the same number of words, and a draw takes the
first word of the stream that stands for a value.
-/
namespace StoreBench.Random

section Counting

variable {width count : Nat}

end Counting

section Searching

variable {α ω : Type}

def Draw.after (word : Draw ω) (k : Nat) (s : Stream) : Stream := word.rest^[k] s

end Searching

end StoreBench.Random
