import StoreBench.Random.Draw

/-! Random choices: characters, members of a list, and parts of a list. -/
namespace StoreBench.Random

def drawLetters (n : Nat) : Draw String := do
  let letters ← Draw.times (return Char.ofNat (65 + (← fair32 26))) n
  return String.ofList letters

def drawDigits (n : Nat) : Draw String := do
  let digits ← Draw.times (return Char.ofNat (48 + (← fair32 10))) n
  return String.ofList digits

def pick (domain : List UInt8) : Draw UInt8 := do
  return domain.getD (← quick64 domain.length) 0

/-- Extends a choice of positions below `bound` to one below `bound + 1`: a random position, or
`bound` itself if that position is taken. -/
def extend (bound : Nat) (chosen : List Nat) : Draw (List Nat) := do
  let t ← quick32 (bound + 1)
  return if t ∈ chosen then bound :: chosen else t :: chosen

def positions (n k : Nat) : Draw (List Nat) :=
  (List.range k).foldlM (fun chosen i => extend (n - k + i) chosen) []

/-- The members of `domain` at the positions in `chosen`, in the order of `domain`. -/
def select (domain : List UInt8) (chosen : List Nat) : List UInt8 :=
  (domain.zipIdx.filter (·.2 ∈ chosen)).map (·.1)

/-- One or more members of `domain`, in its order. -/
def choose (domain : List UInt8) : Draw (List UInt8) := do
  let count ← quick64 domain.length
  return select domain (← positions domain.length (count + 1))

def swap (xs : List Nat) (i j : Nat) : List Nat :=
  (xs.set i (xs.getD j 0)).set j (xs.getD i 0)

/-- The positions below `n` in a random order: from the last place down to the second, the entry
is exchanged with one that stands no later. -/
def shuffle (n : Nat) : Draw (List Nat) :=
  ((List.range n).reverse.take (n - 1)).foldlM
    (fun xs i => return swap xs i (← quick32 (i + 1))) (List.range n)

end StoreBench.Random
