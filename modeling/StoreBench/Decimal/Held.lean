import StoreBench.Decimal.Fixed

/-!
How a number that is too large for a word of 64 bits becomes a double: its first digits, as many as
fit into a word, are scaled by powers of ten. On the way 64 binary digits are kept, and 53 at the
end, so that the double need not be the nearest one.
-/
namespace StoreBench.Decimal

/-- The nearest number with at most `bits` binary digits that are followed by zeros only. -/
def roundBits (bits n : Nat) : Nat :=
  let unit := Nat.pow 2 (Nat.log2 n + 1 - bits)
  roundDiv n unit * unit

def keptBits : Nat := 64

/-- The number behind the first `count` digits of `n`, and how many digits follow them. -/
def cut (count n : Nat) : Nat × Nat :=
  let rest := (digits n).length - count
  (n / Nat.pow 10 rest, rest)

/-- The first digits of a number, and how many follow. A further digit is read as long as it is sure
to fit. -/
def leading (n : Nat) : Nat × Nat :=
  let short := cut 19 n
  let (first, rest) := if (UInt64.size - 10) / 10 ≤ short.1 then short else cut 20 n
  if rest ≠ 0 ∧ first < (UInt64.size - 1) / 10 then (10 * first, rest - 1) else (first, rest)

def largest : Nat := (Nat.pow 2 53 - 1) * Nat.pow 2 971

def infinite : Nat := Nat.pow 2 1024

/-- The factors that make up ten to the power of `e`, as large as can be and as they are kept. -/
def factors (e : Nat) : List Nat :=
  List.replicate (e / 100) (roundBits keptBits (Nat.pow 10 100)) ++
    (List.replicate (e % 100 / 10) (Nat.pow 10 10) ++ List.replicate (e % 10) 10)

/-- `r` times ten to the power of `e`, factor by factor. Beyond the largest double there is no need
to go on. -/
def scale (r e : Nat) : Nat :=
  (factors e).foldl (fun r factor => if largest < r then r else roundBits keptBits (r * factor)) r

def held (n : Nat) : Nat :=
  let (first, rest) := leading n
  let r := scale first rest
  if largest < r then infinite else roundBits 53 r

end StoreBench.Decimal
