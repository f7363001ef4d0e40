import StoreBench.Decimal.Fixed

/-! The shortest decimal text that reads back as the same double. -/
namespace StoreBench.Decimal

/-- The numbers that round to one double: those between `low / den` and `high / den`, the ends
included if `closed` holds. The double itself is `value / den`. -/
structure Neighbourhood where
  low : Nat
  value : Nat
  high : Nat
  den : Nat
  closed : Bool

namespace Neighbourhood

/-- The neighbourhood of `m * 2 ^ q`. Below a power of two the next double is half as far away. -/
def around (m : Nat) (q : Int) : Neighbourhood :=
  let below := if m = Binary64.leadingBit ∧ -1074 < q then 1 else 2
  let e := q - 2
  let up := if 0 ≤ e then Nat.pow 2 e.toNat else 1
  let den := if 0 ≤ e then 1 else Nat.pow 2 (-e).toNat
  ⟨(4 * m - below) * up, 4 * m * up, (4 * m + 2) * up, den, m % 2 = 0⟩

def exponent (n : Neighbourhood) : Int :=
  if n.den ≤ n.value then (digits (n.value / n.den)).length - 1
  else -((digits ((n.den + n.value - 1) / n.value - 1)).length : Int)

def contains (n : Neighbourhood) (d : Nat) (e : Int) : Bool :=
  let x := if 0 ≤ e then d * Nat.pow 10 e.toNat * n.den else d * n.den
  let scale := if 0 ≤ e then 1 else Nat.pow 10 (-e).toNat
  if n.closed then n.low * scale ≤ x && x ≤ n.high * scale
  else n.low * scale < x && x < n.high * scale

/-- The multiple of `10 ^ e` that is nearest to the value, as far as it rounds to the double. -/
def candidate? (n : Neighbourhood) (e : Int) : Option Nat :=
  let num := if 0 ≤ e then n.value else n.value * Nat.pow 10 (-e).toNat
  let den := if 0 ≤ e then n.den * Nat.pow 10 e.toNat else n.den
  let near := roundDiv num den
  let far := if near * den ≤ num then near + 1 else near - 1
  if n.contains near e then some near else if n.contains far e then some far else none

/-- The first hit among grids that get finer by one digit at a time. -/
def firstHit (n : Neighbourhood) (e : Int) : Nat → Nat × Int
  | 0 => (0, e)
  | fuel + 1 =>
    match n.candidate? e with
    | some d => (d, e)
    | none => n.firstHit (e - 1) fuel

end Neighbourhood

/-- Digits `d` with the point moved by `e` places, in positional notation. -/
def positional (d : Nat) (e : Int) : String :=
  if 0 ≤ e then text (d * Nat.pow 10 e.toNat)
  else
    let places := (-e).toNat
    let one := Nat.pow 10 places
    let trimmed := ((digits (d % one)).leftpad places '0').reverse.dropWhile (· == '0')
    if trimmed.isEmpty then text (d / one)
    else text (d / one) ++ "." ++ String.ofList trimmed.reverse

/-- The shortest text of a double, never with an exponent. Seventeen digits always suffice. -/
def shortest (x : Float) : String :=
  match Binary64.ofFloat x with
  | .nan => "NaN"
  | .infinite negative => sign negative ++ "inf"
  | .finite negative m q =>
    if m = 0 then sign negative ++ "0"
    else
      let n := Neighbourhood.around m q
      let (d, e) := n.firstHit n.exponent 17
      sign negative ++ positional d e

end StoreBench.Decimal
