import StoreBench.Decimal.Fixed

/-! Lengths of time in whole nanoseconds. -/
namespace StoreBench

structure Duration where
  secs : UInt64
  nanos : Fin 1000000000
  deriving DecidableEq

namespace Duration

def zero : Duration := ⟨0, 0⟩

def ofSecs (secs : UInt64) : Duration := ⟨secs, 0⟩

def ofNanos (n : Nat) : Duration := ⟨UInt64.ofNat (n / 1000000000), Fin.ofNat 1000000000 n⟩

def inNanos (d : Duration) : Nat := d.secs.toNat * 1000000000 + d.nanos.val

def seconds (d : Duration) : Float :=
  d.secs.toFloat + Float.ofNat d.nanos / 1000000000.0

/-- A whole number and a fraction of `places` digits, less the zeros at its end. -/
def exact (whole fraction places : Nat) : String :=
  let digits := ((Decimal.digits fraction).leftpad places '0').reverse.dropWhile (· == '0')
  if digits.isEmpty then Decimal.text whole
  else Decimal.text whole ++ "." ++ String.ofList digits.reverse

/-- The exact length in the largest unit that it fills once, or else in nanoseconds. -/
def text (d : Duration) : String :=
  let nanos := d.nanos.val
  if 0 < d.secs then exact d.secs.toNat nanos 9 ++ "s"
  else if 1000000 ≤ nanos then exact (nanos / 1000000) (nanos % 1000000) 6 ++ "ms"
  else if 1000 ≤ nanos then exact (nanos / 1000) (nanos % 1000) 3 ++ "µs"
  else Decimal.text nanos ++ "ns"

/-- The length with two decimal places, in the largest unit that it fills once, or else in
nanoseconds. -/
def roundedText (d : Duration) : String :=
  let n := d.inNanos
  let inUnit (nanos : Nat) : String := Decimal.pointed 2 (Decimal.roundDiv (n * 100) nanos)
  if 1000000000 ≤ n then inUnit 1000000000 ++ "s"
  else if 1000000 ≤ n then inUnit 1000000 ++ "ms"
  else if 1000 ≤ n then inUnit 1000 ++ "µs"
  else inUnit 1 ++ "ns"

end Duration

end StoreBench
