import StoreBench.Decimal.Binary64

/-! Summaries of measured times: their total, their mean, and their percentiles. -/
namespace StoreBench

open Decimal (Binary64)

/-- The place of a double in the total order of doubles: negative ones first, and among them those
with a greater magnitude. -/
def orderKey (x : Float) : UInt64 :=
  if x.toBits >>> 63 = 1 then ~~~x.toBits else x.toBits ||| 0x8000000000000000

def totalLe (x y : Float) : Bool := orderKey x ≤ orderKey y

/-- Times in microseconds. -/
structure Summary where
  samples : List Float

namespace Summary

/-- The sum of all samples. That of none is the negative zero. -/
def total (s : Summary) : Float := s.samples.foldl (· + ·) (-0.0)

def mean (s : Summary) : Float :=
  if s.samples.isEmpty then 0.0 else s.total / Float.ofNat s.samples.length

/-- Where a percentile lies among `count` samples, the first of which lies at 0. -/
def place (percentile : Float) (count : Nat) : Float :=
  (percentile / 100.0) * Float.ofNat (count - 1)

/-- The nearest rank of a percentile among `count` samples, which is that of a sample whatever the
percentile. What is negative or no number counts as 0. -/
def rank (percentile : Float) (count : Nat) : Nat :=
  match Binary64.ofFloat (place percentile count) with
  | .infinite false => count - 1
  | x => min x.nearest (count - 1)

def percentile (s : Summary) (p : Float) : Float :=
  (s.samples.mergeSort totalLe).getD (rank p s.samples.length) 0.0

end Summary

end StoreBench
