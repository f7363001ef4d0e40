/-! Doubles as exact binary fractions. -/
namespace StoreBench.Decimal

/-- What a double stands for; a finite one is `m * 2 ^ q` with a sign of its own. -/
inductive Binary64 where
  | nan
  | infinite (negative : Bool)
  | finite (negative : Bool) (m : Nat) (q : Int)
  deriving DecidableEq

namespace Binary64

def leadingBit : Nat := 0x10000000000000

def ofBits (bits : UInt64) : Binary64 :=
  let negative := bits >>> 63 == 1
  let exponent := ((bits >>> 52) &&& 0x7ff).toNat
  let fraction := (bits &&& 0xfffffffffffff).toNat
  if exponent = 0x7ff then
    if fraction = 0 then infinite negative else nan
  else if exponent = 0 then finite negative fraction (-1074)
  else finite negative (leadingBit + fraction) (exponent - 1075)

def ofFloat (x : Float) : Binary64 := ofBits x.toBits

/-- The whole part of a nonnegative value times `2 ^ k`; what is negative or no number counts
as 0. -/
def scaledFloor (x : Binary64) (k : Nat) : Nat :=
  match x with
  | finite false m q =>
    let e := q + k
    if 0 ≤ e then m * Nat.pow 2 e.toNat else m / Nat.pow 2 (-e).toNat
  | _ => 0

/-- The whole number nearest to a nonnegative value, of two the greater one; what is negative,
infinite or no number counts as 0. -/
def nearest (x : Binary64) : Nat := (x.scaledFloor 1 + 1) / 2

end Binary64

end StoreBench.Decimal
