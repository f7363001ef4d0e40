import StoreBench.Decimal.Binary64
import StoreBench.Decimal.Natural

/-! Doubles with a fixed number of decimal places. -/
namespace StoreBench.Decimal

/-- The integer nearest to `num / den`; a half goes to the even neighbour. -/
def roundDiv (num den : Nat) : Nat :=
  let low := num / den
  let twice := 2 * (num % den)
  if twice < den ∨ (twice = den ∧ low % 2 = 0) then low else low + 1

/-- Rounding errs by at most one half. -/
theorem roundDiv_error (num : Nat) {den : Nat} (hd : 0 < den) :
    2 * num ≤ 2 * (roundDiv num den * den) + den ∧
      2 * (roundDiv num den * den) ≤ 2 * num + den := by
  have h := Nat.div_add_mod num den
  have hm := Nat.mod_lt num hd
  rw [Nat.mul_comm] at h
  unfold roundDiv
  dsimp only
  split
  · omega
  · rw [Nat.add_mul]
    omega

/-- `m * 2 ^ q` in units of `10 ^ -places`, rounded to the nearest unit. -/
def units (places m : Nat) (q : Int) : Nat :=
  if 0 ≤ q then m * Nat.pow 2 q.toNat * Nat.pow 10 places
  else roundDiv (m * Nat.pow 10 places) (Nat.pow 2 (-q).toNat)

def pointed (places n : Nat) : String :=
  if places = 0 then text n
  else text (n / Nat.pow 10 places) ++ "." ++ padded places (n % Nat.pow 10 places)

def sign (negative : Bool) : String := if negative then "-" else ""

/-- A double with `places` decimal places. The exact binary value is rounded, half to even. -/
def fixed (places : Nat) (x : Float) : String :=
  match Binary64.ofFloat x with
  | .nan => "NaN"
  | .infinite negative => sign negative ++ "inf"
  | .finite negative m q => sign negative ++ pointed places (units places m q)

end StoreBench.Decimal
