import Mathlib.Algebra.Order.Floor.Semifield
import Mathlib.Data.Rat.Floor
import Mathlib.Tactic.Linarith
import StoreBench.Summary

/-!
Doubles against the numbers that they stand for: the magnitude of a double as its bits give it,
whole numbers near to it, and the total order. Doubles at one place of the order have the same
bits, and one that stands for a smaller number comes first.
-/
namespace StoreBench

namespace Decimal.Binary64

def value? : Binary64 → Option ℚ
  | finite negative m q => some ((if negative then -1 else 1) * (m * 2 ^ q))
  | _ => none

/-- The magnitude of a double with the given exponent and fraction, in units of the smallest one. -/
def magnitude (low : Nat) : Nat :=
  if low < 2 ^ 52 then low else (2 ^ 52 + low % 2 ^ 52) * 2 ^ (low / 2 ^ 52 - 1)

/-- The greater of two doubles of one sign has the greater bits. -/
theorem magnitude_mono : Monotone magnitude := by
  apply monotone_nat_of_le_succ
  intro n
  unfold magnitude
  by_cases hsmall : n + 1 < 2 ^ 52
  · rw [if_pos (by omega), if_pos hsmall]
    omega
  · rw [if_neg hsmall]
    by_cases hn : n < 2 ^ 52
    · have hdiv : (n + 1) / 2 ^ 52 - 1 = 0 := by omega
      rw [if_pos hn, hdiv]
      omega
    · rw [if_neg hn]
      by_cases hcarry : n % 2 ^ 52 + 1 = 2 ^ 52
      · -- The fraction is full: the exponent goes up by one and the fraction starts anew.
        have hmod : (n + 1) % 2 ^ 52 = 0 := by omega
        have hdiv : (n + 1) / 2 ^ 52 - 1 = (n / 2 ^ 52 - 1) + 1 := by omega
        have hpow (k : Nat) : (2 ^ 52 + 0) * 2 ^ (k + 1) = 2 ^ 53 * 2 ^ k := by ring
        rw [hmod, hdiv, hpow]
        exact Nat.mul_le_mul_right _ (by omega)
      · have hmod : (n + 1) % 2 ^ 52 = n % 2 ^ 52 + 1 := by omega
        have hdiv : (n + 1) / 2 ^ 52 = n / 2 ^ 52 := by omega
        rw [hmod, hdiv]
        exact Nat.mul_le_mul_right _ (by omega)

/-- The sign is the first bit. -/
theorem shiftRight_eq_one_iff {bits : UInt64} : bits >>> 63 = 1 ↔ ¬ bits.toNat < 2 ^ 63 := by
  have hlt := bits.toNat_lt
  rw [← UInt64.toNat_inj, UInt64.toNat_shiftRight, Nat.shiftRight_eq_div_pow]
  change bits.toNat / 2 ^ 63 = 1 ↔ _
  omega

/-- The fields of a double, read off its bits as a number. -/
theorem ofBits_eq (bits : UInt64) :
    ofBits bits =
      let negative := !decide (bits.toNat < 2 ^ 63)
      let exponent : Nat := bits.toNat % 2 ^ 63 / 2 ^ 52
      let fraction : Nat := bits.toNat % 2 ^ 63 % 2 ^ 52
      if exponent = 0x7ff then
        if fraction = 0 then infinite negative else nan
      else if exponent = 0 then finite negative fraction (-1074)
      else finite negative (leadingBit + fraction) (exponent - 1075) := by
  have hlt := bits.toNat_lt
  have hsign : (bits >>> 63 == 1) = !decide (bits.toNat < 2 ^ 63) := by
    rw [Bool.eq_iff_iff, beq_iff_eq, shiftRight_eq_one_iff, Bool.not_eq_true',
      decide_eq_false_iff_not]
  have hexponent : ((bits >>> 52) &&& 0x7ff).toNat = bits.toNat % 2 ^ 63 / 2 ^ 52 := by
    rw [UInt64.toNat_and, UInt64.toNat_shiftRight, Nat.shiftRight_eq_div_pow]
    change bits.toNat / 2 ^ 52 &&& (2 ^ 11 - 1) = _
    rw [Nat.and_two_pow_sub_one_eq_mod]
    omega
  have hfraction : (bits &&& 0xfffffffffffff).toNat = bits.toNat % 2 ^ 63 % 2 ^ 52 := by
    rw [UInt64.toNat_and]
    change bits.toNat &&& (2 ^ 52 - 1) = _
    rw [Nat.and_two_pow_sub_one_eq_mod]
    omega
  unfold ofBits
  rw [hsign, hexponent, hfraction]

/-- A double that stands for a number is its magnitude with its sign. -/
theorem eq_of_value?_ofBits {bits : UInt64} {v : ℚ} (h : (ofBits bits).value? = some v) :
    v = (if bits.toNat < 2 ^ 63 then 1 else -1) *
      ((magnitude (bits.toNat % 2 ^ 63) : ℚ) * 2 ^ (-1074 : ℤ)) := by
  have hsign : (if (!decide (bits.toNat < 2 ^ 63)) then (-1 : ℚ) else 1) =
      if bits.toNat < 2 ^ 63 then 1 else -1 := by
    by_cases hs : bits.toNat < 2 ^ 63
    · rw [if_pos hs, decide_eq_true hs]
      rfl
    · rw [if_neg hs, decide_eq_false hs]
      rfl
  rw [ofBits_eq] at h
  generalize bits.toNat % 2 ^ 63 = low at h ⊢
  dsimp only at h
  split at h
  · split at h <;> cases h
  · split at h
    · next h0 =>
      have hlt : low < 2 ^ 52 := by omega
      cases h
      rw [hsign, magnitude, if_pos hlt, Nat.mod_eq_of_lt hlt]
    · next h0 =>
      have hge : ¬ low < 2 ^ 52 := by omega
      have hexp : ((low / 2 ^ 52 : ℕ) : ℤ) - 1075 = ((low / 2 ^ 52 - 1 : ℕ) : ℤ) + -1074 := by
        omega
      have hlead : leadingBit = 2 ^ 52 := rfl
      cases h
      rw [hsign, magnitude, if_neg hge, hexp, zpow_add₀ two_ne_zero, zpow_natCast, hlead,
        Nat.cast_mul,
        Nat.cast_pow, Nat.cast_two, mul_assoc (Nat.cast _)]

section Rounding

variable {x : Binary64} {v : ℚ}

theorem scaledFloor_finite (m : Nat) (q : Int) (k : Nat) :
    (finite false m q).scaledFloor k = ⌊(m * 2 ^ q : ℚ) * 2 ^ k⌋₊ := by
  have hshift : (m * 2 ^ q : ℚ) * 2 ^ k = m * 2 ^ (q + k) := by
    rw [zpow_add₀ two_ne_zero, zpow_natCast, mul_assoc]
  rw [hshift]
  unfold scaledFloor
  dsimp only
  split
  · next h =>
    obtain ⟨n, hn⟩ := Int.eq_ofNat_of_zero_le h
    rw [hn, Int.toNat_natCast, zpow_natCast]
    exact_mod_cast (Nat.floor_natCast (R := ℚ) (m * 2 ^ n)).symm
  · next h =>
    obtain ⟨n, hn⟩ := Int.eq_ofNat_of_zero_le (show 0 ≤ -(q + k) by omega)
    have hq : q + k = -(n : ℤ) := by omega
    rw [hn, Int.toNat_natCast, hq, zpow_neg, zpow_natCast, ← div_eq_mul_inv]
    exact_mod_cast (Nat.floor_div_eq_div (K := ℚ) m (2 ^ n)).symm

/-- The nearest whole number, of two the greater one, and 0 for a number below all of them. -/
theorem nearest_eq (h : x.value? = some v) : x.nearest = ⌊v + 1 / 2⌋₊ := by
  cases x with
  | nan => cases h
  | infinite negative => cases h
  | finite negative m q =>
    have hm : (0 : ℚ) ≤ m * 2 ^ q := mul_nonneg (Nat.cast_nonneg m) (zpow_nonneg (by norm_num) q)
    cases h
    cases negative with
    | true =>
      have hlt : (-1 : ℚ) * (m * 2 ^ q) + 1 / 2 < 1 := by linarith
      have hzero : (finite true m q).scaledFloor 1 = 0 := rfl
      rw [nearest, hzero]
      exact (Nat.floor_eq_zero.mpr hlt).symm
    | false =>
      have hhalf : (1 : ℚ) * (m * 2 ^ q) + 1 / 2 = (m * 2 ^ q * 2 ^ 1 + 1) / (2 : ℕ) := by
        push_cast
        ring
      rw [nearest, scaledFloor_finite]
      change _ = ⌊(1 : ℚ) * (m * 2 ^ q) + 1 / 2⌋₊
      rw [hhalf, Nat.floor_div_natCast, Nat.floor_add_one (mul_nonneg hm (by norm_num))]

end Rounding

end Decimal.Binary64

open Decimal (Binary64)

section Keys

variable {x y z : Float}

theorem eq_of_toBits_eq (h : x.toBits = y.toBits) : x = y := by
  obtain ⟨⟨a, ha⟩⟩ := x
  obtain ⟨⟨b, hb⟩⟩ := y
  cases (show a = b from h)
  rfl

/-- The key as a number: negative doubles take the lower half, with their magnitudes turned
round. -/
theorem toNat_orderKey (x : Float) :
    (orderKey x).toNat =
      if x.toBits.toNat < 2 ^ 63 then x.toBits.toNat + 2 ^ 63 else 2 ^ 64 - 1 - x.toBits.toNat := by
  unfold orderKey
  by_cases h : x.toBits.toNat < 2 ^ 63
  · have hsign : ¬ x.toBits >>> 63 = 1 := fun hs => Binary64.shiftRight_eq_one_iff.mp hs h
    have hor := Nat.two_pow_add_eq_or_of_lt h 1
    rw [if_neg hsign, if_pos h, UInt64.toNat_or, Nat.or_comm]
    rw [Nat.mul_one] at hor
    exact hor.symm.trans (Nat.add_comm _ _)
  · rw [if_pos (Binary64.shiftRight_eq_one_iff.mpr h), if_neg h, UInt64.toNat_not]
    rfl

theorem totalLe_iff : totalLe x y ↔ (orderKey x).toNat ≤ (orderKey y).toNat := by
  unfold totalLe
  rw [decide_eq_true_eq, UInt64.le_iff_toNat_le]

theorem totalLe_refl (x : Float) : totalLe x x := totalLe_iff.mpr (Nat.le_refl _)

theorem totalLe_trans (hxy : totalLe x y) (hyz : totalLe y z) : totalLe x z :=
  totalLe_iff.mpr (Nat.le_trans (totalLe_iff.mp hxy) (totalLe_iff.mp hyz))

theorem totalLe_total (x y : Float) : totalLe x y ∨ totalLe y x := by
  rw [totalLe_iff, totalLe_iff]
  exact Nat.le_total _ _

/-- The order is one of bits: it tells apart whatever differs in any of them. -/
theorem totalLe_antisymm (hxy : totalLe x y) (hyx : totalLe y x) : x = y := by
  apply eq_of_toBits_eq
  have hk := Nat.le_antisymm (totalLe_iff.mp hxy) (totalLe_iff.mp hyx)
  have hx := x.toBits.toNat_lt
  have hy := y.toBits.toNat_lt
  rw [toNat_orderKey, toNat_orderKey] at hk
  rw [← UInt64.toNat_inj]
  split at hk <;> split at hk <;> omega

end Keys

/-- A double that stands for a smaller number comes first. -/
theorem totalLe_of_value_lt {x y : Float} {v w : ℚ}
    (hx : (Binary64.ofFloat x).value? = some v) (hy : (Binary64.ofFloat y).value? = some w)
    (h : v < w) : totalLe x y := by
  have hv := Binary64.eq_of_value?_ofBits hx
  have hw := Binary64.eq_of_value?_ofBits hy
  have hbx := x.toBits.toNat_lt
  have hby := y.toBits.toNat_lt
  have hunit : (0 : ℚ) ≤ 2 ^ (-1074 : ℤ) := zpow_nonneg (by norm_num) _
  have hmono {m n : Nat} (hmn : m ≤ n) : (Binary64.magnitude m : ℚ) * 2 ^ (-1074 : ℤ) ≤
      Binary64.magnitude n * 2 ^ (-1074 : ℤ) :=
    mul_le_mul_of_nonneg_right (Nat.cast_le.mpr (Binary64.magnitude_mono hmn)) hunit
  have hnonneg (n : Nat) : 0 ≤ (Binary64.magnitude n : ℚ) * 2 ^ (-1074 : ℤ) :=
    mul_nonneg (Nat.cast_nonneg _) hunit
  rw [totalLe_iff, toNat_orderKey, toNat_orderKey]
  by_contra hkeys
  apply absurd h
  rw [not_lt, hv, hw]
  by_cases hsx : x.toBits.toNat < 2 ^ 63 <;> by_cases hsy : y.toBits.toNat < 2 ^ 63
  · rw [if_pos hsx, if_pos hsy] at hkeys ⊢
    rw [one_mul, one_mul]
    exact hmono (by omega)
  · rw [if_pos hsx, if_neg hsy, one_mul, neg_one_mul]
    have h0 := hnonneg (x.toBits.toNat % 2 ^ 63)
    have h1 := hnonneg (y.toBits.toNat % 2 ^ 63)
    linarith
  · rw [if_neg hsx, if_pos hsy] at hkeys
    omega
  · -- Among negative doubles the greater magnitude comes first.
    rw [if_neg hsx, if_neg hsy] at hkeys ⊢
    rw [neg_one_mul, neg_one_mul, neg_le_neg_iff]
    exact hmono (by omega)

theorem value_le_of_totalLe {x y : Float} {v w : ℚ}
    (hx : (Binary64.ofFloat x).value? = some v) (hy : (Binary64.ofFloat y).value? = some w)
    (h : totalLe x y) : v ≤ w := by
  by_contra hlt
  have hxy : x = y := totalLe_antisymm h (totalLe_of_value_lt hy hx (not_le.mp hlt))
  subst hxy
  cases hx.symm.trans hy
  exact hlt (le_refl v)

end StoreBench
