import Mathlib.Data.Char
import Mathlib.Data.List.Lex
import Mathlib.Data.Nat.Digits.Lemmas
import StoreBench.Decimal.Natural

/-!
Texts of digits against the numbers that they stand for. What is read is the value of the digits by
their places; texts of one length stand in the order of their values.
-/
namespace StoreBench.Decimal

def IsDigits (cs : List Char) : Prop := ∀ c ∈ cs, '0' ≤ c ∧ c ≤ '9'

/-- What digits stand for by their places, the last one for ones. -/
def valueOf (cs : List Char) : Nat := Nat.ofDigits 10 (cs.reverse.map fun c => c.toNat - 48)

section Values

variable {c d : Char} {cs ds : List Char}

theorem isDigits_cons : IsDigits (c :: cs) ↔ ('0' ≤ c ∧ c ≤ '9') ∧ IsDigits cs := by
  simp [IsDigits]

theorem toNat_bounds (h : '0' ≤ c ∧ c ≤ '9') : 48 ≤ c.toNat ∧ c.toNat ≤ 57 := h

theorem valueOf_cons : valueOf (c :: cs) = (c.toNat - 48) * 10 ^ cs.length + valueOf cs := by
  unfold valueOf
  rw [List.reverse_cons, List.map_append, Nat.ofDigits_append]
  simp [Nat.add_comm, Nat.mul_comm]

theorem valueOf_lt (h : IsDigits cs) : valueOf cs < 10 ^ cs.length := by
  induction cs with
  | nil => simp [valueOf]
  | cons c cs ih =>
    obtain ⟨hc, hcs⟩ := isDigits_cons.mp h
    have hlt := ih hcs
    have hd : c.toNat - 48 ≤ 9 := by
      have := toNat_bounds hc
      omega
    have hle := Nat.mul_le_mul_right (10 ^ cs.length) hd
    rw [valueOf_cons, List.length_cons, pow_succ]
    omega

/-- A first digit that is not zero makes a number as great as its place. -/
theorem pow_le_valueOf (h : IsDigits (c :: cs)) (hc : c ≠ '0') :
    10 ^ cs.length ≤ valueOf (c :: cs) := by
  have hd : 1 ≤ c.toNat - 48 := by
    have hb := (toNat_bounds (isDigits_cons.mp h).1).1
    have hne : c.toNat ≠ 48 := fun he => hc (Char.toNat_inj.mp he)
    omega
  have hle := Nat.mul_le_mul_right (10 ^ cs.length) hd
  rw [valueOf_cons]
  omega

/-- As many digits are needed as are there, if the first of them counts. -/
theorem length_natDigits (h : IsDigits cs) (hle : 10 ^ (cs.length - 1) ≤ valueOf cs) :
    (Nat.digits 10 (valueOf cs)).length = cs.length := by
  apply Nat.le_antisymm
  · rw [Nat.digits_length_le_iff (by decide)]
    exact valueOf_lt h
  · have hlt := (Nat.lt_digits_length_iff (by decide) _).mpr hle
    omega

/-- Texts of one length stand in the order of their values. -/
theorem lt_iff_valueOf_lt (hc : IsDigits cs) (hd : IsDigits ds) (hl : cs.length = ds.length) :
    cs < ds ↔ valueOf cs < valueOf ds := by
  induction cs generalizing ds with
  | nil =>
    obtain rfl := List.length_eq_zero_iff.mp hl.symm
    simp
  | cons c cs ih =>
    cases ds with
    | nil => cases hl
    | cons d ds =>
      obtain ⟨hc, hcs⟩ := isDigits_cons.mp hc
      obtain ⟨hd, hds⟩ := isDigits_cons.mp hd
      have hl : cs.length = ds.length := Nat.succ.inj hl
      have hvc := valueOf_lt hcs
      have hvd := valueOf_lt hds
      have hbc := toNat_bounds hc
      have hbd := toNat_bounds hd
      rw [List.cons_lt_cons_iff, ih hcs hds hl, valueOf_cons, valueOf_cons, ← hl]
      rw [← hl] at hvd
      -- The first place counts more than all behind it.
      have hfirst (m n : Nat) (h : m < n) : (m + 1) * 10 ^ cs.length ≤ n * 10 ^ cs.length :=
        Nat.mul_le_mul_right _ h
      rcases lt_trichotomy c d with hlt | rfl | hgt
      · have hn : c.toNat < d.toNat := hlt
        have := hfirst (c.toNat - 48) (d.toNat - 48) (by omega)
        rw [Nat.succ_mul] at this
        exact iff_of_true (.inl hlt) (by omega)
      · simp
      · have hn : d.toNat < c.toNat := hgt
        have := hfirst (d.toNat - 48) (c.toNat - 48) (by omega)
        rw [Nat.succ_mul] at this
        refine iff_of_false ?_ (by omega)
        rintro (h | ⟨rfl, -⟩)
        · exact lt_asymm hgt h
        · exact lt_irrefl c hgt

theorem eq_of_valueOf_eq (hc : IsDigits cs) (hd : IsDigits ds) (hl : cs.length = ds.length)
    (h : valueOf cs = valueOf ds) : cs = ds := by
  rcases lt_trichotomy cs ds with hlt | heq | hgt
  · have := (lt_iff_valueOf_lt hc hd hl).mp hlt
    omega
  · exact heq
  · have := (lt_iff_valueOf_lt hd hc hl.symm).mp hgt
    omega

end Values

section Reading

variable {cs : List Char} {m n : Nat}

/-- Reading goes on exactly as long as there are digits, and each of them counts by its place. -/
theorem continue?_eq_some_iff :
    continue? n cs = some m ↔ IsDigits cs ∧ n * 10 ^ cs.length + valueOf cs = m := by
  induction cs generalizing n with
  | nil => simp [continue?, IsDigits, valueOf]
  | cons c cs ih =>
    by_cases hc : '0' ≤ c ∧ c ≤ '9'
    · have hd : digit? c = some (c.toNat - 48) := if_pos hc
      have hsum : (10 * n + (c.toNat - 48)) * 10 ^ cs.length + valueOf cs =
          n * 10 ^ (cs.length + 1) + ((c.toNat - 48) * 10 ^ cs.length + valueOf cs) := by
        ring
      rw [continue?, hd, Option.bind_some, ih, isDigits_cons, valueOf_cons, List.length_cons, hsum]
      simp [hc]
    · have hd : digit? c = none := if_neg hc
      simp [continue?, hd, isDigits_cons, hc]

theorem value?_eq_some_iff : value? cs = some n ↔ cs ≠ [] ∧ IsDigits cs ∧ valueOf cs = n := by
  unfold value?
  by_cases h : cs = []
  · simp [h]
  · rw [if_neg (by simpa using h), continue?_eq_some_iff]
    simp [h]

end Reading

theorem isDigits_digits (n : Nat) : IsDigits (digits n) :=
  (value?_eq_some_iff.mp (value?_digits n)).2.1

theorem digits_injective : Function.Injective digits := by
  intro m n h
  apply Option.some.inj
  rw [← value?_digits m, ← value?_digits n, h]

/-- No digit more is written than is needed. Zero has one digit all the same. -/
theorem length_digits (n : Nat) : (digits n).length = max 1 (Nat.digits 10 n).length := by
  induction n using Nat.strongRecOn with
  | ind n ih =>
    rw [digits]
    by_cases h : n < 10
    · have hle : (Nat.digits 10 n).length ≤ 1 := by
        rw [Nat.digits_length_le_iff (by decide)]
        simpa using h
      rw [if_pos h, List.length_singleton]
      omega
    · have hpos : 1 ≤ (Nat.digits 10 (n / 10)).length := by
        rw [Nat.succ_le_iff, Nat.lt_digits_length_iff (by decide)]
        simp only [pow_zero]
        omega
      have hn : Nat.digits 10 n = n % 10 :: Nat.digits 10 (n / 10) :=
        Nat.digits_def' (by decide) (by omega)
      rw [if_neg h, List.length_append, List.length_singleton, ih (n / 10) (by omega), hn,
        List.length_cons]
      omega

end StoreBench.Decimal
