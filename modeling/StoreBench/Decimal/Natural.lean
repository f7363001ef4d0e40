/-! Natural numbers in decimal digits, written and read. -/
namespace StoreBench.Decimal

def digitChar (d : Nat) : Char := Char.ofNat (48 + d)

/-- The digits of `n`, the most significant first. Zero has one digit. -/
def digits (n : Nat) : List Char :=
  if n < 10 then [digitChar n] else digits (n / 10) ++ [digitChar (n % 10)]

def text (n : Nat) : String := String.ofList (digits n)

/-- The text of `n`, with zeros in front up to `width` digits. -/
def padded (width n : Nat) : String := String.ofList ((digits n).leftpad width '0')

def digit? (c : Char) : Option Nat :=
  if '0' ≤ c ∧ c ≤ '9' then some (c.toNat - 48) else none

def continue? (n : Nat) : List Char → Option Nat
  | [] => some n
  | c :: cs => (digit? c).bind fun d => continue? (10 * n + d) cs

def value? (cs : List Char) : Option Nat :=
  if cs.isEmpty then none else continue? 0 cs

theorem digit?_digitChar {d : Nat} (h : d < 10) : digit? (digitChar d) = some d := by
  have : ∀ d : Fin 10, digit? (digitChar d) = some d.val := by decide
  exact this ⟨d, h⟩

theorem continue?_append (n : Nat) (cs ds : List Char) :
    continue? n (cs ++ ds) = (continue? n cs).bind (continue? · ds) := by
  induction cs generalizing n with
  | nil => rfl
  | cons c cs ih =>
    cases h : digit? c with
    | none => simp [continue?, h]
    | some d => simp [continue?, h, ih]

theorem continue?_zero_digits (n : Nat) : continue? 0 (digits n) = some n := by
  induction n using Nat.strongRecOn with
  | ind n ih =>
    rw [digits]
    split
    · next h => simp [continue?, digit?_digitChar h]
    · next h =>
      have hd : n % 10 < 10 := Nat.mod_lt _ (by decide)
      rw [continue?_append, ih (n / 10) (by omega)]
      simp only [Option.bind_some, continue?, digit?_digitChar hd]
      congr 1
      omega

theorem digits_ne_nil (n : Nat) : digits n ≠ [] := by
  rw [digits]
  split <;> simp

/-- What is written is read back. -/
theorem value?_digits (n : Nat) : value? (digits n) = some n := by
  simp [value?, digits_ne_nil, continue?_zero_digits]

end StoreBench.Decimal
