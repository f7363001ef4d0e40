import StoreBench.Cell
import StoreBench.Failure

/-!
How many bytes values and rows take in a database, and which have too many. A row begins with a
header, which tells of each value its type and length in one number, and how long it is itself.
-/
namespace StoreBench

/-- The most bytes that a value or a row may have. -/
def maxLength : Nat := 1000000000

/-- The least length that is not a number for the database. -/
def uncountableLength : Nat := 0x7fffffff

/-- Why a value of `n` bytes cannot be handed to a statement. -/
def overlong? (n : Nat) : Option DatabaseError :=
  if uncountableLength ≤ n then some .uncountable
  else if maxLength < n then some .tooBig
  else none

/-- The bytes of a number that is written in groups of seven bits. -/
def varintLength (n : Nat) : Nat := n.log2 / 7 + 1

namespace Cell

/-- The bytes of an integer. For 0 and 1 there is nothing but the header. -/
def integerLength (x : Int) : Nat :=
  if x = 0 ∨ x = 1 then 0
  else if -0x80 ≤ x ∧ x < 0x80 then 1
  else if -0x8000 ≤ x ∧ x < 0x8000 then 2
  else if -0x800000 ≤ x ∧ x < 0x800000 then 3
  else if -0x80000000 ≤ x ∧ x < 0x80000000 then 4
  else if -0x800000000000 ≤ x ∧ x < 0x800000000000 then 6
  else 8

def length : Cell → Nat
  | null => 0
  | integer value => integerLength value
  | text value => value.utf8ByteSize
  | blob bytes => bytes.length

/-- The bytes that the header has for a value. -/
def typeLength : Cell → Nat
  | text value => varintLength (2 * value.utf8ByteSize + 13)
  | blob bytes => varintLength (2 * bytes.length + 12)
  | _ => 1

/-- Why a value cannot be handed to a statement. -/
def fault? : Cell → Option DatabaseError
  | text value => overlong? value.utf8ByteSize
  | blob bytes => overlong? bytes.length
  | _ => none

end Cell

def headerLength (n : Nat) : Nat := n + varintLength (n + varintLength n)

def rowLength (cells : List Cell) : Nat :=
  headerLength ((cells.map Cell.typeLength).foldr (· + ·) 0) +
    (cells.map Cell.length).foldr (· + ·) 0

end StoreBench
