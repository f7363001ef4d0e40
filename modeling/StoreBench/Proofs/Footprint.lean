import StoreBench.Footprint
import Mathlib.Algebra.Order.BigOperators.Group.List
import Mathlib.Algebra.Order.Ring.Nat

/-! Bounds on the bytes of rows, and which values are too long. -/
namespace StoreBench

theorem overlong?_eq_none_iff {n : Nat} : overlong? n = none ↔ n ≤ maxLength := by
  unfold overlong? uncountableLength maxLength
  split
  · simp only [reduceCtorEq, false_iff]
    omega
  · split <;> simp_all

theorem varintLength_le (n : Nat) : varintLength n ≤ n + 1 := by
  have hlog := Nat.log2_le_self n
  have hdiv := Nat.div_le_self n.log2 7
  unfold varintLength
  omega

namespace Cell

@[simp] theorem fault?_ofBool (b : Bool) : (ofBool b).fault? = none := rfl

@[simp] theorem fault?_ofByte (x : UInt8) : (ofByte x).fault? = none := rfl

@[simp] theorem fault?_ofWord (x : UInt32) : (ofWord x).fault? = none := rfl

@[simp] theorem fault?_ofKey (x : UInt64) : (ofKey x).fault? = none := rfl

@[simp] theorem fault?_text (s : String) : (text s).fault? = overlong? s.utf8ByteSize := rfl

theorem integerLength_le (x : Int) : integerLength x ≤ 8 := by
  unfold integerLength
  repeat' split
  all_goals omega

/-- The bytes of a value that no number can make up for. -/
def textBytes : Cell → Nat
  | text value => value.utf8ByteSize
  | blob bytes => bytes.length
  | _ => 0

@[simp] theorem textBytes_null : null.textBytes = 0 := rfl

@[simp] theorem textBytes_ofBool (b : Bool) : (ofBool b).textBytes = 0 := rfl

@[simp] theorem textBytes_ofByte (x : UInt8) : (ofByte x).textBytes = 0 := rfl

@[simp] theorem textBytes_ofWord (x : UInt32) : (ofWord x).textBytes = 0 := rfl

@[simp] theorem textBytes_ofKey (x : UInt64) : (ofKey x).textBytes = 0 := rfl

@[simp] theorem textBytes_text (s : String) : (text s).textBytes = s.utf8ByteSize := rfl

theorem length_le (c : Cell) : c.length ≤ c.textBytes + 8 := by
  cases c with
  | null => exact Nat.zero_le _
  | integer value => exact (integerLength_le value).trans (Nat.le_add_left _ _)
  | text value => exact Nat.le_add_right _ _
  | blob bytes => exact Nat.le_add_right _ _

theorem fault?_eq_none {c : Cell} (h : c.length ≤ maxLength) : c.fault? = none := by
  cases c with
  | null | integer => rfl
  | text value => exact overlong?_eq_none_iff.mpr h
  | blob bytes => exact overlong?_eq_none_iff.mpr h

theorem typeLength_le (c : Cell) : c.typeLength ≤ 2 * c.length + 14 := by
  cases c with
  | null | integer => simp [typeLength]
  | text value => exact varintLength_le _
  | blob bytes => exact (varintLength_le _).trans (by simp [length])

end Cell

theorem headerLength_le (n : Nat) : headerLength n ≤ 3 * n + 2 := by
  have h := varintLength_le n
  have h' := varintLength_le (n + varintLength n)
  unfold headerLength
  omega

theorem rowLength_eq (cells : List Cell) : rowLength cells =
    headerLength (cells.map Cell.typeLength).sum + (cells.map Cell.length).sum := rfl

theorem length_le_rowLength {c : Cell} {cells : List Cell} (h : c ∈ cells) :
    c.length ≤ rowLength cells := by
  have hle := List.le_sum_of_mem (List.mem_map_of_mem (f := Cell.length) h)
  rw [rowLength_eq]
  omega

theorem sum_map_le {α : Type} {f g : α → Nat} {a b : Nat} (h : ∀ x, f x ≤ a * g x + b)
    (xs : List α) :
    (xs.map f).sum ≤ a * (xs.map g).sum + b * xs.length := by
  induction xs with
  | nil => simp
  | cons x xs ih =>
    have hx := h x
    simp only [List.map_cons, List.sum_cons, List.length_cons, Nat.mul_add]
    omega

/-- A row is not much longer than its texts. -/
theorem rowLength_le (cells : List Cell) :
    rowLength cells ≤ 7 * (cells.map Cell.textBytes).sum + 98 * cells.length + 2 := by
  have htype (c : Cell) : c.typeLength ≤ 2 * c.textBytes + 30 := by
    have htype := c.typeLength_le
    have hlength := c.length_le
    omega
  have hlength (c : Cell) : c.length ≤ 1 * c.textBytes + 8 := by
    rw [Nat.one_mul]
    exact c.length_le
  have htypes := sum_map_le htype cells
  have hlengths := sum_map_le hlength cells
  have h := headerLength_le (cells.map Cell.typeLength).sum
  rw [rowLength_eq]
  omega

def longText : String := String.ofList (List.replicate (maxLength + 1) '7')

theorem utf8ByteSize_ofList_replicate {c : Char} (hc : c.utf8Size = 1) (n : Nat) :
    (String.ofList (List.replicate n c)).utf8ByteSize = n := by
  induction n with
  | zero => rfl
  | succ n ih =>
    rw [List.replicate_succ, ← List.singleton_append, String.ofList_append,
      String.utf8ByteSize_append, ih]
    simp [hc, Nat.add_comm]

theorem overlong?_longText : overlong? longText.utf8ByteSize = some .tooBig := by
  rw [longText, utf8ByteSize_ofList_replicate rfl]
  decide

end StoreBench
