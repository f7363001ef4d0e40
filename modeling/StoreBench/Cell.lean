/-! The values that a database holds in a column of a row. -/
namespace StoreBench

inductive Cell where
  | null
  | integer (value : Int)
  | text (value : String)
  | blob (bytes : List UInt8)
  deriving DecidableEq

namespace Cell

/-- Truth values are the integers 0 and 1. -/
def ofBool (b : Bool) : Cell := integer (if b then 1 else 0)

def ofByte (x : UInt8) : Cell := integer x.toNat

def ofWord (x : UInt32) : Cell := integer x.toNat

def ofKey (x : UInt64) : Cell := integer x.toNat

def text? : Cell → Option String
  | text value => some value
  | _ => none

/-- The integer in a cell, if it is at least 0 and below `bound`. -/
def natural? (bound : Nat) : Cell → Option Nat
  | integer value => if 0 ≤ value ∧ value < bound then some value.toNat else none
  | _ => none

def bool? (c : Cell) : Option Bool := (c.natural? 2).map (· == 1)

def byte? (c : Cell) : Option UInt8 := (c.natural? UInt8.size).map UInt8.ofNat

def word? (c : Cell) : Option UInt32 := (c.natural? UInt32.size).map UInt32.ofNat

def key? (c : Cell) : Option UInt64 := (c.natural? UInt64.size).map UInt64.ofNat

theorem natural?_integer {bound n : Nat} (h : n < bound) :
    (integer n).natural? bound = some n := by
  have : (n : Int) < bound := by omega
  simp [natural?, this]

@[simp] theorem bool?_ofBool (b : Bool) : (ofBool b).bool? = some b := by cases b <;> rfl

@[simp] theorem byte?_ofByte (x : UInt8) : (ofByte x).byte? = some x := by
  simp [byte?, ofByte, natural?_integer x.toNat_lt_size]

@[simp] theorem word?_ofWord (x : UInt32) : (ofWord x).word? = some x := by
  simp [word?, ofWord, natural?_integer x.toNat_lt_size]

@[simp] theorem key?_ofKey (x : UInt64) : (ofKey x).key? = some x := by
  simp [key?, ofKey, natural?_integer x.toNat_lt_size]

@[simp] theorem text?_text (s : String) : (text s).text? = some s := rfl

end Cell

end StoreBench
