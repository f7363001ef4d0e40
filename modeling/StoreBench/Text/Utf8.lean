/-!
Bytes shown as text. What is no character in UTF-8 is shown as the replacement character, once for
each run of bytes that a character might have begun with.
-/
namespace StoreBench.Text

/-- What the first byte of a character says: the bits that it brings, how many bytes follow it, and
the range of the second. All later ones are in the same range. -/
structure Lead where
  bits : Nat
  more : Nat
  low : Nat
  high : Nat

def lead? (first : UInt8) : Option Lead :=
  let n := first.toNat
  if n < 0x80 then some ⟨n, 0, 0x80, 0xbf⟩
  else if n < 0xc2 then none
  else if n < 0xe0 then some ⟨n - 0xc0, 1, 0x80, 0xbf⟩
  else if n < 0xf0 then
    some ⟨n - 0xe0, 2, if n = 0xe0 then 0xa0 else 0x80, if n = 0xed then 0x9f else 0xbf⟩
  else if n < 0xf5 then
    some ⟨n - 0xf0, 3, if n = 0xf0 then 0x90 else 0x80, if n = 0xf4 then 0x8f else 0xbf⟩
  else none

namespace Lead

/-- The bytes of a character behind its first, as far as they are there. -/
def followers (l : Lead) (bytes : List UInt8) : List Nat :=
  match (bytes.take l.more).map UInt8.toNat with
  | [] => []
  | second :: others =>
    if l.low ≤ second ∧ second ≤ l.high then
      second :: others.takeWhile fun b => 0x80 ≤ b && b ≤ 0xbf
    else []

def char (l : Lead) (followers : List Nat) : Char :=
  if followers.length = l.more then
    Char.ofNat (followers.foldl (fun n b => 0x40 * n + (b - 0x80)) l.bits)
  else '\ufffd'

end Lead

def decodeChars : List UInt8 → List Char
  | [] => []
  | first :: rest =>
    match lead? first with
    | none => '\ufffd' :: decodeChars rest
    | some l =>
      let followers := l.followers rest
      l.char followers :: decodeChars (rest.drop followers.length)
termination_by bytes => bytes.length
decreasing_by all_goals (simp only [List.length_cons, List.length_drop]; omega)

/-- The text that some bytes are shown as. -/
def decode (bytes : List UInt8) : String := String.ofList (decodeChars bytes)

end StoreBench.Text
