/-! Bytes in hexadecimal digits, written and read. -/
namespace StoreBench.Text

def hexDigit (d : Nat) : Char := if d < 10 then Char.ofNat (48 + d) else Char.ofNat (87 + d)

def hexValue? (c : Char) : Option Nat :=
  if '0' ≤ c ∧ c ≤ '9' then some (c.toNat - 48)
  else if 'a' ≤ c ∧ c ≤ 'f' then some (c.toNat - 87)
  else none

/-- Two digits for each byte, the higher one first. -/
def writeHex (bytes : List UInt8) : List Char :=
  bytes.flatMap fun b => [hexDigit (b.toNat / 16), hexDigit (b.toNat % 16)]

/-- Reads further bytes behind those in `bytes`, of which the last one comes first. -/
def readPairs? (bytes : List UInt8) : List Char → Option (List UInt8)
  | [] => some bytes.reverse
  | [_] => none
  | a :: b :: rest =>
    match hexValue? a, hexValue? b with
    | some high, some low => readPairs? (UInt8.ofNat (16 * high + low) :: bytes) rest
    | _, _ => none

def readHex? (digits : List Char) : Option (List UInt8) := readPairs? [] digits

theorem hexValue?_hexDigit {d : Nat} (h : d < 16) : hexValue? (hexDigit d) = some d := by
  have : ∀ d : Fin 16, hexValue? (hexDigit d) = some d.val := by decide
  exact this ⟨d, h⟩

theorem readPairs?_writeHex (read bytes : List UInt8) :
    readPairs? read (writeHex bytes) = some (read.reverse ++ bytes) := by
  induction bytes generalizing read with
  | nil => simp [writeHex, readPairs?]
  | cons b rest ih =>
    have hb := b.toNat_lt
    have hh : hexValue? (hexDigit (b.toNat / 16)) = some (b.toNat / 16) :=
      hexValue?_hexDigit (by omega)
    have hl : hexValue? (hexDigit (b.toNat % 16)) = some (b.toNat % 16) :=
      hexValue?_hexDigit (by omega)
    have he : 16 * (b.toNat / 16) + b.toNat % 16 = b.toNat := by omega
    have hw : writeHex (b :: rest) =
        hexDigit (b.toNat / 16) :: hexDigit (b.toNat % 16) :: writeHex rest := rfl
    rw [hw, readPairs?, hh, hl]
    dsimp only
    rw [he, UInt8.ofNat_toNat, ih]
    simp

/-- What is written is read back. -/
theorem readHex?_writeHex (bytes : List UInt8) : readHex? (writeHex bytes) = some bytes :=
  readPairs?_writeHex [] bytes

end StoreBench.Text
