import StoreBench.Random.Draw

/-! Random bytes: whole words, the low byte of each first. -/
namespace StoreBench.Random

def wordBytes (w : UInt32) : List UInt8 :=
  [w.toUInt8, (w >>> 8).toUInt8, (w >>> 16).toUInt8, (w >>> 24).toUInt8]

/-- `n` bytes. What is left of the last word is lost. -/
def drawBytes (n : Nat) : Draw (List UInt8) := do
  let words ← drawWord.times ((n + 3) / 4)
  return (words.flatMap wordBytes).take n

end StoreBench.Random
