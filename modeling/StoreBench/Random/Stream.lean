import StoreBench.Random.Block

/-! Endless streams of random words, one for every seed. -/
namespace StoreBench.Random

/-- What is left of a stream: the unused words of the current block, then block `next` and all
blocks after it. -/
structure Stream where
  key : Key
  next : UInt64
  unused : List UInt32
  deriving DecidableEq

/-- One step of the generator that spreads a seed over a key. -/
def spread (state : UInt64) : UInt64 := state * 6364136223846793005 + 11634580027462260723

/-- The word that a spreading state shows: some of its bits, turned right by its top five bits. -/
def spreadWord (state : UInt64) : UInt32 :=
  turnLeft (((state >>> 18) ^^^ state) >>> 27).toUInt32 ((32 : UInt32) - (state >>> 59).toUInt32)

/-- Four words from a spreading state, and the state after them. -/
def spreadRow (state : UInt64) : Row × UInt64 :=
  let s₁ := spread state
  let s₂ := spread s₁
  let s₃ := spread s₂
  let s₄ := spread s₃
  (⟨spreadWord s₁, spreadWord s₂, spreadWord s₃, spreadWord s₄⟩, s₄)

def Stream.ofSeed (seed : UInt64) : Stream :=
  let (low, state) := spreadRow seed
  let (high, _) := spreadRow state
  ⟨⟨low, high⟩, 0, []⟩

def Stream.word (s : Stream) : UInt32 × Stream :=
  match s.unused with
  | w :: rest => (w, { s with unused := rest })
  | [] =>
    let block := s.key.block s.next
    (block.headD 0, { s with next := s.next + 1, unused := block.tail })

end StoreBench.Random
