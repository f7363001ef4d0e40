/-! Blocks of sixteen random words: a keyed permutation of a grid of words, twelve rounds long. -/
namespace StoreBench.Random

def turnLeft (w k : UInt32) : UInt32 := (w <<< (k % 32)) ||| (w >>> ((32 - k) % 32))

/-- Four words that are worked on lane by lane. -/
structure Row where
  a : UInt32
  b : UInt32
  c : UInt32
  d : UInt32
  deriving DecidableEq

namespace Row

def add (x y : Row) : Row := ⟨x.a + y.a, x.b + y.b, x.c + y.c, x.d + y.d⟩

/-- The exclusive or of two rows, each lane then turned left by `k` bits. -/
def mix (x y : Row) (k : UInt32) : Row :=
  ⟨turnLeft (x.a ^^^ y.a) k, turnLeft (x.b ^^^ y.b) k,
    turnLeft (x.c ^^^ y.c) k, turnLeft (x.d ^^^ y.d) k⟩

def shift (x : Row) : Row := ⟨x.b, x.c, x.d, x.a⟩

def words (x : Row) : List UInt32 := [x.a, x.b, x.c, x.d]

end Row

/-- The sixteen words of a block, as four rows. -/
structure Grid where
  p : Row
  q : Row
  r : Row
  s : Row
  deriving DecidableEq

namespace Grid

def quarter (g : Grid) : Grid :=
  let p := g.p.add g.q
  let s := g.s.mix p 16
  let r := g.r.add s
  let q := g.q.mix r 12
  let p := p.add q
  let s := s.mix p 8
  let r := r.add s
  let q := q.mix r 7
  ⟨p, q, r, s⟩

/-- The lower rows move, so that the lanes of the result are the diagonals of `g`. -/
def skew (g : Grid) : Grid := ⟨g.p, g.q.shift, g.r.shift.shift, g.s.shift.shift.shift⟩

def unskew (g : Grid) : Grid := ⟨g.p, g.q.shift.shift.shift, g.r.shift.shift, g.s.shift⟩

theorem unskew_skew (g : Grid) : g.skew.unskew = g := rfl

/-- A round over the columns and one over the diagonals. -/
def doubleRound (g : Grid) : Grid := g.quarter.skew.quarter.unskew

def add (g h : Grid) : Grid := ⟨g.p.add h.p, g.q.add h.q, g.r.add h.r, g.s.add h.s⟩

def words (g : Grid) : List UInt32 := g.p.words ++ g.q.words ++ g.r.words ++ g.s.words

end Grid

/-- The eight words that tell one stream from another. -/
structure Key where
  low : Row
  high : Row
  deriving DecidableEq

/-- The first row of every grid. -/
def constants : Row := ⟨0x61707865, 0x3320646e, 0x79622d32, 0x6b206574⟩

def Key.grid (key : Key) (number : UInt64) : Grid :=
  ⟨constants, key.low, key.high, ⟨number.toUInt32, (number >>> 32).toUInt32, 0, 0⟩⟩

/-- The words of one block: the grid added to itself after six double rounds. -/
def Key.block (key : Key) (number : UInt64) : List UInt32 :=
  let g := key.grid number
  (g.doubleRound.doubleRound.doubleRound.doubleRound.doubleRound.doubleRound.add g).words

theorem Key.length_block (key : Key) (number : UInt64) : (key.block number).length = 16 := rfl

end StoreBench.Random
