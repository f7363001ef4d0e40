import StoreBench.Random.Stream

/-!
Draws from a stream of random words. A value below `count` is drawn by widening multiplication:
a word is scaled to the range, and it is rejected if the low half of the product lies above a
bound, the zone, so that no value gets more words than another.
-/
namespace StoreBench.Random

/-- A value taken from a stream, with what is left of the stream. -/
abbrev Draw := StateM Stream

def Draw.value {α : Type} (d : Draw α) (s : Stream) : α := (d s).1

def Draw.rest {α : Type} (d : Draw α) (s : Stream) : Stream := (d s).2

@[simp] theorem Draw.value_pure {α : Type} (x : α) (s : Stream) :
    Draw.value (pure x) s = x := (rfl)

@[simp] theorem Draw.rest_pure {α : Type} (x : α) (s : Stream) :
    Draw.rest (pure x) s = s := (rfl)

@[simp] theorem Draw.value_bind {α β : Type} (d : Draw α) (k : α → Draw β) (s : Stream) :
    Draw.value (d >>= k) s = (k (d.value s)).value (d.rest s) := (rfl)

@[simp] theorem Draw.rest_bind {α β : Type} (d : Draw α) (k : α → Draw β) (s : Stream) :
    Draw.rest (d >>= k) s = (k (d.value s)).rest (d.rest s) := (rfl)

@[simp] theorem Draw.value_map {α β : Type} (f : α → β) (d : Draw α) (s : Stream) :
    Draw.value (f <$> d) s = f (d.value s) := (rfl)

@[simp] theorem Draw.rest_map {α β : Type} (f : α → β) (d : Draw α) (s : Stream) :
    Draw.rest (f <$> d) s = d.rest s := (rfl)

def drawWord : Draw UInt32 := Stream.word

/-- A word of 64 bits: the low half comes first. -/
def drawLong : Draw UInt64 := do
  let low ← drawWord
  let high ← drawWord
  return low.toUInt64 ||| (high.toUInt64 <<< 32)

/-- The value below `count` that a word `v` of `width` bits stands for, if its zone takes it. -/
def scale? (width count zone v : Nat) : Option Nat :=
  let product := v * count
  if product % Nat.pow 2 width ≤ zone then some (product / Nat.pow 2 width) else none

/-- The zone that leaves every value the same number of words. -/
def fairZone (width count : Nat) : Nat := Nat.pow 2 width - 1 - (Nat.pow 2 width - count) % count

/-- A zone that needs no division: the range, moved up until its top bit is that of a word. -/
def quickZone (width count : Nat) : Nat := count * Nat.pow 2 (width - 1 - count.log2) - 1

/-- The number of words in a whole period of a stream: sixteen in each of its blocks. -/
def period : Nat := 16 * UInt64.size

/-- The first value that `accept?` finds among at most `n` words, and 0 if it finds none. -/
def redraw (word : Draw Nat) (accept? : Nat → Option Nat) : Nat → Draw Nat
  | 0 => return 0
  | n + 1 => do
    match accept? (← word) with
    | some x => return x
    | none => redraw word accept? n

/-- The first value that `accept?` finds. The search spans a period: a word that is not found in it
is nowhere in the stream. -/
@[irreducible]
def search (word : Draw Nat) (accept? : Nat → Option Nat) : Draw Nat :=
  redraw word accept? period

def fair32 (count : Nat) : Draw Nat :=
  search (return (← drawWord).toNat) (scale? 32 count (fairZone 32 count))

def fair64 (count : Nat) : Draw Nat :=
  search (return (← drawLong).toNat) (scale? 64 count (fairZone 64 count))

def quick32 (count : Nat) : Draw Nat :=
  search (return (← drawWord).toNat) (scale? 32 count (quickZone 32 count))

def quick64 (count : Nat) : Draw Nat :=
  search (return (← drawLong).toNat) (scale? 64 count (quickZone 64 count))

/-- A byte: the low bits of one word. -/
def drawByte : Draw UInt8 := return (← drawWord).toUInt8

/-- True for `threshold` of the `2 ^ 64` long words. What is certain draws nothing. -/
def chance (threshold : Nat) : Draw Bool :=
  if threshold = UInt64.size then return true
  else return decide ((← drawLong).toNat < threshold)

def evenChance : Nat := UInt64.size / 2

/-- `n` further values behind those in `drawn`, of which the last one comes first. -/
def Draw.collect {α : Type} (d : Draw α) : Nat → List α → Stream → List α × Stream
  | 0, drawn, s => (drawn.reverse, s)
  | n + 1, drawn, s =>
    let result := d s
    d.collect n (result.1 :: drawn) result.2

theorem Draw.collect_eq {α : Type} (d : Draw α) (n : Nat) (drawn : List α) (s : Stream) :
    d.collect n drawn s = (drawn.reverse ++ (d.collect n [] s).1, (d.collect n [] s).2) := by
  induction n generalizing drawn s with
  | zero => simp [Draw.collect]
  | succ n ih =>
    rw [Draw.collect, Draw.collect, ih, ih [_]]
    simp

def Draw.times {α : Type} (d : Draw α) (n : Nat) : Draw (List α) := d.collect n []

theorem Draw.times_zero {α : Type} (d : Draw α) : d.times 0 = pure [] := rfl

theorem Draw.times_succ {α : Type} (d : Draw α) (n : Nat) :
    d.times (n + 1) = do
      let x ← d
      let xs ← d.times n
      return x :: xs := by
  funext s
  simp only [Draw.times, Draw.collect]
  rw [Draw.collect_eq]
  rfl

def Draw.vector {α : Type} (d : Draw α) : (n : Nat) → Draw (Vector α n)
  | 0 => return #v[]
  | n + 1 => do
    let xs ← d.vector n
    let x ← d
    return xs.push x

end StoreBench.Random
