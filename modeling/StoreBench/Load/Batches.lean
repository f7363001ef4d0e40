import StoreBench.Load.Stats
import StoreBench.Log
import StoreBench.Telecom.Feed

/-!
Loading a feed in batches. Rows are collected in a buffer, which is handed over when it is full and
once more at the end. The first batch that is refused ends the load, and no row behind it is taken.
-/
namespace StoreBench.Load

open Telecom

/-- Takes in a batch, with a state of its own. -/
abbrev Loader (σ : Type) := List Record → σ → Except Failure Unit × σ

/-- How far a load has come. -/
structure Progress (σ : Type) where
  stats : Stats
  log : Array Event
  /-- The batches that the loader was given. -/
  handed : Array (List Record)
  /-- The rows that were taken since the last batch. -/
  buffer : Array Record
  /-- The rows that were not taken yet. -/
  feed : Feed
  state : σ

namespace Progress

variable {σ : Type}

def start (feed : Feed) (state : σ) : Progress σ := ⟨.zero, #[], #[], #[], feed, state⟩

def flush (loader : Loader σ) (p : Progress σ) : Except Failure Unit × Progress σ :=
  let batch := p.buffer.toList
  let number := p.stats.batches + 1
  let (result, state) := loader batch p.state
  let q := { p with handed := p.handed.push batch, state }
  match result with
  | .error f => (.error (f.during (.loadingBatch number batch.length)), q)
  | .ok () =>
    let stats := { p.stats with batches := number }
    let log := p.log.push (.loadedBatch number stats.rows)
    (.ok (), { q with stats, log, buffer := #[] })

/-- Counts a row and puts it into the buffer, which holds at most `size`. -/
def take (size : Nat) (loader : Loader σ) (r : Record) (p : Progress σ) :
    Except Failure Unit × Progress σ :=
  let q := { p with stats := p.stats.count r, buffer := p.buffer.push r }
  if q.buffer.size = size then q.flush loader else (.ok (), q)

theorem feed_flush (loader : Loader σ) (p : Progress σ) : (p.flush loader).2.feed = p.feed := by
  unfold flush
  dsimp only
  split <;> rfl

theorem feed_take (size : Nat) (loader : Loader σ) (r : Record) (p : Progress σ) :
    (p.take size loader r).2.feed = p.feed := by
  unfold take
  dsimp only
  split
  · rw [feed_flush]
  · rfl

def run (size : Nat) (loader : Loader σ) (p : Progress σ) : Except Failure Unit × Progress σ :=
  match h : p.feed.next? with
  | none => if p.buffer.isEmpty then (.ok (), p) else p.flush loader
  | some (r, feed) =>
    match hq : { p with feed }.take size loader r with
    | (.error f, q) => (.error f, q)
    | (.ok (), q) =>
      have : q.feed.rest.length < p.feed.rest.length := by
        have hfeed := { p with feed }.feed_take size loader r
        rw [hq] at hfeed
        rw [hfeed, Feed.rest_of_next? h]
        exact Nat.lt_succ_self _
      q.run size loader
termination_by p.feed.rest.length

end Progress

/-- The bytes of a row in a buffer; the characters of its texts are elsewhere. -/
def recordSize : Nat := 72

/-- The most rows that a buffer can be made for. -/
def maxBatch : Nat := maxAllocation / recordSize

/-- Loads a feed. The buffer is made for a whole batch, however few rows there are. -/
def load {σ : Type} (size : Nat) (loader : Loader σ) (feed : Feed) (state : σ) :
    Except Abort Stats × Progress σ :=
  let start := Progress.start feed state
  if size = 0 then (.error (.failure (.ofCause .zeroBatchSize)), start)
  else if maxBatch < size then (.error .capacityOverflow, start)
  else
    match start.run size loader with
    | (.error f, p) => (.error (.failure f), p)
    | (.ok (), p) => (.ok p.stats, p)

end StoreBench.Load
