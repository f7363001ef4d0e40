import StoreBench.Telecom.Population

/-!
A population that is made while it is read: blocks are drawn one at a time, when their first row
is asked for. The rows still to come are `Feed.rest`.

The counter `Feed.next` ends one behind the last subscriber. It is a natural number, which is more
than a word only for a population of `2 ^ 64 - 1` subscribers whose last block was begun.
-/
namespace StoreBench.Telecom

/-- The rows of a block that was begun, and the subscribers from `next` to `last`. -/
structure Feed where
  pending : List Record
  next : Nat
  last : UInt64
  deriving DecidableEq

namespace Feed

def population (n : UInt64) : Feed := ⟨[], 1, n⟩

def ofList (rows : List Record) : Feed := ⟨rows, 1, 0⟩

def rest (f : Feed) : List Record := f.pending ++ blocks f.next f.last.toNat

def next? (f : Feed) : Option (Record × Feed) :=
  match f.pending with
  | r :: pending => some (r, { f with pending })
  | [] =>
    if f.next ≤ f.last.toNat then
      match block (UInt64.ofNat f.next) with
      | r :: pending => some (r, { f with pending, next := f.next + 1 })
      | [] => none
    else none

theorem next?_eq_none {f : Feed} (h : f.next? = none) : f.rest = [] := by
  obtain ⟨pending, next, last⟩ := f
  cases pending with
  | cons r pending => simp [next?] at h
  | nil =>
    by_cases hn : next ≤ last.toNat
    · cases hb : block (UInt64.ofNat next) with
      | nil => exact absurd hb (block_ne_nil _)
      | cons r pending => simp [next?, hn, hb] at h
    · simp [rest, blocks_of_lt (Nat.lt_of_not_le hn)]

theorem rest_of_next? {f g : Feed} {r : Record} (h : f.next? = some (r, g)) :
    f.rest = r :: g.rest := by
  obtain ⟨pending, next, last⟩ := f
  cases pending with
  | cons r pending =>
    simp only [next?, Option.some.injEq, Prod.mk.injEq] at h
    obtain ⟨rfl, rfl⟩ := h
    rfl
  | nil =>
    by_cases hn : next ≤ last.toNat
    · cases hb : block (UInt64.ofNat next) with
      | nil => exact absurd hb (block_ne_nil _)
      | cons r pending =>
        simp only [next?, hn, hb, if_true, Option.some.injEq, Prod.mk.injEq] at h
        obtain ⟨rfl, rfl⟩ := h
        simp [rest, blocks_of_le hn, hb]
    · simp [next?, hn] at h

theorem next?_eq_none_iff {f : Feed} : f.next? = none ↔ f.rest = [] := by
  refine ⟨next?_eq_none, ?_⟩
  intro h
  cases hn : f.next? with
  | none => rfl
  | some p => simp [rest_of_next? hn] at h

/-- The answer to one call: the next row, if there is one. A feed that is at its end stays there. -/
def ask (f : Feed) : Option Record × Feed :=
  match f.next? with
  | some (r, g) => (some r, g)
  | none => (none, f)

/-- The answers to `n` calls, and the feed after them. -/
def answers (n : Nat) (f : Feed) : List (Option Record) × Feed :=
  match n with
  | 0 => ([], f)
  | n + 1 =>
    let (answer, g) := f.ask
    let (rest, h) := answers n g
    (answer :: rest, h)

/-- The number of rows that are given before there is none. It is counted in a word. -/
def count (f : Feed) : UInt64 :=
  match h : f.next? with
  | none => 0
  | some (_, g) => g.count + 1
termination_by f.rest.length
decreasing_by
  rw [rest_of_next? h]
  exact Nat.lt_succ_self _

/-- Passes over at most `n` rows, `passed` having been passed over before: the number of all of
them, and the feed after them. -/
def pass (passed : UInt64) (f : Feed) : Nat → UInt64 × Feed
  | 0 => (passed, f)
  | n + 1 =>
    match f.next? with
    | none => (passed, f)
    | some (_, g) => pass (passed + 1) g n

/-- The number of rows that at most `n` steps pass over, and the feed after them. -/
def skip (n : UInt64) (f : Feed) : UInt64 × Feed := pass 0 f n.toNat

/-- The counter is behind the last subscriber by one at most. -/
theorem next_le_of_next? {f g : Feed} {r : Record} (h : f.next? = some (r, g))
    (hf : f.next ≤ f.last.toNat + 1) : g.last = f.last ∧ g.next ≤ g.last.toNat + 1 := by
  obtain ⟨pending, next, last⟩ := f
  cases pending with
  | cons r pending =>
    simp only [next?, Option.some.injEq, Prod.mk.injEq] at h
    obtain ⟨-, rfl⟩ := h
    exact ⟨rfl, hf⟩
  | nil =>
    by_cases hn : next ≤ last.toNat
    · cases hb : block (UInt64.ofNat next) with
      | nil => exact absurd hb (block_ne_nil _)
      | cons r pending =>
        simp only [next?, hn, hb, if_true, Option.some.injEq, Prod.mk.injEq] at h
        obtain ⟨-, rfl⟩ := h
        exact ⟨rfl, Nat.succ_le_succ hn⟩
    · simp [next?, hn] at h

end Feed

end StoreBench.Telecom
