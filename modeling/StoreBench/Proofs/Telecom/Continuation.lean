import StoreBench.Proofs.Telecom.Population
import StoreBench.Telecom.Feed

/-!
What a feed of the population answers, call by call: the blocks of the subscribers one after
another, and nothing from then on. A copy of a feed goes on from where the feed was.
-/
namespace StoreBench.Telecom

namespace Feed

theorem ask_fst (f : Feed) : f.ask.1 = f.rest.head? := by
  unfold ask
  cases h : f.next? with
  | none => rw [next?_eq_none h, List.head?_nil]
  | some p => rw [rest_of_next? h, List.head?_cons]

theorem rest_ask (f : Feed) : f.ask.2.rest = f.rest.tail := by
  unfold ask
  cases h : f.next? with
  | none =>
    show f.rest = f.rest.tail
    rw [next?_eq_none h, List.tail_nil]
  | some p => rw [rest_of_next? h, List.tail_cons]

theorem answers_fst (f : Feed) (n : Nat) :
    (f.answers n).1 = (List.range n).map fun i => f.rest[i]? := by
  induction n generalizing f with
  | zero => rfl
  | succ n ih =>
    show f.ask.1 :: (f.ask.2.answers n).1 = _
    rw [ih, ask_fst, rest_ask, List.range_succ_eq_map, List.map_cons, List.map_map,
      List.head?_eq_getElem?]
    congr 1
    exact List.map_congr_left fun i _ => List.getElem?_tail

theorem count_eq (f : Feed) : f.count = .ofNat f.rest.length := by
  -- Every row that is given leaves one less to come.
  generalize hk : f.rest.length = k
  induction k generalizing f with
  | zero =>
    rw [count]
    split
    · rfl
    · next g h => simp [rest_of_next? h] at hk
  | succ k ih =>
    rw [count]
    split
    · next h => simp [next?_eq_none h] at hk
    · next g h =>
      rw [rest_of_next? h, List.length_cons, Nat.add_right_cancel_iff] at hk
      rw [ih g hk, UInt64.ofNat_add]
      rfl

theorem answers_snd_of_next?_eq_none {f : Feed} (h : f.next? = none) (n : Nat) :
    (f.answers n).2 = f := by
  have ha : f.ask.2 = f := by rw [ask, h]
  induction n with
  | zero => rfl
  | succ n ih =>
    show (f.ask.2.answers n).2 = f
    rw [ha, ih]

theorem pass_eq (passed : UInt64) (f : Feed) (n : Nat) :
    f.pass passed n = (passed + .ofNat (min n f.rest.length), (f.answers n).2) := by
  induction n generalizing f passed with
  | zero => simp [pass, answers]
  | succ n ih =>
    rw [pass]
    cases h : f.next? with
    | none => simp [answers_snd_of_next?_eq_none h, next?_eq_none h]
    | some p =>
      obtain ⟨r, g⟩ := p
      have ha : f.ask.2 = g := by rw [ask, h]
      show g.pass (passed + 1) n = (_, (f.ask.2.answers n).2)
      rw [ih, ha, rest_of_next? h, List.length_cons, Nat.add_min_add_right, UInt64.ofNat_add,
        UInt64.add_assoc, UInt64.add_comm 1]
      rfl

theorem skip_eq (f : Feed) (n : UInt64) :
    f.skip n = (.ofNat (min n.toNat f.rest.length), (f.answers n.toNat).2) := by
  rw [skip, pass_eq, UInt64.zero_add]

theorem next_ask_le {f : Feed} (h : f.next ≤ f.last.toNat + 1) :
    f.ask.2.last = f.last ∧ f.ask.2.next ≤ f.ask.2.last.toNat + 1 := by
  unfold ask
  cases hn : f.next? with
  | none => exact ⟨rfl, h⟩
  | some p => exact next_le_of_next? hn h

end Feed

/-- A feed, and what was answered so far by it and by those that it is a copy of. -/
structure Reader where
  given : List (Option Record)
  feed : Feed

def Reader.ask (r : Reader) : Reader := ⟨r.given ++ [r.feed.ask.1], r.feed.ask.2⟩

/-- One of several feeds is asked for a row, or is copied. -/
inductive Reading where
  | ask (i : Nat)
  | copy (i : Nat)

def Reading.after (readers : List Reader) : Reading → List Reader
  | ask i => readers.modify i Reader.ask
  | copy i => readers ++ readers[i]?.toList

def Reader.after (readers : List Reader) (readings : List Reading) : List Reader :=
  readings.foldl Reading.after readers

/-- Of the rows of `n` subscribers, the first ones were given, and the others are still to come. -/
structure Reader.Follows (n : UInt64) (rows : List Record) (r : Reader) : Prop where
  given : r.given = (List.range r.given.length).map fun i => rows[i]?
  rest : r.feed.rest = rows.drop r.given.length
  last : r.feed.last = n
  next : r.feed.next ≤ r.feed.last.toNat + 1

namespace Reader.Follows

variable {n : UInt64} {rows : List Record} {r : Reader}

theorem ask (h : r.Follows n rows) : r.ask.Follows n rows := by
  have hl : r.ask.given.length = r.given.length + 1 := by simp [Reader.ask]
  have hfirst : r.feed.ask.1 = rows[r.given.length]? := by
    rw [Feed.ask_fst, h.rest, List.head?_drop]
  obtain ⟨hlast, hnext⟩ := Feed.next_ask_le h.next
  refine ⟨?_, ?_, hlast.trans h.last, hnext⟩
  · rw [hl, List.range_succ, List.map_append, ← h.given, List.map_singleton, ← hfirst]
    rfl
  · rw [hl]
    show r.feed.ask.2.rest = _
    rw [Feed.rest_ask, h.rest, List.tail_drop]

theorem after_reading {readers : List Reader} (h : ∀ r ∈ readers, r.Follows n rows)
    (reading : Reading) : ∀ r ∈ reading.after readers, r.Follows n rows := by
  intro r hr
  cases reading with
  | ask i =>
    obtain ⟨j, hj⟩ := List.mem_iff_getElem?.mp hr
    rw [Reading.after, List.getElem?_modify] at hj
    obtain ⟨q, hq, rfl⟩ := Option.map_eq_some_iff.mp hj
    have hfollows := h q (List.mem_of_getElem? hq)
    by_cases hij : i = j
    · rw [if_pos hij]
      exact hfollows.ask
    · rwa [if_neg hij]
  | copy i =>
    rcases List.mem_append.mp hr with hr | hr
    · exact h r hr
    · exact h r (List.mem_of_getElem? (Option.mem_toList.mp hr))

theorem after {readers : List Reader} (h : ∀ r ∈ readers, r.Follows n rows)
    (readings : List Reading) : ∀ r ∈ Reader.after readers readings, r.Follows n rows := by
  induction readings generalizing readers with
  | nil => exact h
  | cons reading readings ih => exact ih (after_reading h reading)

theorem answers (h : r.Follows n rows) (k : Nat) :
    r.given ++ (r.feed.answers k).1 =
      (List.range (r.given.length + k)).map fun i => rows[i]? := by
  rw [Feed.answers_fst, h.rest, List.range_add, List.map_append, ← h.given, List.map_map]
  congr 1
  exact List.map_congr_left fun i _ => List.getElem?_drop

end Reader.Follows

theorem population_prefix {m n : UInt64} (h : m ≤ n) : population m <+: population n := by
  rw [UInt64.le_iff_toNat_le] at h
  have hids : ids n = ids m ++ List.range' (1 + m.toNat) (n.toNat - m.toNat) := by
    rw [ids, ids, List.range'_append_1, Nat.add_sub_of_le h]
  rw [population_eq, population_eq, hids, List.flatMap_append]
  exact List.prefix_append _ _

/-- A feed of the population gives the blocks of the subscribers from 1 to `n`, row by row, and
then nothing any more. However it is read and copied before, the answers so far and those to come
are these rows. Counting and passing over rows go by them, too; and fewer subscribers have the first
of them. -/
theorem feed_concatenates_blocks (n : UInt64) :
    let rows := (List.range' 1 n.toNat).flatMap fun id => block (.ofNat id)
    (∀ readings, ∀ r ∈ Reader.after [⟨[], .population n⟩] readings,
      r.feed.next ≤ n.toNat + 1 ∧
      (∀ k, r.given ++ (r.feed.answers k).1 =
        (List.range (r.given.length + k)).map fun i => rows[i]?) ∧
      r.feed.count = .ofNat (rows.length - r.given.length) ∧
      ∀ k, r.feed.skip k =
        (.ofNat (min k.toNat (rows.length - r.given.length)), (r.feed.answers k.toNat).2)) ∧
    ∀ m ≤ n, (List.range' 1 m.toNat).flatMap (fun id => block (.ofNat id)) <+: rows := by
  intro rows
  have hrows : (Feed.population n).rest = rows := population_eq n
  have hstart : ∀ r ∈ [Reader.mk [] (.population n)], r.Follows n rows := by
    intro r hr
    obtain rfl := List.mem_singleton.mp hr
    exact ⟨rfl, hrows, rfl, Nat.le_add_left 1 n.toNat⟩
  refine ⟨?_, ?_⟩
  · intro readings r hr
    have hfollows := Reader.Follows.after hstart readings r hr
    refine ⟨hfollows.last ▸ hfollows.next, hfollows.answers, ?_, ?_⟩
    · rw [Feed.count_eq, hfollows.rest, List.length_drop]
    · intro k
      rw [Feed.skip_eq, hfollows.rest, List.length_drop]
  · intro m hm
    have hprefix := population_prefix hm
    rwa [population_eq, population_eq] at hprefix

end StoreBench.Telecom
