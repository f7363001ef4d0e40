import Mathlib.Data.List.Basic
import StoreBench.Proofs.Load.Batches

/-!
The batches of a list of rows. A loader that refuses none is given them all, in their order, and the
log and the counters say so.
-/
namespace StoreBench.Load

open Telecom

/-- Batch `k` of a list, counted from 0. -/
def batch (size : Nat) (rows : List Record) (k : Nat) : List Record :=
  (rows.drop (k * size)).take size

section Batch

variable {size : Nat} {rows : List Record}

theorem length_batch (k : Nat) :
    (batch size rows k).length = min size (rows.length - k * size) := by
  simp [batch]

theorem flatten_map_batch (c : Nat) :
    ((List.range c).map (batch size rows)).flatten = rows.take (c * size) := by
  induction c with
  | zero => simp
  | succ c ih =>
    rw [List.range_succ, List.map_append, List.flatten_append, ih, Nat.succ_mul, List.take_add]
    simp [batch]

theorem lt_batches_iff (hs : 0 < size) {n k : Nat} : k < (n + size - 1) / size ↔ k * size < n := by
  rw [Nat.lt_div_iff_mul_lt hs]
  omega

/-- The batches are the rows in their order. All have `size` rows but for the last one, which has
some of them. -/
structure Chunked (size : Nat) (rows : List Record) (batches : List (List Record)) : Prop where
  flatten : batches.flatten = rows
  count : batches.length = (rows.length + size - 1) / size
  full : ∀ batch ∈ batches.dropLast, batch.length = size
  bounds : ∀ batch ∈ batches, 1 ≤ batch.length ∧ batch.length ≤ size
  empty : rows = [] → batches = []

theorem chunked_map_batch (hs : 0 < size) : Chunked size rows
    ((List.range ((rows.length + size - 1) / size)).map (batch size rows)) := by
  have hlt {k : Nat} (hk : k ∈ List.range ((rows.length + size - 1) / size)) :
      k * size < rows.length := (lt_batches_iff hs).mp (List.mem_range.mp hk)
  refine ⟨?_, by simp, ?_, ?_, ?_⟩
  · -- The batch after these would begin beyond the list.
    have hge := mt (lt_batches_iff hs (n := rows.length)).mpr (Nat.lt_irrefl _)
    rw [flatten_map_batch, List.take_of_length_le (Nat.le_of_not_lt hge)]
  · generalize (rows.length + size - 1) / size = c at hlt
    cases c with
    | zero => simp
    | succ c =>
      have hc : c * size < rows.length := hlt (by simp)
      rw [List.range_succ, List.map_append, List.map_singleton, List.dropLast_concat]
      intro b hb
      obtain ⟨k, hk, rfl⟩ := List.mem_map.mp hb
      have hle : (k + 1) * size ≤ c * size := Nat.mul_le_mul_right size (List.mem_range.mp hk)
      rw [length_batch]
      rw [Nat.succ_mul] at hle
      omega
  · intro b hb
    obtain ⟨k, hk, rfl⟩ := List.mem_map.mp hb
    have := hlt hk
    rw [length_batch]
    omega
  · rintro rfl
    have hz : (size - 1) / size = 0 := Nat.div_eq_of_lt (by omega)
    simp [hz]

/-- Batches that all begin within a list and reach its end are as many as it needs. -/
theorem eq_batches (hs : 0 < size) {n c : Nat} (hb : ∀ k < c, k * size < n) (he : n ≤ c * size) :
    c = (n + size - 1) / size := by
  apply Nat.le_antisymm
  · apply Nat.le_of_not_lt
    intro hlt
    have hbegins := hb _ hlt
    rw [← lt_batches_iff hs] at hbegins
    exact Nat.lt_irrefl _ hbegins
  · apply Nat.le_of_not_lt
    intro hlt
    have hbegins := (lt_batches_iff hs).mp hlt
    omega

end Batch

namespace Progress

variable {σ : Type} {loader : Loader σ} {size : Nat} {rows : List Record} {state : σ}

/-- The record that batch `k` was taken in. -/
def taken (size : Nat) (rows : List Record) (k : Nat) : Event :=
  .loadedBatch (.ofNat (k + 1)) (.ofNat (min ((k + 1) * size) rows.length))

/-- The loader has taken in the first `c` batches of a list. -/
structure After (loader : Loader σ) (size : Nat) (rows : List Record) (state : σ) (c : Nat)
    (p : Progress σ) : Prop where
  begun : ∀ k < c, k * size < rows.length
  handed : p.handed.toList = (List.range c).map (batch size rows)
  feed : p.feed.rest = rows.drop (c * size)
  stats : p.stats = { Stats.zero.countAll (rows.take (c * size)) with batches := .ofNat c }
  log : p.log.toList = (List.range c).map (taken size rows)
  state : p.state = p.handed.toList.foldl (fun s batch => (loader batch s).2) state
  buffer : p.buffer = #[]

theorem after_none (feed : Feed) : After loader size feed.rest state 0 (start feed state) := by
  refine ⟨?_, rfl, ?_, ?_, rfl, rfl, rfl⟩
  · intro k hk
    omega
  · simp [start]
  · simp [start, Stats.countAll, Stats.zero]

theorem after_start : After loader size rows state 0 (start (.ofList rows) state) := by
  have hrest : (Feed.ofList rows).rest = rows := by simp [Feed.ofList, Feed.rest, blocks_of_lt]
  have h : After loader size _ state 0 (start (.ofList rows) state) := after_none _
  rwa [hrest] at h

theorem After.hand {c : Nat} {p q : Progress σ} (h : After loader size rows state c p) {feed : Feed}
    (hne : p.feed.rest ≠ []) (hfeed : feed.rest = p.feed.rest.drop size)
    (hq : p.hand loader (p.feed.rest.take size) feed = (.ok (), q)) :
    After loader size rows state (c + 1) q := by
  obtain ⟨hok, rfl, hempty, hstats, hhanded, hlog⟩ := hand_eq_ok hq
  have hbatch : p.feed.rest.take size = batch size rows c := by rw [h.feed, batch]
  have hlt : c * size < rows.length := by
    rw [h.feed] at hne
    simpa using hne
  have hcounted : p.stats.countAll (batch size rows c) =
      { Stats.zero.countAll (rows.take ((c + 1) * size)) with batches := .ofNat c } := by
    rw [h.stats, Stats.countAll_batches, ← Stats.countAll_append, Nat.succ_mul, List.take_add,
      batch]
  have hnumber : p.stats.batches + 1 = .ofNat (c + 1) := by
    rw [h.stats, UInt64.ofNat_add]
    rfl
  have hrows : (p.stats.countAll (batch size rows c)).rows =
      .ofNat (min ((c + 1) * size) rows.length) := by
    have hz : Stats.zero.rows = 0 := rfl
    have := Stats.rows_countAll .zero (rows.take ((c + 1) * size))
    rw [hz, UInt64.zero_add, List.length_take] at this
    rw [hcounted, ← this]
    rfl
  rw [hbatch] at hok hstats hhanded hlog
  refine ⟨?_, ?_, ?_, ?_, ?_, ?_, hempty⟩
  · intro k hk
    have : k * size ≤ c * size := Nat.mul_le_mul_right size (by omega)
    omega
  · rw [hhanded, Array.toList_push, h.handed, List.range_succ, List.map_append]
    rfl
  · rw [hfeed, h.feed, List.drop_drop, Nat.succ_mul]
  · rw [hstats, hcounted, hnumber]
  · rw [hlog, Array.toList_push, h.log, List.range_succ, List.map_append, hnumber, hrows]
    rfl
  · rw [hhanded, Array.toList_push, List.foldl_append, ← h.state]
    simp [hok]

theorem After.run (hl : ∀ batch s, (loader batch s).1 = .ok ()) (hs : 0 < size) {c : Nat}
    {p : Progress σ} (h : After loader size rows state c p) :
    (p.run size loader).1 = .ok () ∧
      After loader size rows state ((rows.length + size - 1) / size) (p.run size loader).2 := by
  refine run_induction (P := fun p result q => ∀ c, After loader size rows state c p →
    result = .ok () ∧ After loader size rows state ((rows.length + size - 1) / size) q) hs
    ?_ ?_ ?_ p h.buffer c h
  · intro p hr c h
    have he : rows.length ≤ c * size := by
      rw [h.feed] at hr
      simpa using hr
    exact ⟨rfl, eq_batches hs h.begun he ▸ h⟩
  · intro p feed f q _ _ hq c h
    obtain ⟨g, hg, -⟩ := hand_eq_error hq
    have hok := hl (p.feed.rest.take size) p.state
    rw [hg] at hok
    cases hok
  · intro p feed q result r hne hfeed hq ih c h
    exact ih (c + 1) (h.hand hne hfeed hq)

theorem message_taken {k : Nat} (hn : rows.length < UInt64.size) (hk : k < rows.length)
    (took : String) : (taken size rows k).message took =
      s!"loaded batch {k + 1} ({min ((k + 1) * size) rows.length} rows so far)" := by
  have hmessage (number rows : UInt64) : (Event.loadedBatch number rows).message took =
      s!"loaded batch {number.toNat} ({rows.toNat} rows so far)" := rfl
  have hmin : min ((k + 1) * size) rows.length ≤ rows.length := Nat.min_le_right _ _
  rw [taken, hmessage, UInt64.toNat_ofNat_of_lt' (by omega), UInt64.toNat_ofNat_of_lt' (by omega)]

end Progress

/-- A loader that refuses nothing is given the rows in batches, and its state is what these make of
it. The counters are right, and one record of each batch is in the log. With batches that no buffer
can be made for, the load panics before anything is done. -/
theorem batches_chunk_rows {σ : Type} {loader : Loader σ}
    (hl : ∀ batch s, (loader batch s).1 = .ok ()) {rows : List Record}
    (hn : rows.length < UInt64.size) {size : Nat} (hs : 0 < size) (state : σ) :
    (size ≤ maxBatch → ∃ stats p, load size loader (.ofList rows) state = (.ok stats, p) ∧
      Chunked size rows p.handed.toList ∧
      p.state = p.handed.toList.foldl (fun s batch => (loader batch s).2) state ∧
      stats.Tell size rows ∧
      ∀ took, p.log.toList.map (Event.message took) =
        (List.range p.handed.size).map fun k =>
          s!"loaded batch {k + 1} ({min ((k + 1) * size) rows.length} rows so far)") ∧
    (maxBatch < size → load size loader (.ofList rows) state =
      (.error (.panic "capacity overflow"), .start (.ofList rows) state)) := by
  refine ⟨?_, fun hm => load_of_lt hm loader _ state⟩
  intro hm
  have hstart : Progress.After loader size rows state 0 (.start (.ofList rows) state) :=
    Progress.after_start
  obtain ⟨hok, hafter⟩ := hstart.run hl hs
  rw [load_of_le hs hm]
  cases hrun : (Progress.start (.ofList rows) state).run size loader with
  | mk result q =>
    rw [hrun] at hok hafter
    cases hok
    have hchunked : Chunked size rows q.handed.toList := hafter.handed ▸ chunked_map_batch hs
    refine ⟨q.stats, q, rfl, hchunked, hafter.state, ?_, ?_⟩
    · have hall : rows.take ((rows.length + size - 1) / size * size) = rows := by
        rw [← flatten_map_batch, ← hafter.handed, hchunked.flatten]
      rw [hafter.stats, hall]
      exact Stats.tell_countAll hn hs
    · intro took
      have hcount : q.handed.size = (rows.length + size - 1) / size := by
        rw [← Array.length_toList, hchunked.count]
      rw [hafter.log, hcount, List.map_map]
      refine List.map_congr_left fun k hk => ?_
      have hlt := (lt_batches_iff hs).mp (List.mem_range.mp hk)
      have hle := Nat.le_mul_of_pos_right k hs
      exact Progress.message_taken hn (by omega) took

def noteLengths : Loader (List Nat) := fun batch lengths => (.ok (), lengths ++ [batch.length])

/-- Five rows in batches of two. -/
theorem batches_chunk_rows_five :
    ∃ stats p, load 2 noteLengths (.ofList (.replicate 5 (.forwarding ⟨1, 1, 0, 8, "1"⟩))) [] =
        (.ok stats, p) ∧
      p.state = [2, 2, 1] ∧ stats.forwardings.toNat = 5 ∧ stats.batches.toNat = 3 ∧
      p.log.toList.map (Event.message "") = ["loaded batch 1 (2 rows so far)",
        "loaded batch 2 (4 rows so far)", "loaded batch 3 (5 rows so far)"] := by
  obtain ⟨stats, p, hload, hchunked, hstate, htell, hlog⟩ :=
    (@batches_chunk_rows _ noteLengths (fun _ _ => rfl)
      (.replicate 5 (.forwarding ⟨1, 1, 0, 8, "1"⟩)) (by decide) 2 (by decide) []).1 (by decide)
  have hsize : p.handed.size = 3 := hchunked.count
  refine ⟨stats, p, hload, ?_, htell.forwardings, htell.batches, ?_⟩
  · obtain ⟨a, b, c, h⟩ := List.length_eq_three.mp hchunked.count
    rw [h] at hstate hchunked
    have ha : a.length = 2 := hchunked.full a (by simp)
    have hb : b.length = 2 := hchunked.full b (by simp)
    have hc := congrArg List.length hchunked.flatten
    simp [ha, hb] at hc
    simp [hstate, noteLengths, ha, hb]
    omega
  · rw [hlog "", hsize]
    rfl

/-- The loader takes in every batch, but it is given none: no buffer can be made for the one row. -/
theorem batches_chunk_rows_tooLarge : (∀ batch s, (noteLengths batch s).1 = .ok ()) ∧
    load 0xffffffffffffffff noteLengths (.ofList [.forwarding ⟨1, 1, 0, 8, "1"⟩]) [] =
      (.error (.panic "capacity overflow"), .start (.ofList [.forwarding ⟨1, 1, 0, 8, "1"⟩]) []) :=
  ⟨fun _ _ => rfl, load_of_lt (by decide) _ _ _⟩

end StoreBench.Load
