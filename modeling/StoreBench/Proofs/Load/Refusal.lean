import StoreBench.Proofs.Load.Chunks

/-!
The first batch that a loader refuses ends the load: nothing behind it is taken from the feed, and
the failure says which batch it was.
-/
namespace StoreBench.Load

open Telecom

section Refusal

variable {σ : Type} (loader : Loader σ) (size : Nat) (rows : List Record) (state : σ)

/-- What becomes of a loader that is given the first `k` batches of a list, whatever it says to
them. -/
def given (k : Nat) : σ :=
  ((List.range k).map (batch size rows)).foldl (fun s batch => (loader batch s).2) state

theorem given_succ (k : Nat) : given loader size rows state (k + 1) =
    (loader (batch size rows k) (given loader size rows state k)).2 := by
  unfold given
  rw [List.range_succ, List.map_append, List.foldl_append]
  rfl

/-- Batch `k`, counted from 0, is the first that a loader refuses. -/
structure RefusesFirst (k : Nat) (e : Failure) : Prop where
  begins : k * size < rows.length
  takes : ∀ j < k, (loader (batch size rows j) (given loader size rows state j)).1 = .ok ()
  refuses : (loader (batch size rows k) (given loader size rows state k)).1 = .error e

def refusal (k : Nat) (e : Failure) : Failure :=
  e.during (.loadingBatch (.ofNat (k + 1)) (min size (rows.length - k * size)))

theorem chain_refusal {k : Nat} (hk : k + 1 < UInt64.size) (e : Failure) :
    (refusal size rows k e).chain =
      s!"loading batch {k + 1} ({min size (rows.length - k * size)} records)" :: e.chain := by
  have hmessage (number : UInt64) (n : Nat) : (Activity.loadingBatch number n).message =
      s!"loading batch {number.toNat} ({n} records)" := rfl
  rw [refusal, Failure.chain_during, hmessage, UInt64.toNat_ofNat_of_lt' hk]

end Refusal

namespace Progress

variable {σ : Type} {loader : Loader σ} {size : Nat} {rows : List Record} {state : σ}

/-- Batch `k` has been handed over, all before it have been taken in, and nothing more has been
done. -/
structure Halted (loader : Loader σ) (size : Nat) (rows : List Record) (state : σ) (k : Nat)
    (p : Progress σ) : Prop where
  handed : p.handed.toList = (List.range (k + 1)).map (batch size rows)
  feed : p.feed.rest = rows.drop ((k + 1) * size)
  log : p.log.toList = (List.range k).map (taken size rows)
  state : p.state = given loader size rows state (k + 1)

theorem After.state_eq {c : Nat} {p : Progress σ} (h : After loader size rows state c p) :
    p.state = given loader size rows state c := by
  rw [h.state, h.handed]
  rfl

theorem After.halted {k : Nat} {e f : Failure} {p q : Progress σ}
    (h : After loader size rows state k p) (hk : RefusesFirst loader size rows state k e)
    {feed : Feed} (hfeed : feed.rest = p.feed.rest.drop size)
    (hq : p.hand loader (p.feed.rest.take size) feed = (.error f, q)) :
    f = refusal size rows k e ∧ Halted loader size rows state k q := by
  obtain ⟨g, hg, rfl, rfl, hhanded, hlog⟩ := hand_eq_error hq
  have hbatch : p.feed.rest.take size = batch size rows k := by rw [h.feed, batch]
  have hnumber : p.stats.batches + 1 = .ofNat (k + 1) := by
    rw [h.stats, UInt64.ofNat_add]
    rfl
  rw [hbatch, h.state_eq] at hg
  have hge : g = e := by
    have hrefuses := hk.refuses
    rw [hg] at hrefuses
    exact Except.error.inj hrefuses
  constructor
  · rw [refusal, hbatch, length_batch, hnumber, hge]
  · refine ⟨?_, ?_, ?_, ?_⟩
    · rw [hhanded, hbatch, Array.toList_push, h.handed, List.range_succ, List.map_append]
      rfl
    · rw [hfeed, h.feed, List.drop_drop, Nat.succ_mul]
    · rw [hlog, h.log]
    · rw [given_succ, hg]

theorem After.run_refused {k : Nat} {e : Failure} (hs : 0 < size)
    (hk : RefusesFirst loader size rows state k e) {c : Nat} {p : Progress σ} (hc : c ≤ k)
    (h : After loader size rows state c p) :
    (p.run size loader).1 = .error (refusal size rows k e) ∧
      Halted loader size rows state k (p.run size loader).2 := by
  refine run_induction (P := fun p result q => ∀ c ≤ k, After loader size rows state c p →
    result = .error (refusal size rows k e) ∧ Halted loader size rows state k q) hs
    ?_ ?_ ?_ p h.buffer c hc h
  · -- The feed is not at its end before batch `k` begins.
    intro p hr c hc h
    have hend : rows.length ≤ c * size := by
      rw [h.feed] at hr
      simpa using hr
    have hle : c * size ≤ k * size := Nat.mul_le_mul_right size hc
    have hbegins := hk.begins
    omega
  · intro p feed f q hne hfeed hq c hc h
    have hck : c = k := by
      by_contra hne
      have htakes := hk.takes c (by omega)
      obtain ⟨g, hg, -⟩ := hand_eq_error hq
      rw [h.state_eq, h.feed] at hg
      rw [batch, hg] at htakes
      cases htakes
    subst hck
    obtain ⟨rfl, hhalted⟩ := h.halted hk hfeed hq
    exact ⟨rfl, hhalted⟩
  · intro p feed q result r hne hfeed hq ih c hc h
    have hck : c ≠ k := by
      rintro rfl
      have hrefuses := hk.refuses
      obtain ⟨hok, -⟩ := hand_eq_ok hq
      rw [h.state_eq, h.feed] at hok
      rw [batch, hok] at hrefuses
      cases hrefuses
    exact ih (c + 1) (by omega) (h.hand hne hfeed hq)

end Progress

/-- The first batch that a loader refuses ends the load. The failure names it and tells how many
rows it has. The loader was given that batch and those before it, only their rows have left the
feed, and the log has one record of each batch that was taken in. A load in batches of no rows
fails before anything is done, and one in batches that no buffer can be made for panics before
that. -/
theorem refused_batch_ends_load {σ : Type} (loader : Loader σ) (feed : Feed) (state : σ) :
    (∃ f, load 0 loader feed state = (.error (.failure f), .start feed state) ∧
      f.chain = ["batch size must be positive"]) ∧
    (∀ size, maxBatch < size → load size loader feed state =
      (.error (.panic "capacity overflow"), .start feed state)) ∧
    ∀ (size k : Nat) (e : Failure), 0 < size → size ≤ maxBatch →
      feed.rest.length < UInt64.size → RefusesFirst loader size feed.rest state k e →
      ∃ f p, load size loader feed state = (.error (.failure f), p) ∧
        f.chain =
          s!"loading batch {k + 1} ({min size (feed.rest.length - k * size)} records)" :: e.chain ∧
        p.handed.toList = (List.range (k + 1)).map (batch size feed.rest) ∧
        p.state = given loader size feed.rest state (k + 1) ∧
        p.feed.rest = feed.rest.drop (min ((k + 1) * size) feed.rest.length) ∧
        ∀ took, p.log.toList.map (Event.message took) = (List.range k).map fun j =>
          s!"loaded batch {j + 1} ({min ((j + 1) * size) feed.rest.length} rows so far)" := by
  refine ⟨⟨_, rfl, rfl⟩, fun size hm => load_of_lt hm loader feed state, ?_⟩
  intro size k e hs hm hn hk
  have hstart : Progress.After loader size feed.rest state 0 (.start feed state) :=
    Progress.after_none feed
  obtain ⟨hfails, hhalted⟩ := hstart.run_refused hs hk (Nat.zero_le k)
  rw [load_of_le hs hm]
  cases hrun : (Progress.start feed state).run size loader with
  | mk result q =>
    rw [hrun] at hfails hhalted
    cases hfails
    have hle : k ≤ k * size := Nat.le_mul_of_pos_right k hs
    have hbegins := hk.begins
    refine ⟨_, q, rfl, chain_refusal size feed.rest (by omega) e, hhalted.handed, hhalted.state,
      ?_, ?_⟩
    · rw [hhalted.feed]
      by_cases h : (k + 1) * size ≤ feed.rest.length
      · rw [Nat.min_eq_left h]
      · rw [Nat.min_eq_right (by omega), List.drop_eq_nil_of_le (by omega), List.drop_length]
    · intro took
      rw [hhalted.log, List.map_map]
      refine List.map_congr_left fun j hj => ?_
      have hjk := List.mem_range.mp hj
      exact Progress.message_taken hn (by omega) took

/-- Takes in `n` batches and no more. It keeps count of what it is given. -/
def takesOnly (n : Nat) : Loader Nat := fun _ calls =>
  (if calls < n then .ok () else .error (.ofCause (.reported "disk full")), calls + 1)

theorem given_takesOnly (n size k : Nat) (rows : List Record) :
    given (takesOnly n) size rows 0 k = k := by
  induction k with
  | zero => rfl
  | succ k ih =>
    rw [given_succ, ih]
    rfl

/-- Of five rows in batches of two, the second batch is refused, or else the last one, which has one
row. -/
theorem refused_batch_ends_load_five :
    let feed := Feed.ofList (.replicate 5 (.forwarding ⟨1, 1, 0, 8, "1"⟩))
    (∃ f p, load 2 (takesOnly 1) feed 0 = (.error (.failure f), p) ∧
      f.chain = ["loading batch 2 (2 records)", "disk full"] ∧ p.state = 2 ∧
      p.feed.rest.length = 1 ∧
      p.log.toList.map (Event.message "") = ["loaded batch 1 (2 rows so far)"]) ∧
    ∃ f p, load 2 (takesOnly 2) feed 0 = (.error (.failure f), p) ∧
      f.chain = ["loading batch 3 (1 records)", "disk full"] ∧ p.state = 3 ∧
      p.feed.rest.length = 0 := by
  intro feed
  have hrest : feed.rest.length = 5 := by simp [feed, Feed.ofList, Feed.rest, blocks_of_lt]
  have hfirst (n : Nat) (hn : n < 3) : RefusesFirst (takesOnly n) 2 feed.rest 0 n
      (.ofCause (.reported "disk full")) := by
    refine ⟨by omega, ?_, ?_⟩
    · intro j hj
      rw [given_takesOnly]
      exact if_pos hj
    · rw [given_takesOnly]
      exact if_neg (Nat.lt_irrefl n)
  have hends (n : Nat) (hn : n < 3) := (refused_batch_ends_load (takesOnly n) feed 0).2.2 2 n _
    (by decide) (by decide) (by rw [hrest]; decide) (hfirst n hn)
  constructor
  · obtain ⟨f, p, hload, hchain, -, hstate, hfeed, hlog⟩ := hends 1 (by decide)
    rw [hrest] at hchain hfeed hlog
    rw [given_takesOnly] at hstate
    exact ⟨f, p, hload, hchain, hstate, by rw [hfeed, List.length_drop, hrest]; rfl, hlog ""⟩
  · obtain ⟨f, p, hload, hchain, -, hstate, hfeed, -⟩ := hends 2 (by decide)
    rw [hrest] at hchain hfeed
    rw [given_takesOnly] at hstate
    exact ⟨f, p, hload, hchain, hstate, by rw [hfeed, List.length_drop, hrest]; rfl⟩

/-- The loader would refuse the first batch, but it is given none: no buffer can be made for it. -/
theorem refused_batch_ends_load_tooLarge :
    let feed := Feed.ofList [.forwarding ⟨1, 1, 0, 8, "1"⟩]
    RefusesFirst (takesOnly 0) 0xffffffffffffffff feed.rest 0 0
        (.ofCause (.reported "disk full")) ∧
      load 0xffffffffffffffff (takesOnly 0) feed 0 =
        (.error (.panic "capacity overflow"), .start feed 0) := by
  intro feed
  refine ⟨⟨?_, ?_, rfl⟩, load_of_lt (by decide) _ _ _⟩
  · simp [feed, Feed.ofList, Feed.rest, blocks_of_lt]
  · intro j hj
    omega

end StoreBench.Load
