import StoreBench.Load.Batches

/-! A loader is given all rows to come, in the least number of batches, unless it refuses one. -/
namespace StoreBench.Load

open Telecom

namespace Stats

theorem countAll_eq (s : Stats) (rows : List Record) : s.countAll rows =
    ⟨s.subscribers + .ofNat (rows.countP (·.table = .subscriber)),
      s.accessInfos + .ofNat (rows.countP (·.table = .accessInfo)),
      s.facilities + .ofNat (rows.countP (·.table = .specialFacility)),
      s.forwardings + .ofNat (rows.countP (·.table = .callForwarding)), s.batches⟩ := by
  induction rows generalizing s with
  | nil => simp [countAll]
  | cons r rows ih =>
    have h : s.countAll (r :: rows) = (s.count r).countAll rows := rfl
    rw [h, ih]
    cases r <;>
      simp [count, Record.table, UInt64.ofNat_add, UInt64.add_assoc, UInt64.add_comm 1]

theorem rows_countAll (s : Stats) (rows : List Record) :
    (s.countAll rows).rows = s.rows + .ofNat rows.length := by
  induction rows generalizing s with
  | nil => simp [countAll]
  | cons r rows ih =>
    have h : s.countAll (r :: rows) = (s.count r).countAll rows := rfl
    have hr : (s.count r).rows = s.rows + 1 := by
      cases r <;> simp only [count, Stats.rows] <;> ac_rfl
    rw [h, ih, hr, List.length_cons, UInt64.ofNat_add, UInt64.add_assoc, UInt64.add_comm 1]
    rfl

theorem countAll_append (s : Stats) (before after : List Record) :
    s.countAll (before ++ after) = (s.countAll before).countAll after := by
  simp [countAll]

theorem countAll_batches (s : Stats) (batches : UInt64) (rows : List Record) :
    { s with batches }.countAll rows = { s.countAll rows with batches } := by
  rw [countAll_eq, countAll_eq]

/-- The counters tell how many rows of each table there are, and how many batches of `size` rows all
of them need. -/
structure Tell (stats : Stats) (size : Nat) (rows : List Record) : Prop where
  subscribers : stats.subscribers.toNat = rows.countP (·.table = .subscriber)
  accessInfos : stats.accessInfos.toNat = rows.countP (·.table = .accessInfo)
  facilities : stats.facilities.toNat = rows.countP (·.table = .specialFacility)
  forwardings : stats.forwardings.toNat = rows.countP (·.table = .callForwarding)
  batches : stats.batches.toNat = (rows.length + size - 1) / size
  rows : stats.rows.toNat = rows.length

/-- No counter wraps around if the number of rows is a word. -/
theorem tell_countAll {rows : List Record} (hl : rows.length < UInt64.size) {size : Nat}
    (hs : 0 < size) :
    Tell { zero.countAll rows with batches := .ofNat ((rows.length + size - 1) / size) }
      size rows := by
  have hcount (table : Table) : (UInt64.ofNat (rows.countP (·.table = table))).toNat =
      rows.countP (·.table = table) := by
    have hle : rows.countP (·.table = table) ≤ rows.length := List.countP_le_length
    exact UInt64.toNat_ofNat_of_lt' (by omega)
  have hrows : (zero.countAll rows).rows.toNat = rows.length := by
    have hz : zero.rows = 0 := rfl
    rw [rows_countAll, hz, UInt64.zero_add]
    exact UInt64.toNat_ofNat_of_lt' hl
  have hbatches : (rows.length + size - 1) / size < rows.length + 1 := by
    have hm := Nat.le_mul_of_pos_right rows.length hs
    rw [Nat.div_lt_iff_lt_mul hs, Nat.add_mul]
    omega
  refine ⟨?_, ?_, ?_, ?_, UInt64.toNat_ofNat_of_lt' (by omega), hrows⟩
  all_goals simp only [countAll_eq, zero, UInt64.zero_add, hcount]

end Stats

theorem batches_succ {n size : Nat} (hn : 0 < n) (hs : 0 < size) :
    (n + size - 1) / size = (n - size + size - 1) / size + 1 := by
  by_cases h : size ≤ n
  · have : n + size - 1 = n - size + size - 1 + size := by omega
    rw [this, Nat.add_div_right _ hs]
  · have hz : n - size + size - 1 < size := by omega
    have : n + size - 1 = n - 1 + size := by omega
    rw [this, Nat.add_div_right _ hs, Nat.div_eq_of_lt hz, Nat.div_eq_of_lt (by omega)]

namespace Progress

variable {σ : Type} {loader : Loader σ}

/-- Counts some rows and hands them over, behind which the feed goes on with `feed`. -/
def hand (loader : Loader σ) (batch : List Record) (feed : Feed) (p : Progress σ) :
    Except Failure Unit × Progress σ :=
  { p with stats := p.stats.countAll batch, buffer := batch.toArray, feed }.flush loader

theorem hand_eq_ok {batch : List Record} {feed : Feed} {p q : Progress σ}
    (h : p.hand loader batch feed = (.ok (), q)) :
    loader batch p.state = (.ok (), q.state) ∧ q.feed = feed ∧ q.buffer = #[] ∧
      q.stats = { p.stats.countAll batch with batches := p.stats.batches + 1 } ∧
      q.handed = p.handed.push batch ∧
      q.log = p.log.push (.loadedBatch (p.stats.batches + 1) (p.stats.countAll batch).rows) := by
  unfold hand flush at h
  dsimp only at h
  cases hl : loader batch p.state with
  | mk result s =>
    rw [hl] at h
    cases result with
    | error f => cases congrArg Prod.fst h
    | ok _ =>
      obtain rfl := congrArg Prod.snd h
      have hb : (p.stats.countAll batch).batches = p.stats.batches := by rw [Stats.countAll_eq]
      rw [← hb]
      exact ⟨rfl, rfl, rfl, rfl, rfl, rfl⟩

theorem hand_eq_error {batch : List Record} {feed : Feed} {p q : Progress σ} {f : Failure}
    (h : p.hand loader batch feed = (.error f, q)) :
    ∃ g, loader batch p.state = (.error g, q.state) ∧
      f = g.during (.loadingBatch (p.stats.batches + 1) batch.length) ∧ q.feed = feed ∧
      q.handed = p.handed.push batch ∧ q.log = p.log := by
  unfold hand flush at h
  dsimp only at h
  cases hl : loader batch p.state with
  | mk result s =>
    rw [hl] at h
    cases result with
    | error g =>
      obtain ⟨hf, rfl⟩ := Prod.mk.inj h
      have hb : (p.stats.countAll batch).batches = p.stats.batches := by rw [Stats.countAll_eq]
      rw [← hb]
      exact ⟨g, rfl, (Except.error.inj hf).symm, rfl, rfl, rfl⟩
    | ok _ => cases congrArg Prod.fst h

theorem run_of_next? {p : Progress σ} {r : Record} {feed : Feed}
    (h : p.feed.next? = some (r, feed)) (size : Nat) :
    p.run size loader = match { p with feed }.take size loader r with
      | (.error f, q) => (.error f, q)
      | (.ok (), q) => q.run size loader := by
  rw [run]
  split
  · next hnone => cases hnone.symm.trans h
  · next hnext =>
    obtain ⟨rfl, rfl⟩ := Prod.mk.inj (Option.some.inj (hnext.symm.trans h))
    split <;> simp only [*]

theorem run_of_next?_eq_none {p : Progress σ} (h : p.feed.next? = none) (size : Nat) :
    p.run size loader = if p.buffer.isEmpty then (.ok (), p) else p.flush loader := by
  rw [run]
  split
  · rfl
  · next hnext => cases hnext.symm.trans h

section Collecting

variable {size : Nat} {p : Progress σ} {collected : List Record} {stats : Stats}

theorem flush_eq_hand (hb : p.buffer = collected.toArray)
    (hstats : p.stats = stats.countAll collected) :
    p.flush loader = { p with stats }.hand loader collected p.feed := by
  rw [hand, ← hstats, ← hb]

/-- At the end of the feed what is in the buffer is handed over, and then nothing is left to be
done. -/
theorem run_of_rest_eq_nil (hb : p.buffer = collected.toArray)
    (hstats : p.stats = stats.countAll collected) (hrest : p.feed.rest = [])
    (hne : collected ≠ []) :
    p.run size loader = match { p with stats }.hand loader collected p.feed with
      | (.error f, q) => (.error f, q)
      | (.ok (), q) => q.run size loader := by
  have hnone := Feed.next?_eq_none_iff.mpr hrest
  have hfull : p.buffer.isEmpty = false := by simp [hb, hne]
  rw [run_of_next?_eq_none hnone, hfull, if_neg Bool.false_ne_true, flush_eq_hand hb hstats]
  cases hq : { p with stats }.hand loader collected p.feed with
  | mk result q =>
    cases result with
    | error f => rfl
    | ok _ =>
      obtain ⟨-, hfeed, hempty, -⟩ := hand_eq_ok hq
      rw [← hfeed] at hnone
      simp [run_of_next?_eq_none hnone, hempty]

/-- A row that is taken comes behind those in the buffer, which may be full then. -/
theorem take_eq (hb : p.buffer = collected.toArray) (hstats : p.stats = stats.countAll collected)
    (r : Record) (feed : Feed) :
    { p with feed }.take size loader r =
      if collected.length + 1 = size then { p with stats }.hand loader (collected ++ [r]) feed
      else (.ok (), { p with
        feed
        stats := stats.countAll (collected ++ [r])
        buffer := (collected ++ [r]).toArray }) := by
  have hbuffer : p.buffer.push r = (collected ++ [r]).toArray := by simp [hb]
  have hcounted : p.stats.count r = stats.countAll (collected ++ [r]) := by
    rw [Stats.countAll_append, ← hstats]
    rfl
  have hsize : (collected ++ [r]).toArray.size = collected.length + 1 := by simp
  unfold take hand
  dsimp only
  rw [hbuffer, hcounted, hsize]

/-- With a buffer that is not full, a load is at its end, or hands over what the buffer and the next
rows make up. -/
theorem run_collected (hb : p.buffer = collected.toArray)
    (hstats : p.stats = stats.countAll collected) (hlt : collected.length < size) :
    let rows := collected ++ p.feed.rest
    (rows = [] ∧ p.run size loader = (.ok (), p)) ∨
    ∃ feed, rows ≠ [] ∧ feed.rest = rows.drop size ∧
      p.run size loader = match { p with stats }.hand loader (rows.take size) feed with
        | (.error f, q) => (.error f, q)
        | (.ok (), q) => q.run size loader := by
  -- The induction is on the rows to come, each of which makes the buffer longer by one.
  generalize hk : p.feed.rest.length = k
  induction k generalizing p collected with
  | zero =>
    have hrest : p.feed.rest = [] := List.length_eq_zero_iff.mp hk
    rw [hrest, List.append_nil]
    by_cases hne : collected = []
    · have hnone := Feed.next?_eq_none_iff.mpr hrest
      exact .inl ⟨hne, by simp [run_of_next?_eq_none hnone, hb, hne]⟩
    · refine .inr ⟨p.feed, hne, ?_, ?_⟩
      · rw [hrest, List.drop_of_length_le (Nat.le_of_lt hlt)]
      · rw [List.take_of_length_le (Nat.le_of_lt hlt)]
        exact run_of_rest_eq_nil hb hstats hrest hne
  | succ k ih =>
    cases hnext : p.feed.next? with
    | none => simp [Feed.next?_eq_none hnext] at hk
    | some g =>
      obtain ⟨r, feed⟩ := g
      right
      have hrest := Feed.rest_of_next? hnext
      have hrows : collected ++ p.feed.rest = collected ++ [r] ++ feed.rest := by simp [hrest]
      have hlength : (collected ++ [r]).length = collected.length + 1 := by simp
      rw [hrest, List.length_cons, Nat.add_right_cancel_iff] at hk
      rw [run_of_next? hnext, take_eq hb hstats, hrows]
      by_cases hfull : collected.length + 1 = size
      · rw [if_pos hfull]
        rw [← hlength] at hfull
        exact ⟨feed, by simp, by rw [List.drop_left' hfull], by rw [List.take_left' hfull]⟩
      · let q := { p with
          feed
          stats := stats.countAll (collected ++ [r])
          buffer := (collected ++ [r]).toArray }
        have hlt : (collected ++ [r]).length < size := by omega
        rw [if_neg hfull]
        rcases ih (p := q) rfl rfl hlt hk with ⟨hnil, -⟩ | h
        · simp at hnil
        · exact h

end Collecting

/-- A load either is at its end, or hands over a batch that is refused, or hands over one that is
taken and goes on from there. -/
theorem run_induction {size : Nat} (hs : 0 < size)
    {P : Progress σ → Except Failure Unit → Progress σ → Prop}
    (stop : ∀ p, p.feed.rest = [] → P p (.ok ()) p)
    (refuse : ∀ p feed f q, p.feed.rest ≠ [] → feed.rest = p.feed.rest.drop size →
      p.hand loader (p.feed.rest.take size) feed = (.error f, q) → P p (.error f) q)
    (go : ∀ p feed q result r, p.feed.rest ≠ [] → feed.rest = p.feed.rest.drop size →
      p.hand loader (p.feed.rest.take size) feed = (.ok (), q) → P q result r → P p result r)
    (p : Progress σ) (hp : p.buffer = #[]) : P p (p.run size loader).1 (p.run size loader).2 := by
  -- Every batch leaves fewer rows to come.
  generalize hk : p.feed.rest.length = k
  induction k using Nat.strongRecOn generalizing p with
  | ind k ih =>
    have hstart : p.buffer = ([] : List Record).toArray := hp
    rcases run_collected hstart rfl hs with
      ⟨hrest, hrun⟩ | ⟨feed, hne, hfeed, hrun⟩
    · rw [hrun]
      exact stop p hrest
    · rw [List.nil_append] at hne hfeed hrun
      rw [hrun]
      cases hq : p.hand loader (p.feed.rest.take size) feed with
      | mk result q =>
        cases result with
        | error f => exact refuse p feed f q hne hfeed hq
        | ok _ =>
          obtain ⟨-, rfl, hempty, -⟩ := hand_eq_ok hq
          have hlt : q.feed.rest.length < k := by
            have hpos := List.length_pos_iff.mpr hne
            rw [hfeed, List.length_drop]
            omega
          exact go p q.feed q _ _ hne hfeed hq (ih _ hlt q hempty rfl)

/-- How a load ends that begins at `p`, if `Ready rows s` is known of a loader in the state `s` with
`rows` still to come: all rows have been taken and counted, or the loader has refused a batch. -/
inductive Ends (loader : Loader σ) (Ready : List Record → σ → Prop) (size : Nat) (p : Progress σ) :
    Except Failure Unit → Progress σ → Prop where
  | taken {q : Progress σ} (hq : Ready [] q.state)
      (hstats : q.stats = { p.stats.countAll p.feed.rest with
        batches := p.stats.batches + .ofNat ((p.feed.rest.length + size - 1) / size) }) :
      Ends loader Ready size p (.ok ()) q
  | refused {batch rest : List Record} {s : σ} {g : Failure} {number : UInt64} {q : Progress σ}
      (hs : Ready (batch ++ rest) s) (hg : loader batch s = (.error g, q.state)) :
      Ends loader Ready size p (.error (g.during (.loadingBatch number batch.length))) q

variable {Ready : List Record → σ → Prop} {size : Nat}

/-- What is counted from the second batch on, and the first batch, are all. -/
theorem Ends.prepend {p q r : Progress σ} {result : Except Failure Unit} (hs : 0 < size)
    (hne : p.feed.rest ≠ []) (hfeed : q.feed.rest = p.feed.rest.drop size)
    (hstats : q.stats = { p.stats.countAll (p.feed.rest.take size) with
      batches := p.stats.batches + 1 })
    (h : Ends loader Ready size q result r) : Ends loader Ready size p result r := by
  cases h with
  | refused hready hg => exact .refused hready hg
  | taken hready hcounted =>
    refine .taken hready ?_
    have hn : 0 < p.feed.rest.length := List.length_pos_iff.mpr hne
    rw [hcounted, hstats, hfeed, Stats.countAll_batches, ← Stats.countAll_append,
      List.take_append_drop, List.length_drop, batches_succ hn hs]
    simp [UInt64.ofNat_add, UInt64.add_assoc, UInt64.add_comm 1]

theorem run_ends (hkeep : ∀ batch rest s t, Ready (batch ++ rest) s →
      loader batch s = (.ok (), t) → Ready rest t)
    (hs : 0 < size) {p : Progress σ} (hp : Ready p.feed.rest p.state) (hb : p.buffer = #[]) :
    Ends loader Ready size p (p.run size loader).1 (p.run size loader).2 := by
  refine run_induction (P := fun p result q => Ready p.feed.rest p.state →
    Ends loader Ready size p result q) hs ?_ ?_ ?_ p hb hp
  · intro p hr hready
    have hz : (size - 1) / size = 0 := Nat.div_eq_of_lt (by omega)
    rw [hr] at hready
    exact .taken hready (by simp [hr, hz, Stats.countAll])
  · intro p feed f q _ _ hq hready
    obtain ⟨g, hg, rfl, -⟩ := hand_eq_error hq
    rw [← List.take_append_drop size p.feed.rest] at hready
    exact .refused hready hg
  · intro p feed q result r hne hrest hq ih hready
    obtain ⟨hok, rfl, -, hstats, -⟩ := hand_eq_ok hq
    rw [← List.take_append_drop size p.feed.rest] at hready
    have hnext := hkeep _ _ _ _ hready hok
    rw [← hrest] at hnext
    exact (ih hnext).prepend hs hne hrest hstats

end Progress

theorem load_of_le {σ : Type} {size : Nat} (hs : 0 < size) (hm : size ≤ maxBatch)
    (loader : Loader σ) (feed : Feed) (state : σ) : load size loader feed state =
      match (Progress.start feed state).run size loader with
      | (.error f, p) => (.error (.failure f), p)
      | (.ok (), p) => (.ok p.stats, p) :=
  (if_neg (Nat.ne_of_gt hs)).trans (if_neg (Nat.not_lt_of_le hm))

theorem load_of_lt {σ : Type} {size : Nat} (hm : maxBatch < size) (loader : Loader σ) (feed : Feed)
    (state : σ) :
    load size loader feed state = (.error .capacityOverflow, .start feed state) := by
  rw [load, if_neg (Nat.ne_of_gt (Nat.zero_lt_of_lt hm)), if_pos hm]

end StoreBench.Load
