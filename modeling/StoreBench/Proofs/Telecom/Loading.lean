import StoreBench.Proofs.Load.Batches
import StoreBench.Proofs.Telecom.Columns
import StoreBench.Proofs.Telecom.Insertion
import StoreBench.Proofs.Telecom.Population
import StoreBench.Telecom.Loading

/-! A load puts the whole population into the tables, and nothing else. -/
namespace StoreBench.Telecom

open StoreBench.Load

def Tables.loaded (n : UInt64) : Tables := empty.addAll (population n)

theorem Tables.records_loaded (n : UInt64) : (loaded n).records.Perm (population n) :=
  empty.records_addAll (population n)

/-- A transaction on empty tables, before anything is written. -/
def Draft.begun : Draft := (ofTables .empty).begin

/-- Whatever rows are still to come, they make of the tables what the population makes of empty
ones, and until then there is a way back to these. -/
structure Draft.Due (foreignKeys : Bool) (n : UInt64) (rows : List Record) (d : Draft) : Prop where
  saved : d.saved = some .empty
  rest : d.takeAll foreignKeys rows = begun.takeAll foreignKeys (population n)

theorem Draft.Due.of_takeAll {foreignKeys : Bool} {n : UInt64} {batch rest : List Record}
    {d e : Draft} (h : d.Due foreignKeys n (batch ++ rest))
    (he : d.takeAll foreignKeys batch = (.ok (), e)) : e.Due foreignKeys n rest := by
  constructor
  · have hsaved := saved_takeAll foreignKeys d batch
    rwa [he, h.saved] at hsaved
  · rw [← h.rest, takeAll_append, he]

namespace Store

section Ending

variable (foreignKeys : Bool) (n : UInt64) (size : Nat) (s : Store)

theorem load_eq : s.load foreignKeys n size =
    match Load.load size (fun batch d => d.takeAll foreignKeys batch) (.population n)
      Draft.begun with
    | (.error a, p) => (.error a, p.log.toList, ofTables p.state.leave)
    | (.ok stats, p) =>
      (.ok stats, p.log.toList ++ [.loadedPopulation stats.subscribers stats.rows],
        ofTables p.state.tables) := by
  have hloader : Draft.loader .free foreignKeys = fun batch d => d.takeAll foreignKeys batch := rfl
  have hbegun : (Draft.ofTables (ofTables .empty).tables).begin = .begun := rfl
  rw [load, recreate_eq]
  dsimp only
  rw [gate_ofTables, hloader, hbegun]
  cases Load.load size (fun batch d => Draft.takeAll foreignKeys batch d) (.population n)
    Draft.begun with
  | mk result p => cases result <;> rfl

/-- What a load comes to does not depend on its batches, nor on what was in the database: the whole
population is inserted into empty tables, or everything is undone. -/
theorem load_eq_takeAll :
    (size = 0 ∧ s.load foreignKeys n size =
      (.error (.failure (.ofCause .zeroBatchSize)), [], ofTables .empty)) ∨
    (maxBatch < size ∧
      s.load foreignKeys n size = (.error .capacityOverflow, [], ofTables .empty)) ∨
    (0 < size ∧ size ≤ maxBatch ∧ ∃ d log,
      Draft.begun.takeAll foreignKeys (population n) = (.ok (), d) ∧
      s.load foreignKeys n size =
        (.ok { Stats.zero.countAll (population n) with
          batches := .ofNat (((population n).length + size - 1) / size) }, log,
          ofTables d.tables)) ∨
    (0 < size ∧ size ≤ maxBatch ∧ ∃ g d number rows log,
      Draft.begun.takeAll foreignKeys (population n) = (.error g, d) ∧
      s.load foreignKeys n size =
        (.error (.failure (g.during (.loadingBatch number rows))), log, ofTables .empty)) := by
  rw [load_eq]
  by_cases hs : size = 0
  · exact .inl ⟨hs, by rw [Load.load, if_pos hs]; rfl⟩
  right
  by_cases hm : maxBatch < size
  · exact .inl ⟨hm, by rw [load_of_lt hm]; rfl⟩
  right
  have hpos : 0 < size := Nat.pos_of_ne_zero hs
  have hle : size ≤ maxBatch := Nat.le_of_not_lt hm
  rw [load_of_le hpos hle]
  have hstart : Draft.begun.Due foreignKeys n (population n) := ⟨rfl, rfl⟩
  have hkeep (batch rest : List Record) (d e : Draft) (hd : d.Due foreignKeys n (batch ++ rest))
      (he : d.takeAll foreignKeys batch = (.ok (), e)) : e.Due foreignKeys n rest :=
    hd.of_takeAll he
  have hends := Progress.run_ends hkeep hpos (p := .start (.population n) Draft.begun) hstart rfl
  cases hrun : (Progress.start (.population n) Draft.begun).run size
    (fun batch d => d.takeAll foreignKeys batch) with
  | mk result q =>
    rw [hrun] at hends
    dsimp only at hends
    cases hends with
    | taken hdone hstats =>
      have hstats : q.stats = { Stats.zero.countAll (population n) with
          batches := .ofNat (((population n).length + size - 1) / size) } := by
        simpa [Progress.start, Feed.rest, Feed.population, Stats.zero, population] using hstats
      refine .inl ⟨hpos, hle, q.state,
        q.log.toList ++ [.loadedPopulation q.stats.subscribers q.stats.rows], hdone.rest.symm, ?_⟩
      simp only [hstats]
    | @refused batch rest d g number _ hdue hg =>
      have hleave : q.state.leave = .empty := by
        have hsaved := Draft.saved_takeAll foreignKeys d batch
        rw [hg, hdue.saved] at hsaved
        rw [Draft.leave, hsaved, Option.getD_some]
      refine .inr ⟨hpos, hle, g, q.state, number, batch.length, q.log.toList, ?_, ?_⟩
      · rw [← hdue.rest, Draft.takeAll_append, hg]
      · simp only [hleave]

/-- A load takes the whole population if all ids fit; otherwise it reports one that does not. -/
theorem load_cases :
    (size = 0 ∧ s.load foreignKeys n size =
      (.error (.failure (.ofCause .zeroBatchSize)), [], ofTables .empty)) ∨
    (maxBatch < size ∧
      s.load foreignKeys n size = (.error .capacityOverflow, [], ofTables .empty)) ∨
    (0 < size ∧ size ≤ maxBatch ∧ (∀ r ∈ population n, fits r.owner = true) ∧
      ∃ log, s.load foreignKeys n size =
        (.ok { Stats.zero.countAll (population n) with
          batches := .ofNat (((population n).length + size - 1) / size) }, log,
          ofTables (.loaded n))) ∨
    (0 < size ∧ size ≤ maxBatch ∧ ∃ r ∈ population n, ∃ f number rows log,
      unfit? r.owner = some f ∧
      s.load foreignKeys n size =
        (.error (.failure ((f.during (.inserting r.table r.owner)).during
          (.loadingBatch number rows))), log, ofTables .empty)) := by
  have horderly : Orderly ([] ++ population n) := population_orderly n
  have hlength : ∀ r ∈ population n, r.length ≤ maxLength := fun _ => length_le_of_mem_population
  have hall := Draft.takeAll_orderly (d := .begun) foreignKeys horderly hlength .nil
  rcases s.load_eq_takeAll foreignKeys n size with
    h | h | ⟨hs, hm, d, log, hd, hload⟩ | ⟨hs, hm, g, d, number, rows, log, hd, hload⟩
  · exact .inl h
  · exact .inr (.inl h)
  · rcases hall with ⟨hfits, hok⟩ | ⟨r, hr, f, e, hf, hfail⟩
    · obtain rfl : d = _ := congrArg Prod.snd (hd.symm.trans hok)
      exact .inr (.inr (.inl ⟨hs, hm, hfits, log, hload⟩))
    · cases congrArg Prod.fst (hd.symm.trans hfail)
  · rcases hall with ⟨hfits, hok⟩ | ⟨r, hr, f, e, hf, hfail⟩
    · cases congrArg Prod.fst (hd.symm.trans hok)
    · obtain rfl : g = f.during (.inserting r.table r.owner) :=
        Except.error.inj (congrArg Prod.fst (hd.symm.trans hfail))
      exact .inr (.inr (.inr ⟨hs, hm, r, hr, f, number, rows, log, hf, hload⟩))

end Ending

theorem load_of_fits {n : UInt64} {size : Nat} (hfits : ∀ r ∈ population n, fits r.owner = true)
    (hs : 0 < size) (hm : size ≤ maxBatch) (foreignKeys : Bool) (s : Store) :
    ∃ log, s.load foreignKeys n size =
      (.ok { Stats.zero.countAll (population n) with
        batches := .ofNat (((population n).length + size - 1) / size) }, log,
        ofTables (.loaded n)) := by
  rcases s.load_cases foreignKeys n size with
    ⟨h0, -⟩ | ⟨hlt, -⟩ | ⟨-, -, -, log, h⟩ | ⟨-, -, r, hr, f, _, _, _, hf, -⟩
  · exact absurd h0 (Nat.ne_of_gt hs)
  · exact absurd hm (Nat.not_le_of_lt hlt)
  · exact ⟨log, h⟩
  · simp [unfit?, hfits r hr] at hf

theorem load_of_tooLarge {size : Nat} (hm : maxBatch < size) (foreignKeys : Bool) (n : UInt64)
    (s : Store) :
    s.load foreignKeys n size = (.error .capacityOverflow, [], ofTables .empty) := by
  rw [load_eq, load_of_lt hm]
  rfl

/-- However many subscribers there are, a load that succeeds leaves the rows of the population. -/
theorem eq_loaded_of_load {foreignKeys : Bool} {s u : Store} {n : UInt64} {size : Nat}
    {stats : Stats} {log : List Event}
    (h : s.load foreignKeys n size = (.ok stats, log, u)) : u = ofTables (.loaded n) := by
  rcases s.load_cases foreignKeys n size with
    ⟨-, he⟩ | ⟨-, he⟩ | ⟨-, -, -, _, he⟩ | ⟨-, -, r, -, f, _, _, _, -, he⟩
  · cases congrArg Prod.fst (h.symm.trans he)
  · cases congrArg Prod.fst (h.symm.trans he)
  · exact congrArg (·.2.2) (h.symm.trans he)
  · cases congrArg Prod.fst (h.symm.trans he)

end Store

theorem Tables.length_records (t : Tables) : t.records.length =
    (t.recordsOf .subscriber).length + (t.recordsOf .accessInfo).length +
      (t.recordsOf .specialFacility).length + (t.recordsOf .callForwarding).length := by
  simp [records, recordsOf, Nat.add_assoc]

/-- The statistics of a load tell how many rows each table has. -/
structure Counted (stats : Stats) (size : Nat) (t : Tables) : Prop where
  subscribers : stats.subscribers.toNat = (t.recordsOf .subscriber).length
  accessInfos : stats.accessInfos.toNat = (t.recordsOf .accessInfo).length
  facilities : stats.facilities.toNat = (t.recordsOf .specialFacility).length
  forwardings : stats.forwardings.toNat = (t.recordsOf .callForwarding).length
  rows : stats.rows.toNat = (t.recordsOf .subscriber).length + (t.recordsOf .accessInfo).length +
    (t.recordsOf .specialFacility).length + (t.recordsOf .callForwarding).length
  batches : stats.batches.toNat = (stats.rows.toNat + size - 1) / size

theorem Counted.of_tell {stats : Stats} {size : Nat} {rows : List Record} {t : Tables}
    (h : stats.Tell size rows) (hp : t.records.Perm rows) : Counted stats size t := by
  have hcount (table : Table) : rows.countP (·.table = table) = (t.recordsOf table).length := by
    rw [t.recordsOf_eq, ← List.countP_eq_length_filter]
    exact (hp.countP_eq _).symm
  have hsum := t.length_records
  rw [hp.length_eq, ← h.rows] at hsum
  have hbatches := h.batches
  rw [← h.rows] at hbatches
  exact ⟨h.subscribers.trans (hcount _), h.accessInfos.trans (hcount _),
    h.facilities.trans (hcount _), h.forwardings.trans (hcount _), hsum, hbatches⟩

theorem length_population_lt {n : UInt64} (hn : n.toNat ≤ Nat.pow 2 59) :
    (population n).length < UInt64.size := by
  have := length_population_le n
  have : 21 * Nat.pow 2 59 < UInt64.size := by decide
  omega

/-- Whatever was in the database before, a load succeeds and leaves the rows of the population. -/
theorem Store.load_ok {n : UInt64} {size : Nat} (hn : n.toNat ≤ Nat.pow 2 59) (hs : 0 < size)
    (hm : size ≤ maxBatch) (foreignKeys : Bool) (s : Store) :
    ∃ stats log t, s.load foreignKeys n size = (.ok stats, log, .ofTables t) ∧
      t.records.Perm (population n) ∧ Counted stats size t := by
  have hfits : ∀ r ∈ population n, fits r.owner = true := fun r hr =>
    fits_of_le hn (mem_population.mp hr).2.1
  obtain ⟨log, hload⟩ := s.load_of_fits hfits hs hm foreignKeys
  have htell := Stats.tell_countAll (length_population_lt hn) hs
  exact ⟨_, log, .loaded n, hload, Tables.records_loaded n,
    .of_tell htell (Tables.records_loaded n)⟩

/-- After a load, whatever was in the database before, each table has the rows of the population
that belong there, each of them once. All that a row says can be read from its columns. The
statistics are right, and there are no more batches than these rows need. A load in batches that no
buffer can be made for panics, and leaves empty tables. -/
theorem load_reproduces_population {n : UInt64} {size : Nat} (hn : n.toNat ≤ Nat.pow 2 59)
    (hs : 0 < size) (foreignKeys : Bool) (s : Store) :
    (size ≤ maxBatch →
      ∃ stats log t, s.load foreignKeys n size = (.ok stats, log, .ofTables t) ∧
        (∀ table, (t.recordsOf table).Perm ((population n).filter (·.table = table))) ∧
        (∀ table, ∀ r ∈ t.recordsOf table,
          r.Readable ∧ Record.ofCells? table r.cells = some r) ∧
        Counted stats size t) ∧
    (maxBatch < size → s.load foreignKeys n size =
      (.error (.panic "capacity overflow"), [], .ofTables .empty)) := by
  refine ⟨?_, fun hm => Store.load_of_tooLarge hm foreignKeys n s⟩
  intro hm
  obtain ⟨stats, log, t, hload, hperm, hcounted⟩ := Store.load_ok hn hs hm foreignKeys s
  refine ⟨stats, log, t, hload, ?_, ?_, hcounted⟩
  · intro table
    rw [t.recordsOf_eq]
    exact hperm.filter _
  · intro table r hr
    rw [t.recordsOf_eq, List.mem_filter] at hr
    obtain rfl : r.table = table := by simpa using hr.2
    exact ⟨r.readable, r.ofCells?_cells⟩

/-- A database that lacks a table and has rows of no population in the others. -/
def leftover : Store :=
  ⟨some [⟨7, "7", .replicate 10 false, .replicate 10 0, .replicate 10 0, 1, 1⟩], none,
    some [⟨1, 1, true, 0, 0, "AAAAA"⟩], some [⟨1, 1, 0, 24, "1"⟩]⟩

theorem load_reproduces_population_leftover :
    ∃ stats log t, leftover.load true 3 2 = (.ok stats, log, .ofTables t) ∧
      (∀ table, (t.recordsOf table).Perm ((population 3).filter (·.table = table))) ∧
      Counted stats 2 t := by
  obtain ⟨stats, log, t, hload, hperm, -, hcounted⟩ :=
    (@load_reproduces_population 3 2 (by decide) (by decide) true leftover).1 (by decide)
  exact ⟨stats, log, t, hload, hperm, hcounted⟩

/-- One subscriber, whose rows would be a single batch. No buffer can be made for it. -/
theorem load_reproduces_population_tooLarge :
    ¬∃ stats log t, leftover.load true 1 0xffffffffffffffff = (.ok stats, log, .ofTables t) := by
  rintro ⟨stats, log, t, h⟩
  rw [Store.load_of_tooLarge (by decide)] at h
  cases congrArg Prod.fst h

end StoreBench.Telecom
