import StoreBench.Proofs.Telecom.Columns
import StoreBench.Proofs.Telecom.Enforcement
import StoreBench.Proofs.Telecom.Reachability

/-!
Rows that are added one by one. They come in up to the first that cannot be added to the rows that
are there by then; that one is named, and neither it nor any row behind it leaves a trace.
-/
namespace StoreBench.Telecom

/-- A row can be added: its id fits into a database, no row has its key, no subscriber has its
number, it is not too long, and where foreign keys are enforced its parent is there. -/
structure Record.Acceptable (foreignKeys : Bool) (t : Tables) (r : Record) : Prop where
  fits : r.owner.toNat ≤ Nat.pow 2 63 - 1
  key : ∀ q ∈ t.records, q.key ≠ r.key
  number : ∀ number ∈ r.number?, ∀ q ∈ t.records, q.number? ≠ some number
  length : r.length ≤ maxLength
  parent : foreignKeys = true → ∀ key ∈ r.parentKey?, ∃ q ∈ t.records, q.key = key

theorem Record.acceptable_iff {foreignKeys : Bool} {t : Tables} {r : Record} :
    r.Acceptable foreignKeys t ↔ r.fault? t foreignKeys = none := by
  have hfits : fits r.owner = true ↔ r.owner.toNat ≤ Nat.pow 2 63 - 1 := by
    simp [fits_iff, maxInteger]
  have hkey : t.takesKey r = false ↔ ∀ q ∈ t.records, q.key ≠ r.key := by
    rw [← Bool.not_eq_true, Tables.takesKey_iff]
    simp
  have hnumber : t.takesNumber r = false ↔
      ∀ number ∈ r.number?, ∀ q ∈ t.records, q.number? ≠ some number := by
    rw [← Bool.not_eq_true, Tables.takesNumber_iff]
    simp
  have hparent : t.hasParent r = true ↔
      ∀ key ∈ r.parentKey?, ∃ q ∈ t.records, q.key = key := by
    rw [Tables.hasParent_iff]
    simp
  rw [fault?_eq_none_iff, Tables.refusal?_eq_none_iff, hfits, hkey, hnumber, hparent]
  constructor
  · rintro ⟨hf, hk, hn, hl, hp⟩
    exact ⟨hf, hk, hn, hl, hp⟩
  · rintro ⟨hf, hk, hn, hl, hp⟩
    exact ⟨hf, hk, hn, hl, hp⟩

instance (foreignKeys : Bool) (t : Tables) (r : Record) : Decidable (r.Acceptable foreignKeys t) :=
  decidable_of_iff _ Record.acceptable_iff.symm

def Tables.Accepts (t : Tables) (foreignKeys : Bool) (rows : List Record) : Prop :=
  ∀ before r after, rows = before ++ r :: after → r.Acceptable foreignKeys (t.addAll before)

namespace Tables

variable {t : Tables} {foreignKeys : Bool} {r : Record} {rows : List Record}

theorem accepts_nil : t.Accepts foreignKeys [] := by
  intro before r after h
  simp at h

theorem accepts_cons : t.Accepts foreignKeys (r :: rows) ↔
    r.Acceptable foreignKeys t ∧ (t.add r).Accepts foreignKeys rows := by
  constructor
  · intro h
    refine ⟨h [] r rows rfl, ?_⟩
    rintro before q after rfl
    exact h (r :: before) q after rfl
  · rintro ⟨hr, hrows⟩ before q after h
    cases before with
    | nil =>
      obtain ⟨rfl, -⟩ := List.cons.inj h
      exact hr
    | cons p before =>
      obtain ⟨rfl, hrest⟩ := List.cons.inj h
      exact hrows before q after hrest

end Tables

/-- How it ends to add some rows to tables: all have come in, or those before one that cannot be
added. -/
inductive AddingEnd (foreignKeys : Bool) (t : Tables) (rows : List Record) :
    Except Failure Unit → List Record → Prop where
  | all (h : t.Accepts foreignKeys rows) : AddingEnd foreignKeys t rows (.ok ()) rows
  | upTo {before after : List Record} {r : Record} {e : Failure}
      (hrows : rows = before ++ r :: after)
      (h : t.Accepts foreignKeys before) (hr : ¬r.Acceptable foreignKeys (t.addAll before)) :
      AddingEnd foreignKeys t rows (.error (e.during (.inserting r.table r.owner))) before

theorem AddingEnd.cons {foreignKeys : Bool} {t : Tables} {r : Record} {rows added : List Record}
    {result : Except Failure Unit} (hr : r.Acceptable foreignKeys t)
    (h : AddingEnd foreignKeys (t.add r) rows result added) :
    AddingEnd foreignKeys t (r :: rows) result (r :: added) := by
  cases h with
  | all h => exact .all (Tables.accepts_cons.mpr ⟨hr, h⟩)
  | upTo hrows h hq =>
    exact .upTo (congrArg (r :: ·) hrows) (Tables.accepts_cons.mpr ⟨hr, h⟩) hq

theorem AddingEnd.ok_iff {foreignKeys : Bool} {t : Tables} {rows added : List Record}
    {result : Except Failure Unit} (h : AddingEnd foreignKeys t rows result added) :
    result = .ok () ↔ t.Accepts foreignKeys rows := by
  cases h with
  | all h => exact iff_of_true rfl h
  | upTo hrows _ hr =>
    refine iff_of_false (by simp) ?_
    intro h
    exact hr (h _ _ _ hrows)

/-- Rows that nothing keeps from the tables come in as they may. -/
theorem AddingEnd.takeAll (foreignKeys : Bool) (t : Tables) (rows : List Record) :
    ∃ added, AddingEnd foreignKeys t rows ((Draft.ofTables t).takeAll foreignKeys rows).1 added ∧
      ((Draft.ofTables t).takeAll foreignKeys rows).2 = .ofTables (t.addAll added) := by
  induction rows generalizing t with
  | nil => exact ⟨[], .all Tables.accepts_nil, rfl⟩
  | cons r rows ih =>
    have htables : (Draft.ofTables t).tables = t := rfl
    rw [Draft.takeAll_cons, htables]
    cases hr : r.fault? t foreignKeys with
    | some f =>
      have hnot : ¬r.Acceptable foreignKeys t := by simp [Record.acceptable_iff, hr]
      exact ⟨[], .upTo rfl Tables.accepts_nil hnot, rfl⟩
    | none =>
      obtain ⟨added, hend, hadded⟩ := ih (t.add r)
      exact ⟨r :: added, hend.cons (Record.acceptable_iff.mpr hr), hadded⟩

theorem Session.Ready.insertAll_eq {s : Session} {t : Tables} (h : s.Ready t) (rows : List Record) :
    ∃ admin, s.insertAll rows = (((Draft.ofTables t).takeAll s.options.foreignKeys rows).1,
      { s with
        store := .ofTables ((Draft.ofTables t).takeAll s.options.foreignKeys rows).2.leave
        admin }) := by
  obtain ⟨admin, hopen⟩ := Draft.insertAll_of_open (d := .ofTables t) (Handle.gate_open h.access)
    s.options.foreignKeys rows s.admin
  refine ⟨admin, ?_⟩
  rw [Session.insertAll, h.store, Store.tables_ofTables, hopen]
  rfl

/-- Adding rows one by one ends as it may, and the tables hold those that have come in. -/
theorem Session.Ready.insertAll {s : Session} {t : Tables} (h : s.Ready t) (rows : List Record) :
    ∃ added, AddingEnd s.options.foreignKeys t rows (s.insertAll rows).1 added ∧
      (s.insertAll rows).2.Ready (t.addAll added) := by
  obtain ⟨admin, heq⟩ := h.insertAll_eq rows
  obtain ⟨added, hend, hadded⟩ := AddingEnd.takeAll s.options.foreignKeys t rows
  rw [heq]
  refine ⟨added, hend, ?_, h.lock⟩
  rw [hadded]
  rfl

/-- Where nobody has a lock, adding rows one by one succeeds if and only if each can be added to the
tables and the rows before it. Otherwise the failure names the table and the subscriber of the first
that cannot be. The rows before that one come in, each of them once and readable in all its columns,
and nothing else changes. -/
theorem rows_added_up_to_refused {s : Session} {t : Tables} (hs : s.Ready t) (rows : List Record) :
    ((s.insertAll rows).1 = .ok () ↔ t.Accepts s.options.foreignKeys rows) ∧
    ∃ added u, (s.insertAll rows).2.store = .ofTables u ∧
      (∀ table, (u.recordsOf table).Perm
        (t.recordsOf table ++ added.filter (·.table = table))) ∧
      (∀ r ∈ added, r.Readable ∧ Record.ofCells? r.table r.cells = some r) ∧
      ((s.insertAll rows).1 = .ok () ∧ added = rows ∨
        ∃ r after f e, rows = added ++ r :: after ∧ t.Accepts s.options.foreignKeys added ∧
          ¬r.Acceptable s.options.foreignKeys (t.addAll added) ∧ (s.insertAll rows).1 = .error f ∧
          f.chain = s!"inserting {r.table.name} row for s_id {r.owner}" :: Failure.chain e) := by
  obtain ⟨added, hend, hready⟩ := hs.insertAll rows
  refine ⟨hend.ok_iff, added, _, hready.store, ?_, ?_, ?_⟩
  · intro table
    rw [Tables.recordsOf_eq, Tables.recordsOf_eq, ← List.filter_append]
    exact (t.records_addAll added).filter _
  · intro r _
    exact ⟨r.readable, r.ofCells?_cells⟩
  · generalize (s.insertAll rows).1 = result at hend ⊢
    cases hend with
    | all => exact .inl ⟨rfl, rfl⟩
    | upTo hrows h hr => exact .inr ⟨_, _, _, _, hrows, h, hr, rfl, rfl⟩

/-- Two forwardings of a facility that there is, and between them a facility of nobody. -/
def strayBetween : List Record :=
  [.forwarding ⟨1, 1, 0, 8, "1"⟩, .facility strayFacility, .forwarding ⟨1, 1, 8, 16, "1"⟩]

/-- All of these rows come in, unless foreign keys are enforced: then only the first does. -/
theorem rows_added_up_to_refused_stray :
    ((Session.on 1 false (.ofTables twoSubscribers)).insertAll strayBetween).1 = .ok () ∧
    ∃ u f e, ((Session.on 1 true (.ofTables twoSubscribers)).insertAll strayBetween).2.store =
        .ofTables u ∧
      (u.recordsOf .callForwarding).Perm [.forwarding ⟨1, 1, 0, 8, "1"⟩] ∧
      ((Session.on 1 true (.ofTables twoSubscribers)).insertAll strayBetween).1 = .error f ∧
      f.chain = "inserting special_facility row for s_id 9" :: Failure.chain e := by
  constructor
  · rw [(rows_added_up_to_refused (Session.ready_on 1 false twoSubscribers) strayBetween).1]
    refine Tables.accepts_cons.mpr ⟨by decide, ?_⟩
    refine Tables.accepts_cons.mpr ⟨by decide, ?_⟩
    exact Tables.accepts_cons.mpr ⟨by decide, Tables.accepts_nil⟩
  · obtain ⟨hok, added, u, hu, hrows, -, hend⟩ :=
      rows_added_up_to_refused (Session.ready_on 1 true twoSubscribers) strayBetween
    have hfirst : (Record.forwarding ⟨1, 1, 0, 8, "1"⟩).Acceptable true twoSubscribers := by decide
    have hstray : ¬(Record.facility strayFacility).Acceptable true
        (twoSubscribers.add (.forwarding ⟨1, 1, 0, 8, "1"⟩)) := by decide
    rcases hend with ⟨hall, -⟩ | ⟨r, after, f, e, hsplit, haccepts, hr, hf, hchain⟩
    · have h := Tables.accepts_cons.mp (hok.mp hall)
      exact absurd (Tables.accepts_cons.mp h.2).1 hstray
    · -- The first row is no failure, and the second one has not come in.
      obtain _ | ⟨p, _ | ⟨q, added⟩⟩ := added
      · obtain ⟨rfl, -⟩ := List.cons.inj hsplit
        exact absurd hfirst hr
      · obtain ⟨rfl, hrest⟩ := List.cons.inj hsplit
        obtain ⟨rfl, -⟩ := List.cons.inj hrest
        exact ⟨u, f, e, hu, hrows .callForwarding, hf, hchain⟩
      · obtain ⟨rfl, hrest⟩ := List.cons.inj hsplit
        obtain ⟨rfl, -⟩ := List.cons.inj hrest
        have h := Tables.accepts_cons.mp haccepts
        exact absurd (Tables.accepts_cons.mp h.2).1 hstray

theorem insertAll_facility_of_overlong? {s : Session} {t : Tables} (hs : s.Ready t) {row : Facility}
    {e : DatabaseError} (hfits : unfit? row.owner = none)
    (he : overlong? row.dataB.utf8ByteSize = some e) : (s.insertAll [.facility row]).1 =
      .error ((Failure.ofDatabase e).during (.inserting .specialFacility row.owner)) := by
  have hbind : (Command.insert (.facility row)).fault? = some e := by
    simp [Command.fault?, Command.cells, Record.cells, Facility.cells, List.findSome?_cons, he]
  have hfault : (Record.facility row).fault? t s.options.foreignKeys = some (.ofDatabase e) := by
    rw [Record.fault?, Record.owner, hfits, hbind]
    rfl
  have htables : (Draft.ofTables t).tables = t := rfl
  obtain ⟨admin, heq⟩ := hs.insertAll_eq [.facility row]
  rw [heq, Draft.takeAll_cons, htables, hfault]
  rfl

/-- Rows that nothing speaks against are not added, not even to empty tables, if somebody else has a
lock, or if a text in them is too long. -/
theorem rows_added_up_to_refused_stopped :
    let session := Session.on 1 false (.ofTables .empty)
    let locked : Session := { session with lock := some .immediate }
    let long : Facility := { strayFacility with dataB := longText }
    strayFacility.owner.toNat ≤ Nat.pow 2 63 - 1 ∧ Tables.empty.records = [] ∧
      (locked.insertAll [.facility strayFacility]).1 =
        .error (Session.lockedFailure.during (.inserting .specialFacility 9)) ∧
      (session.insertAll [.facility long]).1 =
        .error ((Failure.ofDatabase .tooBig).during (.inserting .specialFacility 9)) :=
  ⟨by decide, rfl, rfl,
    insertAll_facility_of_overlong? (Session.ready_on 1 false .empty) rfl overlong?_longText⟩

end StoreBench.Telecom
