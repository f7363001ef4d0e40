import StoreBench.Proofs.Telecom.Clients
import StoreBench.Proofs.Telecom.Integrity

/-!
What can become of a database at the hands of any connections. Every operation takes place in some
session, with settings, a lock and connections of its own, on the database that those before it
left.
-/
namespace StoreBench.Telecom

inductive Operation where
  | load (n : UInt64) (batchSize : Nat)
  | createTables
  | insertAll (rows : List Record)
  | execute (client : Nat) (p : Procedure)

def Session.after (s : Session) : Operation → Session
  | .load n batchSize => (s.load n batchSize).2.2
  | .createTables => s.createTables.2
  | .insertAll rows => (s.insertAll rows).2
  | .execute client p => ((s.execute client p).map (·.2)).getD s

/-- `u` is what operations can make of `first`; `may` says which are allowed, and in which
sessions. -/
inductive Store.Reaches (may : Session → Operation → Prop) (first : Store) : Store → Prop where
  | refl : Reaches may first first
  | after {s : Session} {o : Operation} (h : Reaches may first s.store) (ho : may s o) :
      Reaches may first (s.after o).store

/-- All tables are absent, or all are there and have a property. -/
def Store.Holds (P : Tables → Prop) (s : Store) : Prop := s = .bare ∨ ∃ t, s = .ofTables t ∧ P t

/-- Rows that are added and transactions keep a property of tables. -/
structure Tables.Kept (foreignKeys : Bool) (P : Tables → Prop) : Prop where
  empty : P .empty
  add : ∀ {t : Tables} {r : Record}, P t → fits r.owner = true → t.refusal? foreignKeys r = none →
    P (t.add r)
  execute : ∀ {t : Tables} (p : Procedure), P t → P (t.execute foreignKeys p).2

theorem Tables.kept_keyed (foreignKeys : Bool) : Kept foreignKeys Keyed :=
  ⟨keyed_empty, fun h _ hr => h.add hr, fun p h => h.execute foreignKeys p⟩

theorem Tables.kept_rooted : Kept true Rooted :=
  ⟨rooted_empty, fun h _ hr => h.add hr, fun p h => h.execute p⟩

theorem Tables.kept_fitting (foreignKeys : Bool) : Kept foreignKeys Fitting :=
  ⟨fitting_empty, fun h hf _ => h.add hf, fun p h => h.execute foreignKeys p⟩

theorem Tables.rooted_of_perm {t : Tables} {n : UInt64} (h : t.records.Perm (population n)) :
    t.Rooted := by
  have hp (r : Record) (hr : r ∈ t.records) : t.hasParent r = true := by
    rw [hasParent_iff]
    intro k hk
    obtain ⟨p, rfl, hs⟩ := (population_orderly n).parents r (h.mem_iff.mp hr) k hk
    exact List.mem_map_of_mem (h.mem_iff.mpr (hs.subset (by simp)))
  exact ⟨⟨fun r hr => hp (.accessInfo r) (by simp [records, hr]),
    fun r hr => hp (.facility r) (by simp [records, hr])⟩,
    fun r hr => hp (.forwarding r) (by simp [records, hr])⟩

theorem Tables.Kept.takeAll {P : Tables → Prop} {foreignKeys : Bool} (hP : Kept foreignKeys P)
    {d : Draft} (h : P d.tables) (rows : List Record) :
    P (d.takeAll foreignKeys rows).2.tables := by
  induction rows generalizing d with
  | nil => exact h
  | cons r rows ih =>
    rw [Draft.takeAll_cons]
    cases hr : r.fault? d.tables foreignKeys with
    | some f => exact h
    | none =>
      obtain ⟨hfits, hnone⟩ := Record.fault?_eq_none_iff.mp hr
      exact ih (hP.add h hfits hnone)

namespace Record

theorem strict_plan (r : Record) : r.plan.Strict := by
  cases r <;> simp [plan]

theorem safe_plan (r : Record) : r.plan.Safe .untouched := by
  cases r <;> simp [plan, Plan.Standing.after]

/-- A row that does not come in leaves the tables as they are. -/
theorem run_plan_cases {σ : Type} {gate : Gate σ} (hg : gate.Plain)
    (foreignKeys : Bool) (r : Record)
    (t : Tables) (s : σ) :
    (∃ f d after, r.plan.run gate foreignKeys (.ofTables t) s = (.error f, d, after) ∧
      d.leave = t) ∨
    ∃ after, r.plan.run gate foreignKeys (.ofTables t) s = (.ok (), .ofTables (t.add r), after) ∧
      r.fault? t foreignKeys = none := by
  have hsafe {f : Failure} (hf : (r.plan.run gate foreignKeys (.ofTables t) s).1 = .error f) :
      ∃ f d after, r.plan.run gate foreignKeys (.ofTables t) s = (.error f, d, after) ∧
        d.leave = t :=
    ⟨f, _, _, Prod.ext hf rfl, Plan.leave_of_safe r.safe_plan (d := .ofTables t) rfl hf⟩
  rcases Plan.run_of_strict r.strict_plan hg foreignKeys (.ofTables t) s with
    ⟨f, hf⟩ | ⟨after, hrun⟩
  · exact .inl (hsafe hf)
  · have hfollow := r.follow_plan foreignKeys (.ofTables t)
    cases hr : r.fault? t foreignKeys with
    | some f =>
      rw [show r.fault? (Draft.ofTables t).tables foreignKeys = some f from hr] at hfollow
      exact .inl (hsafe (by rw [hrun, hfollow]))
    | none =>
      rw [show r.fault? (Draft.ofTables t).tables foreignKeys = none from hr] at hfollow
      exact .inr ⟨after, by rw [hrun, hfollow]; rfl, rfl⟩

end Record

/-- Rows that are added one by one, for good each, and past any locks. -/
theorem Tables.Kept.insertAll {P : Tables → Prop} {foreignKeys : Bool} (hP : Kept foreignKeys P)
    {σ : Type} {gate : Gate σ} (hg : gate.Plain) {t : Tables} (h : P t)
    (rows : List Record) (s : σ) :
    P ((Draft.ofTables t).insertAll gate foreignKeys rows s).2.1.leave := by
  induction rows generalizing t s with
  | nil => exact h
  | cons r rows ih =>
    rw [Draft.insertAll]
    rcases r.run_plan_cases hg foreignKeys t s with ⟨f, d, after, hrun, hd⟩ | ⟨after, hrun, hr⟩
    · rw [hrun]
      dsimp only
      rwa [hd]
    · obtain ⟨hfits, hnone⟩ := Record.fault?_eq_none_iff.mp hr
      rw [hrun]
      exact ih (hP.add h hfits hnone) after

theorem Store.holds_load {P : Tables → Prop} {foreignKeys : Bool} (hP : Tables.Kept foreignKeys P)
    (s : Store) (n : UInt64) (size : Nat) : (s.load foreignKeys n size).2.2.Holds P := by
  have hempty : (ofTables .empty).Holds P := .inr ⟨.empty, rfl, hP.empty⟩
  rcases s.load_eq_takeAll foreignKeys n size with
    ⟨-, hload⟩ | ⟨-, hload⟩ | ⟨-, -, d, _, hd, hload⟩ | ⟨-, -, _, _, _, _, _, -, hload⟩
  · rwa [hload]
  · rwa [hload]
  · have hall := hP.takeAll (d := .begun) hP.empty (population n)
    rw [hd] at hall
    rw [hload]
    exact .inr ⟨d.tables, rfl, hall⟩
  · rwa [hload]

namespace Session

variable {P : Tables → Prop} {s : Session}

/-- On tables that are there, a transaction does its work or nothing. -/
theorem store_execute {t : Tables} (hs : s.store = .ofTables t) (i : Nat) (p : Procedure) :
    (s.after (.execute i p)).store = .ofTables t ∨
      (s.after (.execute i p)).store = .ofTables (t.execute s.options.foreignKeys p).2 := by
  simp only [after, execute, atSeat]
  cases s.seats[i]? with
  | none => exact .inl hs
  | some seat =>
    obtain ⟨handle, ⟨f, he⟩ | he⟩ := executeAt_cases hs seat p
    · simp only [Option.map_some, Option.getD_some, he]
      exact .inl hs
    · right
      simp only [Option.map_some, Option.getD_some, he]

theorem bare_of_execute (hs : s.store = .bare) (i : Nat) (p : Procedure) :
    (s.after (.execute i p)).store = .bare := by
  simp only [after, execute, atSeat, executeAt, hs]
  cases s.seats[i]? with
  | none => exact hs
  | some seat => rfl

theorem after_holds (hP : Tables.Kept s.options.foreignKeys P) (h : s.store.Holds P)
    (o : Operation) : (s.after o).store.Holds P := by
  cases o with
  | load n size =>
    simp only [after, load]
    split
    · exact h
    · exact Store.holds_load hP s.store n size
  | createTables =>
    simp only [after, createTables, Store.recreate_eq]
    split
    · exact h
    · exact .inr ⟨.empty, rfl, hP.empty⟩
  | insertAll rows =>
    simp only [after, insertAll]
    rcases h with hs | ⟨t, hs, ht⟩
    · rw [hs]
      exact .inl rfl
    · rw [hs]
      exact .inr ⟨_, rfl, hP.insertAll (Handle.gate_plain s.access) ht rows s.admin⟩
  | execute i p =>
    rcases h with hs | ⟨t, hs, ht⟩
    · exact .inl (bare_of_execute hs i p)
    · rcases store_execute hs i p with he | he
      · exact .inr ⟨t, he, ht⟩
      · exact .inr ⟨_, he, hP.execute p ht⟩

end Session

theorem Store.Reaches.holds {may : Session → Operation → Prop} {P : Tables → Prop}
    {first u : Store} (hP : ∀ s o, may s o → Tables.Kept s.options.foreignKeys P)
    (h : first.Holds P) (hu : Reaches may first u) : u.Holds P := by
  induction hu with
  | refl => exact h
  | after _ ho ih => exact Session.after_holds (hP _ _ ho) ih _

/-- What rows that are added and transactions keep holds of all tables that connections can have
made. -/
theorem Store.Reaches.tables {s : Store} {t : Tables} (hr : Reaches (fun _ _ => True) .bare s)
    (hs : s = .ofTables t) {P : Tables → Prop} (hP : ∀ foreignKeys, Tables.Kept foreignKeys P) :
    P t := by
  have h := hr.holds (fun session _ _ => hP session.options.foreignKeys) (.inl rfl)
  rw [hs] at h
  rcases h with h | ⟨v, hv, h⟩
  · cases h
  · obtain rfl : t = v := congrArg Store.tables hv
    exact h

theorem Session.Ready.of_reaches {s : Session} {t : Tables} (hs : s.Ready t)
    (hr : Store.Reaches (fun _ _ => True) .bare s.store) {P : Tables → Prop}
    (hP : ∀ foreignKeys, Tables.Kept foreignKeys P) : P t := hr.tables hs.store hP

theorem Session.rooted_of_load {s u : Session} {n : UInt64} {size : Nat} {stats : Load.Stats}
    {log : List Event} (h : s.load n size = (.ok stats, log, u)) :
    ∃ t, u.store = .ofTables t ∧ t.Rooted := by
  obtain ⟨-, rfl⟩ := Session.eq_of_load h
  exact ⟨.loaded n, rfl, Tables.rooted_of_perm (Tables.records_loaded n)⟩

/-- Whatever connections do to a database that was empty, and whether or not it succeeds: all
tables are absent, or all are there and keys and numbers are unique. If all connections enforce
foreign keys, every row has its parent. After a load that succeeds and nothing but transactions,
access information and facilities have their subscribers, even if nobody enforces foreign keys. -/
theorem integrity_kept :
    (∀ s, Store.Reaches (fun _ _ => True) .bare s → s.Holds Tables.Keyed) ∧
    (∀ s, Store.Reaches (fun session _ => session.options.foreignKeys = true) .bare s →
      s.Holds Tables.Rooted) ∧
    ∀ (session loaded : Session) (n : UInt64) (size : Nat) (stats : Load.Stats) (log : List Event),
      session.load n size = (.ok stats, log, loaded) →
      ∀ s, Store.Reaches (fun _ o => ∃ i p, o = .execute i p) loaded.store s →
        ∃ t, s = .ofTables t ∧ t.Owned := by
  refine ⟨?_, ?_, ?_⟩
  · intro s hs
    exact hs.holds (fun session _ _ => Tables.kept_keyed session.options.foreignKeys) (.inl rfl)
  · intro s hs
    refine hs.holds ?_ (.inl rfl)
    intro session o henforced
    rw [henforced]
    exact Tables.kept_rooted
  · intro session loaded n size stats log hload s hs
    -- Rows that are added could be orphans here, so this is no instance of the general law.
    induction hs with
    | refl =>
      obtain ⟨t, ht, hrooted⟩ := Session.rooted_of_load hload
      exact ⟨t, ht, hrooted.toOwned⟩
    | @after current o _ ho ih =>
      obtain ⟨i, p, rfl⟩ := ho
      obtain ⟨t, ht, howned⟩ := ih
      rcases Session.store_execute ht i p with he | he
      · exact ⟨t, he, howned⟩
      · exact ⟨_, he, howned.execute _ p⟩

def strayFacility : Facility := ⟨9, 1, true, 0, 0, "AAAAA"⟩

def madeStore (foreignKeys : Bool) : Store :=
  ((Session.on 1 foreignKeys .bare).after .createTables).store

/-- A facility of nobody comes twice, and its key is taken the second time. Where foreign keys are
enforced, it does not come at all. A load clears both away, and then a forwarding of no facility
comes. -/
theorem integrity_kept_stray :
    (∃ t, ((Session.on 1 false (madeStore false)).after
        (.insertAll [.facility strayFacility, .facility strayFacility])).store = .ofTables t ∧
      strayFacility ∈ t.facilities ∧ t.Keyed) ∧
    (∃ t, ((Session.on 1 true (madeStore true)).after
        (.insertAll [.facility strayFacility])).store = .ofTables t ∧ t.Rooted) ∧
    ∃ stats log loaded t, (Session.on 1 false (madeStore false)).load 2 1 =
      (.ok stats, log, loaded) ∧
      (loaded.after
        (.execute 0 (.insertCallForwarding (SubscriberNumber.ofId 1) 9 0 8 "1"))).store =
        .ofTables t ∧ t.Owned := by
  obtain ⟨hkeyed, hrooted, howned⟩ := integrity_kept
  refine ⟨?_, ?_, ?_⟩
  · have hmade : Store.Reaches (fun _ _ => True) .bare (madeStore false) :=
      .after (s := Session.on 1 false .bare) .refl trivial
    have hfilled := hmade.after (s := Session.on 1 false (madeStore false))
      (o := .insertAll [.facility strayFacility, .facility strayFacility]) trivial
    rcases hkeyed _ hfilled with h | ⟨t, ht, hk⟩
    · exact absurd h (by decide)
    · have hf : some t.facilities = some [strayFacility] := congrArg Store.facilities ht.symm
      exact ⟨t, ht, by simp [Option.some.inj hf], hk⟩
  · have hmade : Store.Reaches (fun session _ => session.options.foreignKeys = true) .bare
        (madeStore true) :=
      .after (s := Session.on 1 true .bare) .refl rfl
    have hrefused := hmade.after (s := Session.on 1 true (madeStore true))
      (o := .insertAll [.facility strayFacility]) rfl
    rcases hrooted _ hrefused with h | ht
    · exact absurd h (by decide)
    · exact ht
  · obtain ⟨stats, log, loaded, hload⟩ := Session.load_ok
      (show (2 : UInt64).toNat ≤ Nat.pow 2 59 by decide) Nat.one_pos (by decide)
        (s := Session.on 1 false (madeStore false)) rfl
    obtain ⟨t, ht⟩ := howned _ _ _ _ _ _ hload _ (.after .refl ⟨_, _, rfl⟩)
    exact ⟨stats, log, loaded, t, hload, ht⟩

end StoreBench.Telecom
