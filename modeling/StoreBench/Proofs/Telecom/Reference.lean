import StoreBench.Proofs.Telecom.Reachability
import StoreBench.Proofs.Telecom.Slices

/-!
A reference for the outcomes of transactions, in terms of which rows there are. Whatever made the
tables, and whatever a transaction carries, its outcome is the one of the reference, unless it
carries or writes more than a database takes.
-/
namespace StoreBench.Telecom

namespace Procedure

section Reference

variable (t : Tables) (foreignKeys : Bool)

/-- The rows that the transaction is after are there, or nothing is in the way of the one that it
adds. -/
def Succeeds : Procedure → Prop
  | getSubscriberData id => ∃ r ∈ t.subscribers, r.id = id
  | getNewDestination id kind start stop =>
    (∃ r ∈ t.facilities, r.owner = id ∧ r.kind = kind ∧ r.active = true) ∧
      ∃ r ∈ t.forwardings, r.owner = id ∧ r.kind = kind ∧ r.start ≤ start ∧ stop < r.stop
  | getAccessData id kind => ∃ r ∈ t.accessInfos, r.owner = id ∧ r.kind = kind
  | updateSubscriberData id kind _ _ => ∃ r ∈ t.facilities, r.owner = id ∧ r.kind = kind
  | updateLocation number _ => ∃ r ∈ t.subscribers, r.number = number
  | insertCallForwarding number kind start _ _ =>
    ∃ s ∈ t.subscribers, s.number = number ∧
      (∀ r ∈ t.forwardings, ¬(r.owner = s.id ∧ r.kind = kind ∧ r.start = start)) ∧
      (foreignKeys = true → ∃ r ∈ t.facilities, r.owner = s.id ∧ r.kind = kind)
  | deleteCallForwarding number kind start =>
    ∃ s ∈ t.subscribers, s.number = number ∧
      ∃ r ∈ t.forwardings, r.owner = s.id ∧ r.kind = kind ∧ r.start = start

/-- The row that the transaction adds has a taken key, or needs a facility that is absent. -/
def Conflicts : Procedure → Prop
  | insertCallForwarding number kind start _ _ =>
    ∃ s ∈ t.subscribers, s.number = number ∧
      ((∃ r ∈ t.forwardings, r.owner = s.id ∧ r.kind = kind ∧ r.start = start) ∨
        foreignKeys = true ∧ ∀ r ∈ t.facilities, ¬(r.owner = s.id ∧ r.kind = kind))
  | _ => False

/-- The rows that the transaction is after are not there. One that adds a row is only after its
subscriber. -/
def Misses : Procedure → Prop
  | insertCallForwarding number _ _ _ _ => ∀ s ∈ t.subscribers, s.number ≠ number
  | p => ¬p.Succeeds t foreignKeys

/-- A text that the transaction carries is too long, or a row that it writes. No row is written that
has a taken key, nor for a number that nobody has. -/
def TooLong : Procedure → Prop
  | updateSubscriberData id kind bit dataA =>
    (∃ r ∈ t.subscribers, r.id = id ∧
      maxLength < (Record.subscriber
        { r with bits := r.bits.set 0 bit (Nat.succ_pos 9) }).length) ∨
    ∃ r ∈ t.facilities, (r.owner = id ∧ r.kind = kind) ∧
      maxLength < (Record.facility { r with dataA }).length
  | updateLocation number vlrLocation =>
    maxLength < number.utf8ByteSize ∨
      ∃ r ∈ t.subscribers, r.number = number ∧
        maxLength < (Record.subscriber { r with vlrLocation }).length
  | insertCallForwarding number kind start stop target =>
    maxLength < number.utf8ByteSize ∨
      ∃ s ∈ t.subscribers, s.number = number ∧
        (maxLength < target.utf8ByteSize ∨
          (∀ r ∈ t.forwardings, ¬(r.owner = s.id ∧ r.kind = kind ∧ r.start = start)) ∧
            maxLength < (Record.forwarding ⟨s.id, kind, start, stop, target⟩).length)
  | deleteCallForwarding number _ _ => maxLength < number.utf8ByteSize
  | _ => False

end Reference

variable {t : Tables} {foreignKeys : Bool} {p : Procedure}

section TooLong

/-- Rows that some of are written again may be as long as those are then. -/
theorem rowExcess?_map_if {α : Type} (wrap : α → Record) (hit : α → Prop) [DecidablePred hit]
    (found : α → Bool) {f : α → α} (hhit : ∀ a, found a = true ↔ hit a)
    (hf : ∀ a, hit a → hit (f a)) (rows : List α) :
    rowExcess? (((rows.map fun a => if hit a then f a else a).filter found).map wrap) = none ↔
      ∀ a ∈ rows, hit a → (wrap (f a)).length ≤ maxLength := by
  simp only [Tables.rowExcess?_eq_none_iff, List.forall_mem_map, List.filter_map, List.mem_filter,
    Function.comp_apply]
  constructor
  · intro h a ha hp
    have hfound : found (if hit a then f a else a) = true := by
      rw [if_pos hp]
      exact (hhit _).mpr (hf a hp)
    simpa only [if_pos hp] using h a ⟨ha, hfound⟩
  · rintro h a ⟨ha, hfound⟩
    have hp : hit a := by
      split at hfound
      · assumption
      · exact (hhit a).mp hfound
    rw [if_pos hp]
    exact h a ha hp

theorem excess?_eq_none_iff (hn : (t.subscribers.map (·.number)).Nodup) :
    p.excess? t = none ↔ ¬p.TooLong t := by
  cases p with
  | getSubscriberData | getNewDestination | getAccessData => simp [excess?, TooLong]
  | updateSubscriberData id kind bit dataA =>
    have hbit := rowExcess?_map_if .subscriber (fun r => r.id = id) (·.id == id)
      (f := fun r => { r with bits := r.bits.set 0 bit })
      (by simp) (fun _ h => h) t.subscribers
    have hdata := rowExcess?_map_if .facility (fun r => r.owner = id ∧ r.kind = kind)
      (fun r => r.owner == id && r.kind == kind) (f := fun r => { r with dataA })
      (by simp) (fun _ h => h) t.facilities
    rw [excess?, Option.orElse_eq_orElse, Option.orElse_eq_or, Option.or_eq_none_iff]
    rw [Tables.withId, Tables.setBit, hbit, Tables.withKind, Tables.setDataA, hdata]
    simp [TooLong]
  | updateLocation number vlrLocation =>
    have hrows := rowExcess?_map_if .subscriber (fun r => r.number = number)
      (·.number == number) (f := fun r => { r with vlrLocation })
      (by simp) (fun _ h => h) t.subscribers
    rw [excess?, Option.orElse_eq_orElse, Option.orElse_eq_or, Option.or_eq_none_iff,
      overlong?_eq_none_iff, Tables.withNumber, Tables.setLocation, hrows]
    simp [TooLong]
  | insertCallForwarding number kind start stop target =>
    rw [excess?, Option.orElse_eq_orElse, Option.orElse_eq_or, Option.or_eq_none_iff,
      overlong?_eq_none_iff]
    cases hid : t.idOf? number with
    | none =>
      have hnone := Tables.idOf?_eq_none_iff.mp hid
      simpa [TooLong] using fun _ s hs hnumber => absurd hnumber (hnone s hs)
    | some id =>
      obtain ⟨s, hs, rfl, rfl⟩ := Tables.exists_of_idOf? hid
      have hfree : t.hasForwarding s.id kind start = false ↔
          ∀ r ∈ t.forwardings, ¬(r.owner = s.id ∧ r.kind = kind ∧ r.start = start) := by
        simp [Tables.hasForwarding]
      rw [TooLong, Tables.exists_number_iff hn hs, ← hfree, Option.bind_some, Option.orElse_eq_or,
        Option.or_eq_none_iff, overlong?_eq_none_iff]
      cases t.hasForwarding s.id kind start <;> simp [rowExcess?]
  | deleteCallForwarding number kind start => simp [excess?, TooLong, overlong?_eq_none_iff]

end TooLong

/-- Where all ids fit, no row is found under one that does not. -/
theorem Succeeds.fits (ht : t.Fitting) (h : p.Succeeds t foreignKeys) : p.Fits := by
  cases p with
  | getSubscriberData id =>
    obtain ⟨r, hr, rfl⟩ := h
    exact ht (.subscriber r) (by simp [Tables.records, hr])
  | getNewDestination id kind start stop =>
    obtain ⟨⟨r, hr, rfl, -⟩, -⟩ := h
    exact ht (.facility r) (by simp [Tables.records, hr])
  | getAccessData id kind =>
    obtain ⟨r, hr, rfl, -⟩ := h
    exact ht (.accessInfo r) (by simp [Tables.records, hr])
  | updateSubscriberData id kind bit dataA =>
    obtain ⟨r, hr, rfl, -⟩ := h
    exact ht (.facility r) (by simp [Tables.records, hr])
  | updateLocation | insertCallForwarding | deleteCallForwarding => trivial

theorem Conflicts.fits (h : p.Conflicts t foreignKeys) : p.Fits := by
  cases p with
  | insertCallForwarding => trivial
  | _ => exact h.elim

theorem misses_iff (hp : p.kindOf ≠ .insertCallForwarding) :
    p.Misses t foreignKeys ↔ ¬p.Succeeds t foreignKeys := by
  cases p with
  | insertCallForwarding => exact absurd rfl hp
  | _ => rfl

theorem Misses.not_succeeds (h : p.Misses t foreignKeys) : ¬p.Succeeds t foreignKeys := by
  cases p with
  | insertCallForwarding =>
    rintro ⟨s, hs, hnumber, -⟩
    exact h s hs hnumber
  | _ => exact h

theorem Misses.not_conflicts (h : p.Misses t foreignKeys) : ¬p.Conflicts t foreignKeys := by
  cases p with
  | insertCallForwarding =>
    rintro ⟨s, hs, hnumber, -⟩
    exact h s hs hnumber
  | _ => exact id

theorem Conflicts.not_succeeds (hn : (t.subscribers.map (·.number)).Nodup)
    (h : p.Conflicts t foreignKeys) : ¬p.Succeeds t foreignKeys := by
  cases p with
  | insertCallForwarding number kind start stop target =>
    obtain ⟨s, hs, rfl, h⟩ := h
    rw [Succeeds, Tables.exists_number_iff hn hs]
    rintro ⟨hfree, hparent⟩
    rcases h with ⟨r, hr, htaken⟩ | ⟨hon, habsent⟩
    · exact hfree r hr htaken
    · obtain ⟨r, hr, hfacility⟩ := hparent hon
      exact habsent r hr hfacility
  | _ => exact h.elim

theorem stop?_eq_none_iff_rows (hn : (t.subscribers.map (·.number)).Nodup) :
    p.stop? t = none ↔ p.Fits ∧ ¬p.TooLong t := by
  rw [stop?_eq_none_iff, excess?_eq_none_iff hn]

theorem stop?_eq_some_iff {f : Failure} : p.stop? t = some f ↔
    (∃ id, p.id? = some id ∧ maxInteger < id.toNat ∧
      f = (Failure.ofCause .tooLarge).during (.convertingKey id)) ∨
    p.Fits ∧ ∃ e, p.excess? t = some e ∧ f = .ofDatabase e := by
  have hunfit : p.id?.bind unfit? = some f ↔ ∃ id, p.id? = some id ∧ maxInteger < id.toNat ∧
      f = (Failure.ofCause .tooLarge).during (.convertingKey id) := by
    simp only [Option.bind_eq_some_iff, unfit?_eq_some_iff]
  rw [← hunfit, fits_iff_bind_eq_none, stop?]
  cases p.id?.bind unfit? <;> simp [eq_comm]

end Procedure

namespace Tables

variable {t : Tables} {foreignKeys : Bool} {p : Procedure}

theorem run_eq_ofHit (hn : (t.subscribers.map (·.number)).Nodup)
    (hp : p.kindOf ≠ .insertCallForwarding) :
    ∃ hit, (t.run foreignKeys p).1 = .ofHit hit ∧ (hit = true ↔ p.Succeeds t foreignKeys) := by
  cases p with
  | getSubscriberData id => exact ⟨_, rfl, by simp [hasSubscriber, Procedure.Succeeds]⟩
  | getNewDestination id kind start stop =>
    exact ⟨_, rfl, by simp [hasDestination, Procedure.Succeeds, and_assoc]⟩
  | getAccessData id kind => exact ⟨_, rfl, by simp [hasAccessInfo, Procedure.Succeeds]⟩
  | updateSubscriberData id kind bit dataA =>
    exact ⟨_, rfl, by simp [hasFacility, Procedure.Succeeds]⟩
  | updateLocation number vlr => exact ⟨_, rfl, by simp [hasNumber, Procedure.Succeeds]⟩
  | insertCallForwarding => exact absurd rfl hp
  | deleteCallForwarding number kind start =>
    rcases t.run_delete foreignKeys number kind start with ⟨hid, hrun⟩ | ⟨id, hid, hrun⟩
    · refine ⟨false, congrArg Prod.fst hrun, iff_of_false (by simp) ?_⟩
      rintro ⟨s, hs, hnumber, -⟩
      exact idOf?_eq_none_iff.mp hid s hs hnumber
    · obtain ⟨s, hs, rfl, rfl⟩ := exists_of_idOf? hid
      refine ⟨_, congrArg Prod.fst hrun, ?_⟩
      rw [Procedure.Succeeds, exists_number_iff hn hs]
      simp [hasForwarding, and_assoc]

/-- A forwarding that is not too long is refused for its key or its facility. -/
theorem refusal?_eq_none_iff_rows (foreignKeys : Bool) (row : Forwarding)
    (hl : t.hasForwarding row.owner row.kind row.start = false →
      (Record.forwarding row).length ≤ maxLength) :
    t.refusal? foreignKeys (.forwarding row) = none ↔
      (∀ r ∈ t.forwardings, ¬(r.owner = row.owner ∧ r.kind = row.kind ∧ r.start = row.start)) ∧
      (foreignKeys = true → ∃ r ∈ t.facilities, r.owner = row.owner ∧ r.kind = row.kind) := by
  have hfree : t.hasForwarding row.owner row.kind row.start = false ↔
      ∀ r ∈ t.forwardings, ¬(r.owner = row.owner ∧ r.kind = row.kind ∧ r.start = row.start) := by
    simp [hasForwarding]
  have hparent : t.hasFacility row.owner row.kind = true ↔
      ∃ r ∈ t.facilities, r.owner = row.owner ∧ r.kind = row.kind := by
    simp [hasFacility]
  rw [refusal?_forwarding, ← hfree, ← hparent]
  constructor
  · rintro ⟨hnew, -, hp⟩
    exact ⟨hnew, hp⟩
  · rintro ⟨hnew, hp⟩
    exact ⟨hnew, hl hnew, hp⟩

/-- The outcome of a transaction that runs is the one of the reference. -/
theorem run_cases (hn : (t.subscribers.map (·.number)).Nodup) (hl : ¬p.TooLong t)
    (foreignKeys : Bool) :
    ((t.run foreignKeys p).1 = .success ∧ p.Succeeds t foreignKeys) ∨
    ((t.run foreignKeys p).1 = .conflict ∧ p.Conflicts t foreignKeys) ∨
    ((t.run foreignKeys p).1 = .missing ∧ p.Misses t foreignKeys) := by
  by_cases hp : p.kindOf = .insertCallForwarding
  · cases p with
    | insertCallForwarding number kind start stop target =>
      rcases t.run_insert foreignKeys number kind start stop target with
        ⟨hid, hrun⟩ | ⟨id, hid, hrow⟩
      · exact .inr (.inr ⟨congrArg Prod.fst hrun, idOf?_eq_none_iff.mp hid⟩)
      · obtain ⟨s, hs, rfl, rfl⟩ := exists_of_idOf? hid
        have hlength : t.hasForwarding s.id kind start = false →
            (Record.forwarding ⟨s.id, kind, start, stop, target⟩).length ≤ maxLength := by
          intro hfree
          rw [Procedure.TooLong, exists_number_iff hn hs] at hl
          simp_all [hasForwarding]
        have hnone := refusal?_eq_none_iff_rows foreignKeys
          ⟨s.id, kind, start, stop, target⟩ hlength
        rcases hrow with ⟨hr, hrun⟩ | ⟨hr, hrun⟩
        · rw [ne_eq, hnone, not_and_or] at hr
          exact .inr (.inl ⟨congrArg Prod.fst hrun, s, hs, rfl, by simpa using hr⟩)
        · exact .inl ⟨congrArg Prod.fst hrun, s, hs, rfl, hnone.mp hr⟩
    | _ => cases hp
  · obtain ⟨hit, hrun, hhit⟩ := run_eq_ofHit hn hp
    cases hit with
    | true => exact .inl ⟨hrun, hhit.mp rfl⟩
    | false =>
      have hnot : ¬p.Succeeds t foreignKeys := fun h => Bool.false_ne_true (hhit.mpr h)
      exact .inr (.inr ⟨hrun, (Procedure.misses_iff hp).mpr hnot⟩)

theorem execute_eq_error_iff {f : Failure} :
    (t.execute foreignKeys p).1 = .error f ↔ p.stop? t = some f := by
  rw [execute_eq]
  cases p.stop? t <;> simp

theorem execute_iff (hn : (t.subscribers.map (·.number)).Nodup) (ht : t.Fitting) :
    ((t.execute foreignKeys p).1 = .ok .success ↔ p.Succeeds t foreignKeys ∧ ¬p.TooLong t) ∧
    ((t.execute foreignKeys p).1 = .ok .conflict ↔ p.Conflicts t foreignKeys ∧ ¬p.TooLong t) ∧
    ((t.execute foreignKeys p).1 = .ok .missing ↔
      p.Misses t foreignKeys ∧ p.Fits ∧ ¬p.TooLong t) := by
  have hstop := Procedure.stop?_eq_none_iff_rows (p := p) hn
  cases hs : p.stop? t with
  | none =>
    obtain ⟨hp, hl⟩ := hstop.mp hs
    rw [execute_of_stop?_eq_none _ hs]
    rcases run_cases hn hl foreignKeys with ⟨ho, h⟩ | ⟨ho, h⟩ | ⟨ho, h⟩
    · refine ⟨iff_of_true (congrArg _ ho) ⟨h, hl⟩, iff_of_false (by simp [ho]) ?_,
        iff_of_false (by simp [ho]) ?_⟩
      · exact fun hc => hc.1.not_succeeds hn h
      · exact fun hm => hm.1.not_succeeds h
    · refine ⟨iff_of_false (by simp [ho]) ?_, iff_of_true (congrArg _ ho) ⟨h, hl⟩,
        iff_of_false (by simp [ho]) ?_⟩
      · exact fun hs => h.not_succeeds hn hs.1
      · exact fun hm => hm.1.not_conflicts h
    · refine ⟨iff_of_false (by simp [ho]) ?_, iff_of_false (by simp [ho]) ?_,
        iff_of_true (congrArg _ ho) ⟨h, hp, hl⟩⟩
      · exact fun hs => h.not_succeeds hs.1
      · exact fun hc => h.not_conflicts hc.1
  | some f =>
    -- Nothing succeeds under an id that does not fit, and only look-ups and one update have one.
    have hnot : ¬(p.Fits ∧ ¬p.TooLong t) := by
      rw [← hstop, hs]
      exact Option.some_ne_none f
    rw [execute_eq_error_iff.mpr hs]
    refine ⟨iff_of_false (by simp) ?_, iff_of_false (by simp) ?_, iff_of_false (by simp) ?_⟩
    · exact fun h => hnot ⟨h.1.fits ht, h.2⟩
    · exact fun h => hnot ⟨h.1.fits, h.2⟩
    · exact fun h => hnot h.2

end Tables

/-- On all tables that connections can have made, whether or not foreign keys are enforced, a
transaction comes out as the reference says. What keeps it from that is an id that does not fit, or
that it carries or writes too much, and it is told. -/
theorem outcomes_match_reference {s : Session} {t : Tables} (hs : s.Ready t)
    (hr : Store.Reaches (fun _ _ => True) .bare s.store) {i : Nat} (hi : i < s.seats.length)
    (p : Procedure) :
    ∃ result u, s.execute i p = some (result, u) ∧
      (result = .ok .success ↔ p.Succeeds t s.options.foreignKeys ∧ ¬p.TooLong t) ∧
      (result = .ok .conflict ↔ p.Conflicts t s.options.foreignKeys ∧ ¬p.TooLong t) ∧
      (result = .ok .missing ↔ p.Misses t s.options.foreignKeys ∧ p.Fits ∧ ¬p.TooLong t) ∧
      ∀ f, result = .error f ↔
        (∃ id, p.id? = some id ∧ maxInteger < id.toNat ∧
          f = (Failure.ofCause .tooLarge).during (.convertingKey id)) ∨
        p.Fits ∧ ∃ e, p.excess? t = some e ∧ f = .ofDatabase e := by
  obtain ⟨u, hu, -⟩ := hs.execute hi p
  have hkeyed : t.Keyed := hs.of_reaches hr Tables.kept_keyed
  have hfitting : t.Fitting := hs.of_reaches hr Tables.kept_fitting
  obtain ⟨hsuccess, hconflict, hmissing⟩ := Tables.execute_iff hkeyed.numbers hfitting
  refine ⟨_, u, hu, hsuccess, hconflict, hmissing, ?_⟩
  intro f
  rw [Tables.execute_eq_error_iff, Procedure.stop?_eq_some_iff]

def mixedRows : List Record := .facility strayFacility :: twoSubscribers.records

def mixedStore : Store :=
  ((Session.on 1 false (madeStore false)).after (.insertAll mixedRows)).store

theorem mixedStore_eq : mixedStore = .ofTables mixedStore.tables := by decide

theorem reaches_mixedStore : Store.Reaches (fun _ _ => True) .bare mixedStore := by
  have hmade : Store.Reaches (fun _ _ => True) .bare (madeStore false) :=
    .after (s := Session.on 1 false .bare) .refl trivial
  exact hmade.after (s := Session.on 1 false (madeStore false)) (o := .insertAll mixedRows) trivial

/-- Data of a facility is set without a subscriber. A forwarding of an absent facility is a conflict
only where foreign keys are enforced. -/
theorem outcomes_match_reference_mixed :
    (∃ u, (Session.on 1 false mixedStore).execute 0 (.updateSubscriberData 9 1 true 5) =
      some (.ok .success, u)) ∧
    (∃ u, (Session.on 1 false mixedStore).execute 0 (.insertCallForwarding "2" 1 0 8 "1") =
      some (.ok .success, u)) ∧
    ∃ u, (Session.on 1 true mixedStore).execute 0 (.insertCallForwarding "2" 1 0 8 "1") =
      some (.ok .conflict, u) := by
  have hr := reaches_mixedStore
  have hs (foreignKeys : Bool) : (Session.on 1 foreignKeys mixedStore).Ready mixedStore.tables :=
    ⟨mixedStore_eq, rfl⟩
  have hi (foreignKeys : Bool) : 0 < (Session.on 1 foreignKeys mixedStore).seats.length := by simp
  refine ⟨?_, ?_, ?_⟩
  · obtain ⟨result, u, hu, hsuccess, -⟩ :=
      outcomes_match_reference (hs false) hr (hi false) (.updateSubscriberData 9 1 true 5)
    rw [Procedure.Succeeds, Procedure.TooLong] at hsuccess
    exact ⟨u, by rw [hu, hsuccess.mpr (by decide)]⟩
  · obtain ⟨result, u, hu, hsuccess, -⟩ :=
      outcomes_match_reference (hs false) hr (hi false) (.insertCallForwarding "2" 1 0 8 "1")
    rw [Procedure.Succeeds, Procedure.TooLong] at hsuccess
    exact ⟨u, by rw [hu, hsuccess.mpr (by decide)]⟩
  · obtain ⟨result, u, hu, -, hconflict, -⟩ :=
      outcomes_match_reference (hs true) hr (hi true) (.insertCallForwarding "2" 1 0 8 "1")
    rw [Procedure.Conflicts, Procedure.TooLong] at hconflict
    exact ⟨u, by rw [hu, hconflict.mpr (by decide)]⟩

/-- Nothing is found for an id that does not fit or a number that is too long, but it is not told
so: the call fails. -/
theorem outcomes_match_reference_stopped :
    let session := Session.on 1 true (madeStore true)
    Store.Reaches (fun _ _ => True) .bare session.store ∧ session.store.tables.records = [] ∧
      (session.execute 0 (.getSubscriberData 9223372036854775808)).map (·.1) =
        some (.error ((Failure.ofCause .tooLarge).during (.convertingKey 9223372036854775808))) ∧
      (session.execute 0 (.insertCallForwarding longText 1 0 8 "5")).map (·.1) =
        some (.error (.ofDatabase .tooBig)) := by
  intro session
  refine ⟨.after (s := Session.on 1 true .bare) .refl trivial, rfl, rfl, ?_⟩
  have hs : session.Ready .empty := ⟨rfl, rfl⟩
  obtain ⟨u, hu, -⟩ := hs.execute (i := 0) (by simp [session])
    (.insertCallForwarding longText 1 0 8 "5")
  have hexcess : Procedure.excess? .empty (.insertCallForwarding longText 1 0 8 "5") =
      some .tooBig := by
    simp [Procedure.excess?, overlong?_longText]
  rw [hu, Tables.execute_eq, Procedure.stop?, hexcess]
  rfl

end StoreBench.Telecom
