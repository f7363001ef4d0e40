import StoreBench.Proofs.Telecom.Insertion
import StoreBench.Telecom.Transaction

/-!
What transactions come to. `Procedure.stop?` tells what is wrong with one, `Tables.run` what it
comes to otherwise, going by the rows that there are.
-/
namespace StoreBench.Telecom

open Plan (perform query attempt fail)

namespace Tables

def hasDestination (t : Tables) (id : UInt64) (kind start stop : UInt8) : Bool :=
  (t.facilities.any fun r => r.owner == id && r.kind == kind && r.active) &&
    t.forwardings.any fun r =>
      r.owner == id && r.kind == kind && r.start ≤ start && stop < r.stop

/-- The outcome of a transaction with which nothing is wrong, and the tables after it. -/
def run (t : Tables) (foreignKeys : Bool) : Procedure → Outcome × Tables
  | .getSubscriberData id => (.ofHit (t.hasSubscriber id), t)
  | .getNewDestination id kind start stop => (.ofHit (t.hasDestination id kind start stop), t)
  | .getAccessData id kind => (.ofHit (t.hasAccessInfo id kind), t)
  | .updateSubscriberData id kind bit dataA =>
    (.ofHit (t.hasFacility id kind), (t.setBit id bit).setDataA id kind dataA)
  | .updateLocation number vlr => (.ofHit (t.hasNumber number), t.setLocation number vlr)
  | .insertCallForwarding number kind start stop target =>
    match t.idOf? number with
    | none => (.missing, t)
    | some id =>
      let row : Record := .forwarding ⟨id, kind, start, stop, target⟩
      match t.refusal? foreignKeys row with
      | some _ => (.conflict, t)
      | none => (.success, t.add row)
  | .deleteCallForwarding number kind start =>
    match t.idOf? number with
    | none => (.missing, t)
    | some id => (.ofHit (t.hasForwarding id kind start), t.removeForwarding id kind start)

end Tables

/-- Why rows cannot be written: one of them is too long. -/
def rowExcess? (rows : List Record) : Option DatabaseError :=
  if rows.any (maxLength < ·.length) then some .tooBig else none

namespace Procedure

def id? : Procedure → Option UInt64
  | getSubscriberData id => some id
  | getNewDestination id _ _ _ => some id
  | getAccessData id _ => some id
  | updateSubscriberData id _ _ _ => some id
  | _ => none

/-- What is too long about a transaction: a text that it carries, or a row that it writes. -/
def excess? (t : Tables) : Procedure → Option DatabaseError
  | updateSubscriberData id kind bit dataA =>
    rowExcess? ((t.setBit id bit).withId id) <|>
      rowExcess? ((t.setDataA id kind dataA).withKind id kind)
  | updateLocation number vlr =>
    overlong? number.utf8ByteSize <|>
      rowExcess? ((t.setLocation number vlr).withNumber number)
  | insertCallForwarding number kind start stop target =>
    overlong? number.utf8ByteSize <|> (t.idOf? number).bind fun id =>
      overlong? target.utf8ByteSize <|>
        if t.hasForwarding id kind start then none
        else rowExcess? [.forwarding ⟨id, kind, start, stop, target⟩]
  | deleteCallForwarding number _ _ => overlong? number.utf8ByteSize
  | _ => none

def stop? (t : Tables) (p : Procedure) : Option Failure :=
  p.id?.bind unfit? <|> (p.excess? t).map Failure.ofDatabase

/-- A procedure only has ids that a database takes. -/
def Fits : Procedure → Prop
  | getSubscriberData id => fits id = true
  | getNewDestination id _ _ _ => fits id = true
  | getAccessData id _ => fits id = true
  | updateSubscriberData id _ _ _ => fits id = true
  | _ => True

theorem fits_iff_bind_eq_none {p : Procedure} : p.Fits ↔ p.id?.bind unfit? = none := by
  cases p <;> simp [Fits, id?, unfit?]

theorem stop?_eq_none_iff {t : Tables} {p : Procedure} :
    p.stop? t = none ↔ p.Fits ∧ p.excess? t = none := by
  rw [fits_iff_bind_eq_none]
  simp [stop?]

end Procedure

/-- Runs a transaction that nothing keeps from any action. -/
def Tables.execute (t : Tables) (foreignKeys : Bool) (p : Procedure) :
    Except Failure Outcome × Tables :=
  ((p.plan.follow foreignKeys (.ofTables t)).1, (p.plan.follow foreignKeys (.ofTables t)).2.leave)

namespace Plan

@[simp] theorem idOf_bind {α : Type} (number : String) (k : Option UInt64 → Plan α) :
    (idOf number >>= k) = perform (.prepare .selectId) >>= fun _ =>
      query (.selectId number) >>= fun found => k found.key? := by
  simp only [idOf, perform, query, attempt, ask_bind]
  congr 1
  funext prepared
  cases prepared with
  | error f => rfl
  | ok _ =>
    simp only [done_bind, ask_bind]
    congr 1
    funext bound
    cases bound with
    | error f => rfl
    | ok _ =>
      simp only [ask_bind, done_bind]
      congr 1
      funext found
      cases found <;> rfl

@[simp] theorem classify_ok (answer : Answer) : classify (.ok answer) = done .success := rfl

@[simp] theorem classify_error_bind {α : Type} (f : Failure) (k : Outcome → Plan α) :
    (classify (.error f) >>= k) = if f.isConstraint then k .conflict else fail f := by
  rw [classify]
  split <;> rfl

end Plan

namespace Procedure

/-- Nothing is written outside a transaction but by a last statement. -/
theorem safe_plan (p : Procedure) : p.plan.Safe .untouched := by
  cases p with
  | getSubscriberData | getNewDestination | getAccessData | updateLocation =>
    simp [plan, Plan.Standing.after, Command.writes, Command.statement, Statement.writes]
  | updateSubscriberData => simp [plan, Plan.Standing.after]
  | insertCallForwarding number kind start stop target =>
    simp only [plan, Plan.safe_perform_bind, Plan.idOf_bind, Plan.safe_query_bind,
      Plan.Standing.after]
    refine ⟨by simp, by simp, by simp, fun found => ?_⟩
    cases found.key? with
    | none => simp [Plan.Standing.after]
    | some id =>
      simp only [Plan.safe_perform_bind, Plan.safe_query_bind, Plan.safe_attempt_bind,
        Plan.Standing.after]
      refine ⟨by simp, by simp, fun _ => ⟨by simp, fun f => ?_, fun _ => ?_⟩⟩
      · rw [Plan.classify_error_bind]
        split <;> simp [Plan.Standing.after]
      · simp [Plan.Standing.after]
  | deleteCallForwarding number kind start =>
    simp only [plan, Plan.safe_perform_bind, Plan.idOf_bind, Plan.safe_query_bind,
      Plan.Standing.after]
    refine ⟨by simp, by simp, by simp, fun found => ?_⟩
    cases found.key? <;> simp [Plan.Standing.after]

theorem strict_plan (p : Procedure) : p.plan.Strict := by
  cases p with
  | getSubscriberData | getNewDestination | getAccessData | updateLocation
  | updateSubscriberData => simp [plan]
  | insertCallForwarding number kind start stop target =>
    simp only [plan, Plan.strict_perform_bind, Plan.idOf_bind, Plan.strict_query_bind]
    intro found
    cases found.key? with
    | none => simp
    | some id =>
      simp only [Plan.strict_perform_bind, Plan.strict_query_bind, Plan.strict_attempt_bind]
      refine fun _ => ⟨fun f hf => by simp [hf], ?_⟩
      rintro (f | _)
      · rw [Plan.classify_error_bind]
        split <;> simp
      · simp
  | deleteCallForwarding number kind start =>
    simp only [plan, Plan.strict_perform_bind, Plan.idOf_bind, Plan.strict_query_bind]
    intro found
    cases found.key? <;> simp

end Procedure

theorem isConstraint_overlong? {n : Nat} {e : DatabaseError} (h : overlong? n = some e) :
    e.isConstraint = false := by
  unfold overlong? at h
  split at h
  · obtain rfl := Option.some.inj h
    rfl
  · split at h
    · obtain rfl := Option.some.inj h
      rfl
    · cases h

@[simp] theorem Answer.key?_found_cons (c : Cell) (row : List Cell) (rows : List (List Cell)) :
    (found ((c :: row) :: rows)).key? = c.key? := rfl

namespace Tables

variable (t : Tables)

theorem not_isEmpty_map_filter {α β : Type} (l : List α) (p : α → Bool) (f : α → β) :
    (!((l.filter p).map f).isEmpty) = l.any p := by
  rw [Bool.eq_iff_iff]
  simp

theorem not_isEmpty_destinations (id : UInt64) (kind start stop : UInt8) :
    (!((t.destinations id kind start stop).map fun target => [Cell.text target]).isEmpty) =
      t.hasDestination id kind start stop := by
  rw [Bool.eq_iff_iff]
  simp only [destinations, hasDestination, Bool.not_eq_true', List.isEmpty_eq_false_iff, ne_eq,
    List.map_eq_nil_iff, List.flatMap_eq_nil_iff, List.filter_eq_nil_iff, not_forall, not_not,
    Bool.and_eq_true, List.any_eq_true, List.mem_filter, exists_prop]
  constructor
  · rintro ⟨f, ⟨hf, hkey⟩, r, hr, h⟩
    exact ⟨⟨f, hf, hkey⟩, r, hr, h⟩
  · rintro ⟨⟨f, hf, hkey⟩, r, hr, h⟩
    exact ⟨f, ⟨hf, hkey⟩, r, hr, h⟩

theorem key?_found (number : String) :
    (Answer.found ((t.subscribers.filter (·.number == number)).map fun r => [.ofKey r.id])).key? =
      t.idOf? number := by
  rw [idOf?, ← List.head?_filter]
  cases t.subscribers.filter (·.number == number) with
  | nil => rfl
  | cons r rest =>
    rw [List.map_cons, Answer.key?_found_cons, Cell.key?_ofKey, List.head?_cons, Option.map_some]

theorem length_withKind_setDataA (id : UInt64) (kind dataA : UInt8) :
    decide (0 < ((t.setDataA id kind dataA).withKind id kind).length) = t.hasFacility id kind := by
  rw [Bool.eq_iff_iff]
  simp [withKind, setDataA, hasFacility, apply_ite Facility.owner, apply_ite Facility.kind]

theorem length_withNumber_setLocation (number : String) (vlr : UInt32) :
    decide (0 < ((t.setLocation number vlr).withNumber number).length) = t.hasNumber number := by
  rw [Bool.eq_iff_iff]
  simp [withNumber, setLocation, hasNumber, apply_ite Subscriber.number]

theorem countP_forwardings (id : UInt64) (kind start : UInt8) :
    decide (0 < t.forwardings.countP fun r => r.owner == id && r.kind == kind && r.start == start) =
      t.hasForwarding id kind start := by
  rw [Bool.eq_iff_iff]
  simp [hasForwarding]

theorem written_eq (after : Tables) (rows : List Record) :
    after.written rows = match rowExcess? rows with
      | some e => .error e
      | none => .ok (⟨[], rows.length⟩, after) := by
  unfold written rowExcess?
  split <;> rfl

theorem fault?_selectId (number : String) :
    (Command.selectId number).fault? = overlong? number.utf8ByteSize := by
  simp [Command.fault?, Command.cells]

theorem fault?_updateLocation (vlr : UInt32) (number : String) :
    (Command.updateLocation vlr number).fault? = overlong? number.utf8ByteSize := by
  simp [Command.fault?, Command.cells, List.findSome?_cons]
  cases overlong? number.utf8ByteSize <;> rfl

theorem fault?_forwarding (row : Forwarding) :
    (Command.insert (.forwarding row)).fault? = overlong? row.target.utf8ByteSize := by
  simp [Command.fault?, Command.cells, Record.cells, Forwarding.cells, List.findSome?_cons]
  cases overlong? row.target.utf8ByteSize <;> rfl

/-- A row that is not too long is refused for its key, its number or its parent. -/
theorem isConstraint_refusal? {t : Tables} {foreignKeys : Bool} {r : Record} {e : DatabaseError}
    (h : t.refusal? foreignKeys r = some e) (he : e ≠ .tooBig) : e.isConstraint = true := by
  unfold refusal? at h
  split at h
  · obtain rfl := Option.some.inj h
    simp [DatabaseError.isConstraint, DatabaseError.code]
  · split at h
    · obtain rfl := Option.some.inj h
      simp [DatabaseError.isConstraint, DatabaseError.code]
    · split at h
      · exact absurd (Option.some.inj h).symm he
      · split at h
        · obtain rfl := Option.some.inj h
          simp [DatabaseError.isConstraint, DatabaseError.code]
        · cases h

/-- A forwarding that takes no key is too long if and only if it is refused for that. -/
theorem excess?_forwarding (foreignKeys : Bool) (row : Forwarding) :
    (if t.hasForwarding row.owner row.kind row.start then none else rowExcess? [.forwarding row]) =
      if t.refusal? foreignKeys (.forwarding row) = some .tooBig then some .tooBig else none := by
  have hkey : t.takesKey (.forwarding row) = t.hasForwarding row.owner row.kind row.start := rfl
  have hnumber : t.takesNumber (.forwarding row) = false := rfl
  unfold refusal? rowExcess?
  rw [hkey, hnumber]
  cases t.hasForwarding row.owner row.kind row.start with
  | true => simp
  | false =>
    by_cases hl : maxLength < (Record.forwarding row).length
    · simp [hl]
    · simp [hl]

section Executing

variable {t} (foreignKeys : Bool)

/-- A look-up: it has its id converted and runs one statement, which finds rows. -/
theorem execute_lookup {p : Procedure} {q : Statement} {id : UInt64} {c : Command}
    {rows : List (List Cell)}
    (hp : p.plan = do
      Plan.perform (.prepare q)
      Plan.perform (.convert id)
      let found ← query c
      return .ofHit !found.rows.isEmpty)
    (hf : c.fault? = none) (hc : t.perform foreignKeys c = .ok (.found rows, t)) :
    t.execute foreignKeys p = match unfit? id with
      | some f => (.error f, t)
      | none => (.ok (.ofHit !rows.isEmpty), t) := by
  have hdraft : (Draft.ofTables t).tables.perform foreignKeys c = .ok (.found rows, t) := hc
  rw [execute, hp, Plan.follow_prepare_bind, Plan.follow_convert_bind, Plan.follow_query_bind, hf,
    hdraft]
  cases unfit? id <;> rfl

theorem execute_updateSubscriberData (id : UInt64) (kind : UInt8) (bit : Bool) (dataA : UInt8) :
    t.execute foreignKeys (.updateSubscriberData id kind bit dataA) = match unfit? id with
      | some f => (.error f, t)
      | none =>
        match Procedure.excess? t (.updateSubscriberData id kind bit dataA) with
        | some e => (.error (.ofDatabase e), t)
        | none =>
          (.ok (.ofHit (t.hasFacility id kind)), (t.setBit id bit).setDataA id kind dataA) := by
  have hbit : (Command.updateBit bit id).fault? = none := rfl
  have hdata : (Command.updateFacility dataA id kind).fault? = none := rfl
  have hrows : ((t.setBit id bit).setDataA id kind dataA).withKind id kind =
    (t.setDataA id kind dataA).withKind id kind := rfl
  have htables : (Draft.ofTables t).begin.tables = t := rfl
  rw [execute]
  simp only [Procedure.plan, Plan.follow_begin_bind, Plan.follow_prepare_bind,
    Plan.follow_convert_bind, Plan.follow_query_bind, Plan.follow_commit_bind, hbit, hdata, perform,
    written_eq, htables, Procedure.excess?]
  cases hid : unfit? id with
  | some f => rfl
  | none =>
    cases hfirst : rowExcess? ((t.setBit id bit).withId id) with
    | some e => rfl
    | none =>
      simp only [hrows]
      cases rowExcess? ((t.setDataA id kind dataA).withKind id kind) with
      | some e => rfl
      | none =>
        rw [← length_withKind_setDataA t id kind dataA]
        rfl

theorem execute_updateLocation (number : String) (vlr : UInt32) :
    t.execute foreignKeys (.updateLocation number vlr) =
      match Procedure.excess? t (.updateLocation number vlr) with
      | some e => (.error (.ofDatabase e), t)
      | none => (.ok (.ofHit (t.hasNumber number)), t.setLocation number vlr) := by
  have htables : (Draft.ofTables t).tables = t := rfl
  rw [execute]
  simp only [Procedure.plan, Plan.follow_prepare_bind, Plan.follow_query_bind,
    fault?_updateLocation, perform, written_eq, htables, Procedure.excess?]
  cases overlong? number.utf8ByteSize with
  | some e => rfl
  | none =>
    cases rowExcess? ((t.setLocation number vlr).withNumber number) with
    | some e => rfl
    | none =>
      rw [← length_withNumber_setLocation t number vlr]
      rfl

theorem execute_insertCallForwarding {p : Procedure} {number : String} {kind start stop : UInt8}
    {target : String} (hp : p = .insertCallForwarding number kind start stop target) :
    t.execute foreignKeys p = match p.excess? t with
      | some e => (.error (.ofDatabase e), t)
      | none => (.ok (t.run foreignKeys p).1, (t.run foreignKeys p).2) := by
  have htables : (Draft.ofTables t).begin.tables = t := rfl
  have hfound (id : UInt64) : (Command.selectFacilityTypes id).fault? = none := rfl
  rw [execute, hp]
  simp only [Procedure.plan, Plan.follow_begin_bind, Plan.idOf_bind, Plan.follow_prepare_bind,
    Plan.follow_query_bind, fault?_selectId, perform, htables, key?_found, Procedure.excess?]
  cases overlong? number.utf8ByteSize with
  | some e => rfl
  | none =>
    cases hid : t.idOf? number with
    | none =>
      simp only [run, hid]
      rfl
    | some id =>
      simp only [run, hid, Plan.follow_prepare_bind, Plan.follow_query_bind,
        Plan.follow_attempt_bind, hfound, perform, fault?_forwarding, Option.bind_some]
      cases ho : overlong? target.utf8ByteSize with
      | some e =>
        have he : (Failure.ofDatabase e).isConstraint = false := isConstraint_overlong? ho
        simp only [Plan.classify_error_bind, he]
        rfl
      | none =>
        have hexcess := excess?_forwarding (t := t) foreignKeys
          ⟨id, kind, start, stop, target⟩
        dsimp only at hexcess
        rw [hexcess]
        cases hr : t.refusal? foreignKeys (.forwarding ⟨id, kind, start, stop, target⟩) with
        | none => rfl
        | some e =>
          by_cases he : e = .tooBig
          · subst he
            rfl
          · have hc : (Failure.ofDatabase e).isConstraint = true := isConstraint_refusal? hr he
            have hne : some e ≠ some .tooBig := fun h => he (Option.some.inj h)
            simp only [Plan.classify_error_bind, hc, if_neg hne]
            rfl

theorem execute_deleteCallForwarding {p : Procedure} {number : String} {kind start : UInt8}
    (hp : p = .deleteCallForwarding number kind start) :
    t.execute foreignKeys p = match p.excess? t with
      | some e => (.error (.ofDatabase e), t)
      | none => (.ok (t.run foreignKeys p).1, (t.run foreignKeys p).2) := by
  have htables : (Draft.ofTables t).begin.tables = t := rfl
  have hdelete (id : UInt64) : (Command.deleteForwarding id kind start).fault? = none := rfl
  rw [execute, hp]
  simp only [Procedure.plan, Plan.follow_begin_bind, Plan.idOf_bind, Plan.follow_prepare_bind,
    Plan.follow_query_bind, fault?_selectId, perform, htables, key?_found, Procedure.excess?]
  cases overlong? number.utf8ByteSize with
  | some e => rfl
  | none =>
    cases hid : t.idOf? number with
    | none =>
      simp only [run, hid]
      rfl
    | some id =>
      simp only [run, hid, Plan.follow_prepare_bind, Plan.follow_query_bind,
        hdelete, perform, ← countP_forwardings]
      rfl

/-- Something is wrong with a transaction, and it changes nothing, or it comes to what the tables
tell. -/
theorem execute_eq (t : Tables) (p : Procedure) :
    t.execute foreignKeys p = match p.stop? t with
      | some f => (.error f, t)
      | none => (.ok (t.run foreignKeys p).1, (t.run foreignKeys p).2) := by
  cases p with
  | getSubscriberData id =>
    have hstop : (Procedure.getSubscriberData id).stop? t = unfit? id := by
      simp [Procedure.stop?, Procedure.id?, Procedure.excess?]
    rw [execute_lookup foreignKeys rfl rfl rfl, not_isEmpty_map_filter, hstop]
    rfl
  | getNewDestination id kind start stop =>
    have hstop : (Procedure.getNewDestination id kind start stop).stop? t = unfit? id := by
      simp [Procedure.stop?, Procedure.id?, Procedure.excess?]
    rw [execute_lookup foreignKeys rfl rfl rfl, not_isEmpty_destinations, hstop]
    rfl
  | getAccessData id kind =>
    have hstop : (Procedure.getAccessData id kind).stop? t = unfit? id := by
      simp [Procedure.stop?, Procedure.id?, Procedure.excess?]
    rw [execute_lookup foreignKeys rfl rfl rfl, not_isEmpty_map_filter, hstop]
    rfl
  | updateSubscriberData id kind bit dataA =>
    rw [execute_updateSubscriberData, Procedure.stop?, Procedure.id?, Option.bind_some]
    cases unfit? id with
    | some f => rfl
    | none => cases Procedure.excess? t (.updateSubscriberData id kind bit dataA) <;> rfl
  | updateLocation number vlr =>
    rw [execute_updateLocation, Procedure.stop?]
    cases Procedure.excess? t (.updateLocation number vlr) <;> rfl
  | insertCallForwarding number kind start stop target =>
    rw [execute_insertCallForwarding foreignKeys rfl, Procedure.stop?]
    cases Procedure.excess? t _ <;> rfl
  | deleteCallForwarding number kind start =>
    rw [execute_deleteCallForwarding foreignKeys rfl, Procedure.stop?]
    cases Procedure.excess? t _ <;> rfl

theorem execute_of_stop?_eq_none {p : Procedure} (h : p.stop? t = none) :
    t.execute foreignKeys p = (.ok (t.run foreignKeys p).1, (t.run foreignKeys p).2) := by
  rw [execute_eq, h]

end Executing

end Tables

namespace Procedure

variable {σ : Type} {gate : Gate σ} {foreignKeys : Bool} {p : Procedure} {t : Tables} {s : σ}

/-- Whatever a transaction fails of, and wherever it does, it changes nothing. -/
theorem run_error {f : Failure} (h : (p.run gate foreignKeys t s).1 = .error f) :
    (p.run gate foreignKeys t s).2.1 = t :=
  Plan.leave_of_safe p.safe_plan (d := .ofTables t) rfl h

theorem run_of_open (hg : gate.Open) (foreignKeys : Bool) (p : Procedure) (t : Tables) (s : σ) :
    ∃ after, p.run gate foreignKeys t s =
      ((t.execute foreignKeys p).1, (t.execute foreignKeys p).2, after) := by
  obtain ⟨after, hrun⟩ :=
    Plan.run_of_open hg foreignKeys p.plan (.ofTables t) s
  exact ⟨after, by rw [run, hrun]; rfl⟩

/-- A gate keeps a transaction from an action, and nothing is changed, or it makes no difference. -/
theorem run_cases (hg : gate.Plain) (foreignKeys : Bool) (p : Procedure) (t : Tables) (s : σ) :
    (∃ f after, p.run gate foreignKeys t s = (.error f, t, after)) ∨
      ∃ after, p.run gate foreignKeys t s =
        ((t.execute foreignKeys p).1, (t.execute foreignKeys p).2, after) := by
  rcases Plan.run_of_strict p.strict_plan hg foreignKeys (.ofTables t) s with
    ⟨f, hf⟩ | ⟨after, hrun⟩
  · have herror : (p.run gate foreignKeys t s).1 = .error f := hf
    exact .inl ⟨f, _, Prod.ext herror (Prod.ext (run_error herror) rfl)⟩
  · exact .inr ⟨after, by rw [run, hrun]; rfl⟩

end Procedure

namespace Session

variable {s : Session} {t : Tables}

/-- What a connection remembers makes no difference to a transaction. -/
theorem Ready.executeAt (h : s.Ready t) (seat : Seat) (p : Procedure) :
    ∃ handle, s.executeAt seat p = ((t.execute s.options.foreignKeys p).1, { seat with handle },
      { s with store := .ofTables (t.execute s.options.foreignKeys p).2 }) := by
  obtain ⟨handle, hrun⟩ :=
    Procedure.run_of_open (Handle.gate_open h.access) s.options.foreignKeys p t seat.handle
  exact ⟨handle, by rw [Session.executeAt, h.store, Store.tables_ofTables, hrun]; rfl⟩

/-- Where all tables are there, a connection is kept from a transaction by a lock, or not at all. -/
theorem executeAt_cases (hs : s.store = .ofTables t) (seat : Seat) (p : Procedure) :
    ∃ handle, (∃ f, s.executeAt seat p = (.error f, { seat with handle }, s)) ∨
      s.executeAt seat p = ((t.execute s.options.foreignKeys p).1, { seat with handle },
        { s with store := .ofTables (t.execute s.options.foreignKeys p).2 }) := by
  rcases Procedure.run_cases (Handle.gate_plain s.access) s.options.foreignKeys p t seat.handle with
    ⟨f, handle, hrun⟩ | ⟨handle, hrun⟩
  · refine ⟨handle, .inl ⟨f, ?_⟩⟩
    rw [executeAt, hs, Store.tables_ofTables, hrun]
    dsimp only
    rw [Store.withTables_ofTables, ← hs]
  · refine ⟨handle, .inr ?_⟩
    rw [executeAt, hs, Store.tables_ofTables, hrun]
    rfl

end Session

end StoreBench.Telecom
