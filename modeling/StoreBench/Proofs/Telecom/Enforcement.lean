import StoreBench.Proofs.Telecom.Integrity

/-!
Two runs of the same calls, one with foreign keys enforced and one without. Forwardings of absent
facilities are all that the second has more, and all that clients can tell them apart by.
-/
namespace StoreBench.Telecom

namespace Tables

def prune (t : Tables) : Tables :=
  { t with forwardings := t.forwardings.filter fun r => t.hasFacility r.owner r.kind }

theorem Rooted.prune_eq {t : Tables} (h : t.Rooted) : t.prune = t := by
  have hf : (t.forwardings.filter fun r => t.hasFacility r.owner r.kind) = t.forwardings :=
    List.filter_eq_self.mpr h.forwardings
  rw [prune, hf]

theorem hasForwarding_prune (t : Tables) (owner : UInt64) (kind start : UInt8) :
    t.prune.hasForwarding owner kind start =
      (t.hasFacility owner kind && t.hasForwarding owner kind start) := by
  rw [Bool.eq_iff_iff, Bool.and_eq_true]
  simp only [hasForwarding, prune, List.any_filter, List.any_eq_true, Bool.and_eq_true, beq_iff_eq]
  constructor
  · rintro ⟨r, hr, hf, ⟨rfl, rfl⟩, rfl⟩
    exact ⟨hf, r, hr, ⟨rfl, rfl⟩, rfl⟩
  · rintro ⟨hf, r, hr, ⟨rfl, rfl⟩, rfl⟩
    exact ⟨r, hr, hf, ⟨rfl, rfl⟩, rfl⟩

/-- A destination needs a facility, so that it does not hang on forwardings without one. -/
theorem hasDestination_prune (t : Tables) (id : UInt64) (kind start stop : UInt8) :
    t.prune.hasDestination id kind start stop = t.hasDestination id kind start stop := by
  rw [Bool.eq_iff_iff]
  simp only [hasDestination, prune, List.any_filter, List.any_eq_true, Bool.and_eq_true, beq_iff_eq]
  constructor
  · rintro ⟨hf, r, hr, -, hmatch⟩
    exact ⟨hf, r, hr, hmatch⟩
  · rintro ⟨⟨q, hq, ⟨ho, hk⟩, ha⟩, r, hr, hmatch⟩
    have hf : t.hasFacility r.owner r.kind = true :=
      List.any_eq_true.mpr ⟨q, hq, by simp [ho, hk, hmatch.1.1]⟩
    exact ⟨⟨q, hq, ⟨ho, hk⟩, ha⟩, r, hr, hf, hmatch⟩

theorem prune_setDataA (t : Tables) (id : UInt64) (kind dataA : UInt8) :
    (t.setDataA id kind dataA).prune = t.prune.setDataA id kind dataA := by
  have h (r : Forwarding) : (t.setDataA id kind dataA).hasFacility r.owner r.kind =
      t.hasFacility r.owner r.kind := by
    rw [hasFacility_eq, skeleton_setDataA, ← hasFacility_eq]
  simp only [prune, h]
  rfl

theorem prune_add (t : Tables) (row : Forwarding) : (t.add (.forwarding row)).prune =
    if t.hasFacility row.owner row.kind = true then t.prune.add (.forwarding row) else t.prune := by
  have h (r : Forwarding) : (t.add (.forwarding row)).hasFacility r.owner r.kind =
      t.hasFacility r.owner r.kind := rfl
  simp only [prune, h]
  split
  · next hf => simp [add, hf]
  · next hf => simp [add, hf]

theorem prune_removeForwarding (t : Tables) (owner : UInt64) (kind start : UInt8) :
    (t.removeForwarding owner kind start).prune = t.prune.removeForwarding owner kind start := by
  have h (r : Forwarding) : (t.removeForwarding owner kind start).hasFacility r.owner r.kind =
      t.hasFacility r.owner r.kind := rfl
  simp only [prune, h]
  simp only [removeForwarding, List.filter_filter, Bool.and_comm]

end Tables

/-- Why a text that the procedure carries cannot be handed to a statement. -/
def Procedure.textFault? : Procedure → Option DatabaseError
  | updateLocation number _ => overlong? number.utf8ByteSize
  | insertCallForwarding number _ _ _ target =>
    overlong? number.utf8ByteSize <|> overlong? target.utf8ByteSize
  | deleteCallForwarding number _ _ => overlong? number.utf8ByteSize
  | _ => none

/-- The result of a transaction where foreign keys are enforced, and the one where they are not, on
tables `t`. They are the same, unless the transaction is about a forwarding of an absent
facility. -/
inductive Alike (t : Tables) :
    Procedure → Except Failure Outcome → Except Failure Outcome → Prop where
  | same {p : Procedure} {result : Except Failure Outcome}
      (h : ∀ c ∈ p.change? t, t.hasFacility c.2.1 c.2.2.1 = true) : Alike t p result result
  | unbound {p : Procedure} {e : DatabaseError} (h : p.textFault? = some e) :
      Alike t p (.error (.ofDatabase e)) (.error (.ofDatabase e))
  | insert {number : String} {id : UInt64} {kind start stop : UInt8} {target : String}
      (hid : t.idOf? number = some id) (hf : t.hasFacility id kind = false)
      (hl : (Record.forwarding ⟨id, kind, start, stop, target⟩).length ≤ maxLength) :
      Alike t (.insertCallForwarding number kind start stop target) (.ok .conflict)
        (.ok (if t.hasForwarding id kind start then .conflict else .success))
  | insertTooLong {number : String} {id : UInt64} {kind start stop : UInt8} {target : String}
      (hid : t.idOf? number = some id) (hf : t.hasFacility id kind = false)
      (hl : maxLength < (Record.forwarding ⟨id, kind, start, stop, target⟩).length) :
      Alike t (.insertCallForwarding number kind start stop target) (.error (.ofDatabase .tooBig))
        (if t.hasForwarding id kind start then .ok .conflict else .error (.ofDatabase .tooBig))
  | delete {number : String} {id : UInt64} {kind start : UInt8}
      (hid : t.idOf? number = some id) (hf : t.hasFacility id kind = false) :
      Alike t (.deleteCallForwarding number kind start) (.ok .missing)
        (.ok (if t.hasForwarding id kind start then .success else .missing))

namespace Tables

variable (t : Tables)

/-- An insertion whose texts can be handed over, for a number that somebody has. -/
theorem execute_prune_insert_of_idOf? {number target : String} {id : UInt64}
    (hid : t.idOf? number = some id) (hnumber : overlong? number.utf8ByteSize = none)
    (htarget : overlong? target.utf8ByteSize = none) (kind start stop : UInt8) :
    let p := Procedure.insertCallForwarding number kind start stop target
    Alike t p (t.prune.execute true p).1 (t.execute false p).1 ∧
      (t.prune.execute true p).2 = (t.execute false p).2.prune := by
  intro p
  have hfacility : t.prune.hasFacility id kind = t.hasFacility id kind := rfl
  rw [execute_insert_of_idOf? hid hnumber htarget,
    execute_insert_of_idOf? (t := t.prune) hid hnumber htarget, hasForwarding_prune, hfacility]
  cases hf : t.hasFacility id kind with
  | true =>
    have hsame (result : Except Failure Outcome) : Alike t p result result :=
      .same (by simp [p, Procedure.change?, hid, hf])
    cases t.hasForwarding id kind start with
    | true => exact ⟨hsame _, rfl⟩
    | false =>
      by_cases hl : maxLength < (Record.forwarding ⟨id, kind, start, stop, target⟩).length
      · simpa [hl] using hsame _
      · simpa [hl, prune_add, hf] using hsame _
  | false =>
    by_cases hl : maxLength < (Record.forwarding ⟨id, kind, start, stop, target⟩).length
    · have hother : Alike t p _ _ := .insertTooLong hid hf hl
      cases hw : t.hasForwarding id kind start <;> simpa [hl, hw] using hother
    · have hother : Alike t p _ _ := .insert hid hf (Nat.le_of_not_lt hl)
      cases hw : t.hasForwarding id kind start <;> simpa [hl, hw, prune_add, hf] using hother

theorem execute_prune_insert (number : String) (kind start stop : UInt8) (target : String) :
    let p := Procedure.insertCallForwarding number kind start stop target
    Alike t p (t.prune.execute true p).1 (t.execute false p).1 ∧
      (t.prune.execute true p).2 = (t.execute false p).2.prune := by
  intro p
  cases hid : t.idOf? number with
  | none =>
    have hpruned : t.prune.idOf? number = none := hid
    have hstop (u : Tables) (hu : u.idOf? number = none) :
        p.stop? u = (overlong? number.utf8ByteSize).map Failure.ofDatabase := by
      simp [p, Procedure.stop?, Procedure.id?, Procedure.excess?, hu]
    rw [execute_eq, execute_eq, hstop t hid, hstop t.prune hpruned]
    simp only [p, run, hid, hpruned]
    cases overlong? number.utf8ByteSize <;>
      exact ⟨.same (by simp [Procedure.change?, hid]), rfl⟩
  | some id =>
    cases hfault : p.textFault? with
    | some e =>
      have hstop (u : Tables) (hu : u.idOf? number = some id) :
          p.stop? u = some (.ofDatabase e) := by
        rw [Procedure.textFault?] at hfault
        cases hn : overlong? number.utf8ByteSize <;>
          simp_all [p, Procedure.stop?, Procedure.id?, Procedure.excess?]
      rw [execute_eq, execute_eq, hstop t hid, hstop t.prune hid]
      exact ⟨.unbound hfault, rfl⟩
    | none =>
      obtain ⟨hnumber, htarget⟩ :=
        Option.or_eq_none_iff.mp ((Option.orElse_eq_or).symm.trans hfault)
      exact t.execute_prune_insert_of_idOf? hid hnumber htarget kind start stop

theorem execute_prune_delete (number : String) (kind start : UInt8) :
    let p := Procedure.deleteCallForwarding number kind start
    Alike t p (t.prune.execute true p).1 (t.execute false p).1 ∧
      (t.prune.execute true p).2 = (t.execute false p).2.prune := by
  intro p
  have hstop (u : Tables) :
      p.stop? u = (overlong? number.utf8ByteSize).map Failure.ofDatabase := rfl
  rw [execute_eq, execute_eq, hstop, hstop]
  cases hnumber : overlong? number.utf8ByteSize with
  | some e => exact ⟨.unbound hnumber, rfl⟩
  | none =>
    cases hid : t.idOf? number with
    | none =>
      have hpruned : t.prune.idOf? number = none := hid
      simp only [p, run, hid, hpruned, Option.map_none, and_true]
      exact .same (by simp [Procedure.change?, hid])
    | some id =>
      simp only [p, Option.map_none]
      rw [run_delete_of_idOf? hid, run_delete_of_idOf? (t := t.prune) hid, hasForwarding_prune]
      refine ⟨?_, (prune_removeForwarding t id kind start).symm⟩
      cases hf : t.hasFacility id kind with
      | true => exact .same (by simp [Procedure.change?, hid, hf])
      | false => exact .delete hid hf

/-- Without foreign keys, a transaction comes out alike, and does nothing besides to any forwarding
but those of absent facilities. -/
theorem execute_prune (p : Procedure) :
    Alike t p (t.prune.execute true p).1 (t.execute false p).1 ∧
      (t.prune.execute true p).2 = (t.execute false p).2.prune := by
  cases p with
  | insertCallForwarding number kind start stop target =>
    exact t.execute_prune_insert number kind start stop target
  | deleteCallForwarding number kind start => exact t.execute_prune_delete number kind start
  | getNewDestination id kind start stop =>
    have hstop : (Procedure.getNewDestination id kind start stop).stop? t.prune =
      (Procedure.getNewDestination id kind start stop).stop? t := rfl
    rw [execute_eq, execute_eq, hstop]
    simp only [run, hasDestination_prune]
    cases Procedure.stop? t _ <;> exact ⟨.same (by simp [Procedure.change?]), rfl⟩
  | updateSubscriberData id kind bit dataA =>
    have hstop : (Procedure.updateSubscriberData id kind bit dataA).stop? t.prune =
      (Procedure.updateSubscriberData id kind bit dataA).stop? t := rfl
    have hdata := (t.setBit id bit).prune_setDataA id kind dataA
    rw [execute_eq, execute_eq, hstop]
    cases Procedure.stop? t _ with
    | some f => exact ⟨.same (by simp [Procedure.change?]), rfl⟩
    | none => exact ⟨.same (by simp [Procedure.change?]), hdata.symm⟩
  | getSubscriberData | getAccessData | updateLocation =>
    have hstop {p : Procedure} (hp : p.stop? t.prune = p.stop? t) := hp
    rw [execute_eq, execute_eq, hstop rfl]
    cases Procedure.stop? t _ <;> exact ⟨.same (by simp [Procedure.change?]), rfl⟩

theorem executeAll_prune (t : Tables) (ps : List Procedure) :
    (t.prune.executeAll true ps).2 = (t.executeAll false ps).2.prune := by
  induction ps generalizing t with
  | nil => rfl
  | cons p ps ih => rw [executeAll_cons, executeAll_cons, (t.execute_prune p).2, ih]

end Tables

/-- Two sessions on the same tables, of which every row has its parent; the first enforces foreign
keys, the second does not. Whatever calls are made in both, the first ends with the tables of the
second, less the forwardings of absent facilities, and the next call comes out in both as Alike
says. -/
theorem enforcement_prunes {strict lax : Session} {t : Tables} (hs : strict.Ready t)
    (hl : lax.Ready t) (hon : strict.options.foreignKeys = true)
    (hoff : lax.options.foreignKeys = false) (ht : t.Rooted) (calls : List Call)
    (hc : ∀ c ∈ calls, c.1 < strict.seats.length ∧ c.1 < lax.seats.length) :
    ∃ results s otherResults l u, strict.executeAll calls = some (results, s) ∧
      lax.executeAll calls = some (otherResults, l) ∧
      s.store = .ofTables u.prune ∧ l.store = .ofTables u ∧
      ∀ (i : Nat) (p : Procedure), i < strict.seats.length → i < lax.seats.length →
        ∃ result s' otherResult l', s.execute i p = some (result, s') ∧
          l.execute i p = some (otherResult, l') ∧ Alike u p result otherResult := by
  obtain ⟨s, hsx, hsready, hsoptions, hslen⟩ := hs.executeAll fun c h => (hc c h).1
  obtain ⟨l, hlx, hlready, hloptions, hllen⟩ := hl.executeAll fun c h => (hc c h).2
  rw [hon] at hsready
  rw [hoff] at hlready
  have htables : (t.executeAll true (calls.map (·.2))).2 =
      (t.executeAll false (calls.map (·.2))).2.prune := by
    rw [← Tables.executeAll_prune, ht.prune_eq]
  rw [htables] at hsready
  refine ⟨_, s, _, l, _, hsx, hlx, hsready.store, hlready.store, ?_⟩
  intro i p hi hj
  obtain ⟨s', hs', -⟩ := hsready.execute (hslen ▸ hi) p
  obtain ⟨l', hl', -⟩ := hlready.execute (hllen ▸ hj) p
  rw [hsoptions, hon] at hs'
  rw [hloptions, hoff] at hl'
  exact ⟨_, s', _, l', hs', hl', (Tables.execute_prune _ p).1⟩

/-- A forwarding of an absent facility is added where foreign keys are not enforced, and only there
can it be deleted. -/
theorem enforcement_prunes_stray :
    let strict := Session.on 1 true (.ofTables twoSubscribers)
    let lax := Session.on 1 false (.ofTables twoSubscribers)
    let calls := [(0, Procedure.insertCallForwarding "1" 2 0 8 "5")]
    ∃ results s otherResults l, strict.executeAll calls = some (results, s) ∧
      lax.executeAll calls = some (otherResults, l) ∧
      ∃ s' l', s.execute 0 (.deleteCallForwarding "1" 2 0) = some (.ok .missing, s') ∧
        l.execute 0 (.deleteCallForwarding "1" 2 0) = some (.ok .success, l') := by
  intro strict lax calls
  have hc : ∀ c ∈ calls, c.1 < strict.seats.length ∧ c.1 < lax.seats.length := by
    simp [calls, strict, lax]
  obtain ⟨results, s, otherResults, l, u, hs, hl, -, hu, hnext⟩ :=
    enforcement_prunes (Session.ready_on 1 true twoSubscribers)
      (Session.ready_on 1 false twoSubscribers) rfl rfl rooted_twoSubscribers calls hc
  refine ⟨results, s, otherResults, l, hs, hl, ?_⟩
  have hstore : (lax.executeAll calls).map (·.2.store) = some (.ofTables u) := by
    rw [hl, Option.map_some, hu]
  have hadded : (lax.executeAll calls).map (·.2.store) =
      some (.ofTables (twoSubscribers.add (.forwarding ⟨1, 2, 0, 8, "5"⟩))) := rfl
  obtain rfl : u = twoSubscribers.add (.forwarding ⟨1, 2, 0, 8, "5"⟩) :=
    congrArg Store.tables (Option.some.inj (hstore.symm.trans hadded))
  obtain ⟨result, s', otherResult, l', hs', hl', halike⟩ :=
    hnext 0 (.deleteCallForwarding "1" 2 0) (by simp) (by simp)
  refine ⟨s', l', ?_⟩
  cases halike with
  | same h =>
    exact absurd (h (.removed, 1, 2, 0) rfl) (by decide)
  | unbound h =>
    have hfits : (Procedure.deleteCallForwarding "1" 2 0).textFault? = none := by decide
    cases hfits.symm.trans h
  | delete hid hf =>
    obtain rfl := Option.some.inj (hid.symm.trans (show _ = some 1 from rfl))
    exact ⟨hs', hl'⟩

/-- An insertion for a subscriber whose facility is absent is no conflict, although foreign keys are
enforced, if somebody else has a lock, or if the number that it carries is too long. -/
theorem enforcement_prunes_stopped :
    let strict := Session.on 1 true (.ofTables twoSubscribers)
    twoSubscribers.Rooted ∧ twoSubscribers.idOf? "1" = some 1 ∧
      twoSubscribers.hasFacility 1 2 = false ∧
      (({ strict with lock := some .immediate } : Session).execute 0
        (.insertCallForwarding "1" 2 0 8 "5")).map (·.1) = some (.error Session.lockedFailure) ∧
      (strict.execute 0 (.insertCallForwarding "1" 2 0 8 longText)).map (·.1) =
        some (.error (.ofDatabase .tooBig)) := by
  intro strict
  refine ⟨rooted_twoSubscribers, rfl, rfl, rfl, ?_⟩
  obtain ⟨s, hs, -⟩ := (Session.ready_on 1 true twoSubscribers).execute (i := 0) (by simp)
    (.insertCallForwarding "1" 2 0 8 longText)
  have hid : twoSubscribers.idOf? "1" = some 1 := rfl
  have hnumber : overlong? "1".utf8ByteSize = none := by decide
  have hexcess : Procedure.excess? twoSubscribers (.insertCallForwarding "1" 2 0 8 longText) =
      some .tooBig := by
    simp [Procedure.excess?, hid, hnumber, overlong?_longText]
  rw [hs, Tables.execute_eq, Procedure.stop?, hexcess]
  rfl

end StoreBench.Telecom
