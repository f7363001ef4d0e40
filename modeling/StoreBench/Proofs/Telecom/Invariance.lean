import StoreBench.Proofs.Telecom.Population
import StoreBench.Proofs.Telecom.Requests
import StoreBench.Proofs.Telecom.Running

/-!
What no transaction changes: who the subscribers are, their access information, and which facilities
they have. This settles most outcomes.
-/
namespace StoreBench.Telecom

namespace Tables

/-- The parts of the tables that no transaction changes. -/
def skeleton (t : Tables) : List (UInt64 × String) × List AccessInfo × List (UInt64 × UInt8) :=
  (t.subscribers.map fun r => (r.id, r.number), t.accessInfos,
    t.facilities.map fun r => (r.owner, r.kind))

theorem skeleton_setBit (t : Tables) (id : UInt64) (bit : Bool) :
    (t.setBit id bit).skeleton = t.skeleton := by
  have h (r : Subscriber) : (fun r : Subscriber => (r.id, r.number))
      (if r.id = id then { r with bits := r.bits.set 0 bit } else r) = (r.id, r.number) := by
    split <;> rfl
  simp only [skeleton, setBit, List.map_map, Function.comp_def, h]

theorem skeleton_setDataA (t : Tables) (id : UInt64) (kind dataA : UInt8) :
    (t.setDataA id kind dataA).skeleton = t.skeleton := by
  have h (r : Facility) : (fun r : Facility => (r.owner, r.kind))
      (if r.owner = id ∧ r.kind = kind then { r with dataA } else r) = (r.owner, r.kind) := by
    split <;> rfl
  simp only [skeleton, setDataA, List.map_map, Function.comp_def, h]

theorem skeleton_setLocation (t : Tables) (number : String) (vlr : UInt32) :
    (t.setLocation number vlr).skeleton = t.skeleton := by
  have h (r : Subscriber) : (fun r : Subscriber => (r.id, r.number))
      (if r.number = number then { r with vlrLocation := vlr } else r) = (r.id, r.number) := by
    split <;> rfl
  simp only [skeleton, setLocation, List.map_map, Function.comp_def, h]

/-- A forwarding is refused if its key is taken, if it is too long and, where foreign keys are
enforced, if its facility is absent. -/
theorem refusal?_forwarding (t : Tables) (foreignKeys : Bool) (row : Forwarding) :
    t.refusal? foreignKeys (.forwarding row) = none ↔
      t.hasForwarding row.owner row.kind row.start = false ∧
        (Record.forwarding row).length ≤ maxLength ∧
        (foreignKeys = true → t.hasFacility row.owner row.kind = true) := by
  simp [refusal?_eq_none_iff, takesKey, takesNumber, hasParent]

theorem run_insert_of_idOf? {t : Tables} {number : String} {id : UInt64}
    (hid : t.idOf? number = some id) (foreignKeys : Bool) (kind start stop : UInt8)
    (target : String) :
    let row : Record := .forwarding ⟨id, kind, start, stop, target⟩
    t.run foreignKeys (.insertCallForwarding number kind start stop target) =
      if t.refusal? foreignKeys row = none then (.success, t.add row) else (.conflict, t) := by
  simp only [run, hid]
  cases t.refusal? foreignKeys (.forwarding ⟨id, kind, start, stop, target⟩) <;> rfl

theorem run_delete_of_idOf? {t : Tables} {number : String} {id : UInt64}
    (hid : t.idOf? number = some id) (foreignKeys : Bool) (kind start : UInt8) :
    t.run foreignKeys (.deleteCallForwarding number kind start) =
      (.ofHit (t.hasForwarding id kind start), t.removeForwarding id kind start) := by
  simp only [run, hid]

/-- An insertion finds nobody, or is refused, or adds its row. -/
theorem run_insert (t : Tables) (foreignKeys : Bool) (number : String) (kind start stop : UInt8)
    (target : String) :
    let result := t.run foreignKeys (.insertCallForwarding number kind start stop target)
    (t.idOf? number = none ∧ result = (.missing, t)) ∨ ∃ id, t.idOf? number = some id ∧
      let row : Record := .forwarding ⟨id, kind, start, stop, target⟩
      ((t.refusal? foreignKeys row ≠ none ∧ result = (.conflict, t)) ∨
        (t.refusal? foreignKeys row = none ∧ result = (.success, t.add row))) := by
  cases hid : t.idOf? number with
  | none => exact .inl ⟨rfl, by simp only [run, hid]⟩
  | some id =>
    refine .inr ⟨id, rfl, ?_⟩
    rw [run_insert_of_idOf? hid]
    by_cases hr : t.refusal? foreignKeys (.forwarding ⟨id, kind, start, stop, target⟩) = none
    · exact .inr ⟨hr, if_pos hr⟩
    · exact .inl ⟨hr, if_neg hr⟩

/-- A deletion finds nobody, or takes out what is there. -/
theorem run_delete (t : Tables) (foreignKeys : Bool) (number : String) (kind start : UInt8) :
    let result := t.run foreignKeys (.deleteCallForwarding number kind start)
    (t.idOf? number = none ∧ result = (.missing, t)) ∨ ∃ id, t.idOf? number = some id ∧
      result = (.ofHit (t.hasForwarding id kind start), t.removeForwarding id kind start) := by
  cases hid : t.idOf? number with
  | none => exact .inl ⟨rfl, by simp only [run, hid]⟩
  | some id => exact .inr ⟨id, rfl, run_delete_of_idOf? hid foreignKeys kind start⟩

/-- No transaction changes the skeleton. -/
theorem skeleton_run (t : Tables) (foreignKeys : Bool) (p : Procedure) :
    (t.run foreignKeys p).2.skeleton = t.skeleton := by
  cases p with
  | updateSubscriberData id kind bit dataA =>
    exact (skeleton_setDataA _ id kind dataA).trans (t.skeleton_setBit id bit)
  | updateLocation number vlr => exact t.skeleton_setLocation number vlr
  | insertCallForwarding number kind start stop target =>
    rcases t.run_insert foreignKeys number kind start stop target with
      ⟨-, h⟩ | ⟨id, -, ⟨-, h⟩ | ⟨-, h⟩⟩ <;> exact congrArg (·.2.skeleton) h
  | deleteCallForwarding number kind start =>
    rcases t.run_delete foreignKeys number kind start with ⟨-, h⟩ | ⟨id, -, h⟩ <;>
      exact congrArg (·.2.skeleton) h
  | _ => rfl

theorem skeleton_execute (t : Tables) (foreignKeys : Bool) (p : Procedure) :
    (t.execute foreignKeys p).2.skeleton = t.skeleton := by
  rw [execute_eq]
  cases p.stop? t with
  | some f => rfl
  | none => exact t.skeleton_run foreignKeys p

/-- What an insertion comes to whose texts are not too long and whose number is somebody's: the key
is looked at first, the length of the row next, the facility last. -/
theorem execute_insert_of_idOf? {t : Tables} {number target : String} {id : UInt64}
    (hid : t.idOf? number = some id) (hnumber : overlong? number.utf8ByteSize = none)
    (htarget : overlong? target.utf8ByteSize = none) (foreignKeys : Bool)
    (kind start stop : UInt8) :
    let row : Record := .forwarding ⟨id, kind, start, stop, target⟩
    t.execute foreignKeys (.insertCallForwarding number kind start stop target) =
      if t.hasForwarding id kind start = true then (.ok .conflict, t)
      else if maxLength < row.length then (.error (.ofDatabase .tooBig), t)
      else if foreignKeys = true ∧ t.hasFacility id kind = false then (.ok .conflict, t)
      else (.ok .success, t.add row) := by
  intro row
  have hkey : t.takesKey row = t.hasForwarding id kind start := rfl
  have hfree : t.takesNumber row = false := rfl
  have hparent : t.hasParent row = t.hasFacility id kind := rfl
  rw [execute_eq, run_insert_of_idOf? hid]
  simp only [Procedure.stop?, Procedure.id?, Procedure.excess?, hid, hnumber, htarget,
    Option.bind_none, Option.bind_some, Option.orElse_eq_orElse, Option.orElse_eq_or,
    Option.none_or]
  cases hf : t.hasForwarding id kind start with
  | true => simp [refusal?, hkey, hf, row]
  | false =>
    by_cases hl : maxLength < row.length
    · simp [rowExcess?, hl, row]
    · cases foreignKeys <;> cases hp : t.hasFacility id kind <;>
        simp [rowExcess?, refusal?, hkey, hfree, hparent, hf, hl, hp, row]

theorem hasSubscriber_eq (t : Tables) (id : UInt64) :
    t.hasSubscriber id = t.skeleton.1.any (·.1 == id) := by
  simp [hasSubscriber, skeleton, List.any_map, Function.comp_def]

theorem hasNumber_eq (t : Tables) (number : String) :
    t.hasNumber number = t.skeleton.1.any (·.2 == number) := by
  simp [hasNumber, skeleton, List.any_map, Function.comp_def]

theorem hasFacility_eq (t : Tables) (owner : UInt64) (kind : UInt8) :
    t.hasFacility owner kind = t.skeleton.2.2.any fun k => k.1 == owner && k.2 == kind := by
  simp [hasFacility, skeleton, List.any_map, Function.comp_def]

theorem hasAccessInfo_eq (t : Tables) (owner : UInt64) (kind : UInt8) :
    t.hasAccessInfo owner kind =
      t.skeleton.2.1.any fun r => r.owner == owner && r.kind == kind := rfl

theorem exists_idOf? {t : Tables} {number : String} (h : t.hasNumber number = true) :
    ∃ id, t.idOf? number = some id := by
  unfold idOf?
  cases hf : t.subscribers.find? (·.number == number) with
  | none =>
    rw [List.find?_eq_none] at hf
    obtain ⟨r, hr, he⟩ := List.any_eq_true.mp h
    exact absurd he (hf r hr)
  | some r => exact ⟨r.id, rfl⟩

theorem exists_of_idOf? {t : Tables} {number : String} {id : UInt64}
    (h : t.idOf? number = some id) :
    ∃ r ∈ t.subscribers, r.number = number ∧ r.id = id := by
  obtain ⟨r, hr, he⟩ := Option.map_eq_some_iff.mp h
  exact ⟨r, List.mem_of_find?_eq_some hr, by simpa using List.find?_some hr, he⟩

end Tables

def HasAccess (id : UInt64) (kind : UInt8) : Prop := ∃ r, .accessInfo r ∈ block id ∧ r.kind = kind

def HasFacility (id : UInt64) (kind : UInt8) : Prop := ∃ r, .facility r ∈ block id ∧ r.kind = kind

/-- The tables agree with the population of `n` subscribers, as far as no transaction changes it. -/
structure Tables.Agree (n : UInt64) (t : Tables) : Prop where
  subscriber : ∀ id, 1 ≤ id → id ≤ n → t.hasSubscriber id = true
  number : ∀ id, 1 ≤ id → id ≤ n → t.hasNumber (SubscriberNumber.ofId id) = true
  access : ∀ id kind, 1 ≤ id → id ≤ n → (t.hasAccessInfo id kind = true ↔ HasAccess id kind)
  facility : ∀ id kind, 1 ≤ id → id ≤ n → (t.hasFacility id kind = true ↔ HasFacility id kind)

namespace Tables.Agree

variable {n : UInt64} {t : Tables}

theorem of_skeleton {u : Tables} (h : t.Agree n) (hu : u.skeleton = t.skeleton) : u.Agree n := by
  constructor
  · intro id h1 hn
    rw [hasSubscriber_eq, hu, ← hasSubscriber_eq]
    exact h.subscriber id h1 hn
  · intro id h1 hn
    rw [hasNumber_eq, hu, ← hasNumber_eq]
    exact h.number id h1 hn
  · intro id kind h1 hn
    rw [hasAccessInfo_eq, hu, ← hasAccessInfo_eq]
    exact h.access id kind h1 hn
  · intro id kind h1 hn
    rw [hasFacility_eq, hu, ← hasFacility_eq]
    exact h.facility id kind h1 hn

theorem of_perm (hp : t.records.Perm (population n)) : t.Agree n := by
  have hs (r : Subscriber) : r ∈ t.subscribers ↔ .subscriber r ∈ population n := by
    simpa [records] using hp.mem_iff (a := .subscriber r)
  have ha (r : AccessInfo) : r ∈ t.accessInfos ↔ .accessInfo r ∈ population n := by
    simpa [records] using hp.mem_iff (a := .accessInfo r)
  have hf (r : Facility) : r ∈ t.facilities ↔ .facility r ∈ population n := by
    simpa [records] using hp.mem_iff (a := .facility r)
  constructor
  · intro id h1 hn
    obtain ⟨r, hr, rfl, -⟩ := exists_subscriber h1 hn
    exact List.any_eq_true.mpr ⟨r, (hs r).mpr hr, by simp⟩
  · intro id h1 hn
    obtain ⟨r, hr, -, he⟩ := exists_subscriber h1 hn
    exact List.any_eq_true.mpr ⟨r, (hs r).mpr hr, by simp [he]⟩
  · intro id kind h1 hn
    constructor
    · intro h
      obtain ⟨r, hr, he⟩ := List.any_eq_true.mp h
      obtain ⟨rfl, hk⟩ : r.owner = id ∧ r.kind = kind := by simpa using he
      exact ⟨r, (mem_population.mp ((ha r).mp hr)).2.2, hk⟩
    · rintro ⟨r, hr, rfl⟩
      have ho : r.owner = id := (isBlock_block id).owner_eq _ hr
      subst ho
      exact List.any_eq_true.mpr ⟨r, (ha r).mpr (mem_population.mpr ⟨h1, hn, hr⟩), by simp⟩
  · intro id kind h1 hn
    constructor
    · intro h
      obtain ⟨r, hr, he⟩ := List.any_eq_true.mp h
      obtain ⟨rfl, hk⟩ : r.owner = id ∧ r.kind = kind := by simpa using he
      exact ⟨r, (mem_population.mp ((hf r).mp hr)).2.2, hk⟩
    · rintro ⟨r, hr, rfl⟩
      have ho : r.owner = id := (isBlock_block id).owner_eq _ hr
      subst ho
      exact List.any_eq_true.mpr ⟨r, (hf r).mpr (mem_population.mpr ⟨h1, hn, hr⟩), by simp⟩

end Tables.Agree

/-- What is known of the outcome of a procedure about a subscriber of the population. -/
def Procedure.Expects (outcome : Outcome) : Procedure → Prop
  | getSubscriberData _ => outcome = .success
  | getNewDestination .. => outcome ≠ .conflict
  | getAccessData id kind => outcome ≠ .conflict ∧ (outcome = .success ↔ HasAccess id kind)
  | updateSubscriberData id kind _ _ =>
    outcome ≠ .conflict ∧ (outcome = .success ↔ HasFacility id kind)
  | updateLocation .. => outcome = .success
  | insertCallForwarding .. => outcome ≠ .missing
  | deleteCallForwarding .. => outcome ≠ .conflict

theorem ofHit_eq_success {hit : Bool} : Outcome.ofHit hit = .success ↔ hit = true := by
  cases hit <;> simp [Outcome.ofHit]

theorem ofHit_ne_conflict (hit : Bool) : Outcome.ofHit hit ≠ .conflict := by
  cases hit <;> simp [Outcome.ofHit]

/-- Where the tables agree with the population, every outcome is one to be expected. -/
theorem Tables.Agree.expects {n : UInt64} {t : Tables} (h : t.Agree n) {p : Procedure}
    (hp : p.About n) (foreignKeys : Bool) : p.Expects (t.run foreignKeys p).1 := by
  cases p with
  | getSubscriberData id => exact ofHit_eq_success.mpr (h.subscriber id hp.1 hp.2)
  | getNewDestination id kind start stop => exact ofHit_ne_conflict _
  | getAccessData id kind =>
    exact ⟨ofHit_ne_conflict _, ofHit_eq_success.trans (h.access id kind hp.1 hp.2)⟩
  | updateSubscriberData id kind bit dataA =>
    exact ⟨ofHit_ne_conflict _, ofHit_eq_success.trans (h.facility id kind hp.1 hp.2)⟩
  | updateLocation number vlr =>
    obtain ⟨id, h1, hn, rfl⟩ := hp
    exact ofHit_eq_success.mpr (h.number id h1 hn)
  | insertCallForwarding number kind start stop target =>
    obtain ⟨id, h1, hn, rfl⟩ := hp
    obtain ⟨owner, ho⟩ := exists_idOf? (h.number id h1 hn)
    unfold Procedure.Expects
    rcases t.run_insert foreignKeys (SubscriberNumber.ofId id) kind start stop target with
      ⟨hn, -⟩ | ⟨owner, -, ⟨-, hr⟩ | ⟨-, hr⟩⟩
    · simp [ho] at hn
    · simp [hr]
    · simp [hr]
  | deleteCallForwarding number kind start =>
    unfold Procedure.Expects
    rcases t.run_delete foreignKeys number kind start with ⟨-, hr⟩ | ⟨id, -, hr⟩
    · simp [hr]
    · rw [hr]
      exact ofHit_ne_conflict _

end StoreBench.Telecom
