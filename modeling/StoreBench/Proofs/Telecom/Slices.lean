import StoreBench.Proofs.Telecom.Calls

/-!
The rows about one subscriber. A transaction is about at most one subscriber, reads nothing but the
rows about it, and leaves the rows about all others as they are.
-/
namespace StoreBench.Telecom

theorem map_if_eq_self {α : Type} {l : List α} {p : α → Prop} [DecidablePred p] {f : α → α}
    (h : ∀ a ∈ l, ¬p a) : (l.map fun a => if p a then f a else a) = l := by
  conv_rhs => rw [← List.map_id l]
  exact List.map_congr_left fun a ha => if_neg (h a ha)

namespace Tables

def slice (t : Tables) (id : UInt64) : Tables :=
  ⟨t.subscribers.filter (·.id == id), t.accessInfos.filter (·.owner == id),
    t.facilities.filter (·.owner == id), t.forwardings.filter (·.owner == id)⟩

theorem recordsOf_slice (t : Tables) (id : UInt64) (table : Table) :
    (t.slice id).recordsOf table = (t.recordsOf table).filter (·.owner == id) := by
  cases table <;> simp [recordsOf, slice, List.filter_map, Function.comp_def, Record.owner]

section Writing

variable {t : Tables}

theorem setBit_eq_self {id : UInt64} (h : ∀ r ∈ t.subscribers, r.id ≠ id) (bit : Bool) :
    t.setBit id bit = t := by
  rw [setBit, map_if_eq_self h]

theorem setDataA_eq_self {id : UInt64} {kind : UInt8}
    (h : ∀ r ∈ t.facilities, ¬(r.owner = id ∧ r.kind = kind)) (dataA : UInt8) :
    t.setDataA id kind dataA = t := by
  rw [setDataA, map_if_eq_self h]

theorem setLocation_eq_self {number : String} (h : ∀ r ∈ t.subscribers, r.number ≠ number)
    (vlrLocation : UInt32) : t.setLocation number vlrLocation = t := by
  rw [setLocation, map_if_eq_self h]

end Writing

section Reading

variable (t : Tables) (id : UInt64)

theorem hasSubscriber_slice : (t.slice id).hasSubscriber id = t.hasSubscriber id := by
  simp [hasSubscriber, slice]

theorem hasAccessInfo_slice (kind : UInt8) :
    (t.slice id).hasAccessInfo id kind = t.hasAccessInfo id kind := by
  simp [hasAccessInfo, slice]

theorem hasFacility_slice (kind : UInt8) :
    (t.slice id).hasFacility id kind = t.hasFacility id kind := by
  simp [hasFacility, slice]

theorem hasForwarding_slice (kind start : UInt8) :
    (t.slice id).hasForwarding id kind start = t.hasForwarding id kind start := by
  simp [hasForwarding, slice, ← Bool.and_assoc]

theorem hasDestination_slice (kind start stop : UInt8) :
    (t.slice id).hasDestination id kind start stop = t.hasDestination id kind start stop := by
  simp [hasDestination, slice, ← Bool.and_assoc]

theorem refusal?_slice (foreignKeys : Bool) (row : Forwarding) :
    (t.slice row.owner).refusal? foreignKeys (.forwarding row) =
      t.refusal? foreignKeys (.forwarding row) := by
  have hkey : (t.slice row.owner).takesKey (.forwarding row) = t.takesKey (.forwarding row) :=
    t.hasForwarding_slice row.owner row.kind row.start
  have hparent : (t.slice row.owner).hasParent (.forwarding row) = t.hasParent (.forwarding row) :=
    t.hasFacility_slice row.owner row.kind
  rw [refusal?, hkey, hparent]
  rfl

end Reading

section Resolving

variable {t : Tables} {number : String} {id : UInt64}

theorem idOf?_eq_none_iff : t.idOf? number = none ↔ ∀ r ∈ t.subscribers, r.number ≠ number := by
  simp [idOf?]

theorem hasNumber_of_idOf? (h : t.idOf? number = some id) : t.hasNumber number = true := by
  obtain ⟨r, hr, hnumber, -⟩ := exists_of_idOf? h
  exact List.any_eq_true.mpr ⟨r, hr, beq_iff_eq.mpr hnumber⟩

/-- Where numbers are unique, every subscriber's number resolves to it. -/
theorem idOf?_eq_some_iff (hn : (t.subscribers.map (·.number)).Nodup) :
    t.idOf? number = some id ↔ ∃ r ∈ t.subscribers, r.number = number ∧ r.id = id := by
  refine ⟨exists_of_idOf?, ?_⟩
  rintro ⟨r, hr, rfl, rfl⟩
  cases hid : t.idOf? r.number with
  | none => exact absurd rfl (idOf?_eq_none_iff.mp hid r hr)
  | some id =>
    obtain ⟨q, hq, hnumber, rfl⟩ := exists_of_idOf? hid
    rw [List.inj_on_of_nodup_map hn hq hr hnumber]

/-- Where numbers are unique, nobody else is meant by the number of a subscriber. -/
theorem exists_number_iff (hn : (t.subscribers.map (·.number)).Nodup) {s : Subscriber}
    (hs : s ∈ t.subscribers) {P : Subscriber → Prop} :
    (∃ q ∈ t.subscribers, q.number = s.number ∧ P q) ↔ P s := by
  constructor
  · rintro ⟨q, hq, hsame, h⟩
    rwa [List.inj_on_of_nodup_map hn hq hs hsame] at h
  · exact fun h => ⟨s, hs, rfl, h⟩

theorem idOf?_slice (hn : (t.subscribers.map (·.number)).Nodup) (h : t.idOf? number = some id) :
    (t.slice id).idOf? number = some id := by
  obtain ⟨r, hr, hnumber, rfl⟩ := (idOf?_eq_some_iff hn).mp h
  have hslice : ((t.slice r.id).subscribers.map (·.number)).Nodup :=
    hn.sublist (List.filter_sublist.map _)
  exact (idOf?_eq_some_iff hslice).mpr ⟨r, List.mem_filter.mpr ⟨hr, by simp⟩, hnumber, rfl⟩

/-- Where numbers are unique, nobody else has the number of a subscriber. -/
theorem withNumber_slice (hn : (t.subscribers.map (·.number)).Nodup)
    (h : t.idOf? number = some id) :
    (t.slice id).withNumber number = t.withNumber number := by
  have hrows : (t.subscribers.filter (·.id == id)).filter (·.number == number) =
      t.subscribers.filter (·.number == number) := by
    rw [List.filter_filter]
    refine List.filter_congr fun r hr => ?_
    cases hnumber : r.number == number with
    | false => rfl
    | true =>
      have hr := (idOf?_eq_some_iff hn).mpr ⟨r, hr, beq_iff_eq.mp hnumber, rfl⟩
      simp [Option.some.inj (hr.symm.trans h)]
  rw [withNumber, slice, hrows, withNumber]

theorem withNumber_setLocation_eq_nil (h : t.idOf? number = none) (vlrLocation : UInt32) :
    (t.setLocation number vlrLocation).withNumber number = [] := by
  have hne := idOf?_eq_none_iff.mp h
  rw [setLocation_eq_self hne, withNumber, List.map_eq_nil_iff, List.filter_eq_nil_iff]
  simpa using hne

theorem withId_slice : (t.slice id).withId id = t.withId id := by
  simp [withId, slice, List.filter_filter]

theorem withKind_slice (kind : UInt8) : (t.slice id).withKind id kind = t.withKind id kind := by
  simp [withKind, slice, List.filter_filter, Bool.and_right_comm]

end Resolving

section Writing

variable (t : Tables) (id : UInt64)

theorem slice_setBit (owner : UInt64) (bit : Bool) :
    (t.setBit owner bit).slice id = (t.slice id).setBit owner bit := by
  have h (r : Subscriber) :
      ((if r.id = owner then { r with bits := r.bits.set 0 bit } else r).id == id)
      = (r.id == id) := by split <;> rfl
  simp only [slice, setBit, List.filter_map, Function.comp_def, h]

theorem slice_setDataA (owner : UInt64) (kind dataA : UInt8) :
    (t.setDataA owner kind dataA).slice id = (t.slice id).setDataA owner kind dataA := by
  have h (r : Facility) : ((if r.owner = owner ∧ r.kind = kind then { r with dataA } else r).owner
      == id) = (r.owner == id) := by split <;> rfl
  simp only [slice, setDataA, List.filter_map, Function.comp_def, h]

theorem slice_setLocation (number : String) (vlrLocation : UInt32) :
    (t.setLocation number vlrLocation).slice id = (t.slice id).setLocation number vlrLocation := by
  have h (r : Subscriber) : ((if r.number = number then { r with vlrLocation } else r).id == id)
      = (r.id == id) := by split <;> rfl
  simp only [slice, setLocation, List.filter_map, Function.comp_def, h]

theorem slice_removeForwarding (owner : UInt64) (kind start : UInt8) :
    (t.removeForwarding owner kind start).slice id =
      (t.slice id).removeForwarding owner kind start := by
  simp only [slice, removeForwarding, List.filter_filter, Bool.and_comm]

theorem slice_add (row : Forwarding) : (t.add (.forwarding row)).slice id =
    if row.owner = id then (t.slice id).add (.forwarding row) else t.slice id := by
  by_cases h : row.owner = id
  · simp [slice, add, h]
  · simp [slice, add, h]

end Writing

end Tables

/-- The subscriber that a procedure is about, if there is one: it carries its id, or a number. -/
def Procedure.addressee? (t : Tables) : Procedure → Option UInt64
  | getSubscriberData id => some id
  | getNewDestination id _ _ _ => some id
  | getAccessData id _ => some id
  | updateSubscriberData id _ _ _ => some id
  | updateLocation number _ => t.idOf? number
  | insertCallForwarding number _ _ _ _ => t.idOf? number
  | deleteCallForwarding number _ _ => t.idOf? number

theorem Procedure.addressee?_of_skeleton {t u : Tables} (h : u.skeleton = t.skeleton)
    (p : Procedure) : p.addressee? u = p.addressee? t := by
  unfold addressee?
  rw [Tables.idOf?_of_skeleton h]

namespace Tables

variable {t : Tables} {p : Procedure} {id : UInt64}

/-- A transaction comes out on the rows about its addressee as it does on all. -/
theorem run_slice (hn : (t.subscribers.map (·.number)).Nodup) (h : p.addressee? t = some id)
    (foreignKeys : Bool) :
    (t.slice id).run foreignKeys p =
      ((t.run foreignKeys p).1, (t.run foreignKeys p).2.slice id) := by
  cases p with
  | getSubscriberData | getNewDestination | getAccessData =>
    obtain rfl := Option.some.inj h
    simp only [run, hasSubscriber_slice, hasDestination_slice, hasAccessInfo_slice]
  | updateSubscriberData =>
    obtain rfl := Option.some.inj h
    simp only [run, hasFacility_slice, slice_setDataA, slice_setBit]
  | updateLocation number vlr =>
    have hnumber := hasNumber_of_idOf? (idOf?_slice hn h)
    simp only [run, hnumber, hasNumber_of_idOf? h, slice_setLocation]
  | insertCallForwarding number kind start stop target =>
    rw [run_insert_of_idOf? h, run_insert_of_idOf? (idOf?_slice hn h)]
    have hrow := t.refusal?_slice foreignKeys ⟨id, kind, start, stop, target⟩
    dsimp only at hrow ⊢
    rw [hrow]
    split
    · rw [slice_add, if_pos rfl]
    · rfl
  | deleteCallForwarding number kind start =>
    rw [run_delete_of_idOf? h, run_delete_of_idOf? (idOf?_slice hn h), hasForwarding_slice,
      slice_removeForwarding]

/-- Where numbers are unique, a transaction leaves alone what is not about its addressee. -/
theorem slice_run (hn : (t.subscribers.map (·.number)).Nodup) (h : p.addressee? t = some id)
    (foreignKeys : Bool) {other : UInt64} (hne : other ≠ id) :
    (t.run foreignKeys p).2.slice other = t.slice other := by
  cases p with
  | updateSubscriberData owner kind bit dataA =>
    obtain rfl := Option.some.inj h
    have hbit : (t.slice other).setBit owner bit = t.slice other := by
      apply setBit_eq_self
      intro r hr
      simp_all [slice]
    have hdata : (t.slice other).setDataA owner kind dataA = t.slice other := by
      apply setDataA_eq_self
      intro r hr
      simp_all [slice]
    simp only [run, slice_setDataA, slice_setBit, hbit, hdata]
  | updateLocation number vlr =>
    -- All rows with the number are written, of which there is only the addressee's.
    simp only [run, slice_setLocation]
    apply setLocation_eq_self
    intro r hr hnumber
    obtain ⟨hr, he⟩ := List.mem_filter.mp hr
    have hid := (idOf?_eq_some_iff hn).mpr ⟨r, hr, hnumber, rfl⟩
    obtain rfl := Option.some.inj (hid.symm.trans h)
    exact hne (beq_iff_eq.mp he).symm
  | insertCallForwarding number kind start stop target =>
    rcases t.run_insert foreignKeys number kind start stop target with
      ⟨-, hrun⟩ | ⟨owner, hid, ⟨-, hrun⟩ | ⟨-, hrun⟩⟩
    · rw [hrun]
    · rw [hrun]
    · obtain rfl := Option.some.inj (hid.symm.trans h)
      rw [hrun, slice_add, if_neg hne.symm]
  | deleteCallForwarding number kind start =>
    rcases t.run_delete foreignKeys number kind start with ⟨-, hrun⟩ | ⟨owner, hid, hrun⟩
    · rw [hrun]
    · obtain rfl := Option.some.inj (hid.symm.trans h)
      have hnone : (t.slice other).removeForwarding owner kind start = t.slice other := by
        rw [removeForwarding, List.filter_eq_self.mpr]
        intro r hr
        simp_all [slice]
      rw [hrun, slice_removeForwarding, hnone]
  | _ => rfl

/-- A transaction without an addressee finds nothing and changes nothing. -/
theorem run_of_addressee?_eq_none (h : p.addressee? t = none) (foreignKeys : Bool) :
    t.run foreignKeys p = (.missing, t) := by
  cases p with
  | updateLocation number vlr =>
    have hne := idOf?_eq_none_iff.mp h
    have hnumber : t.hasNumber number = false := by simpa [hasNumber] using hne
    simp only [run, hnumber, setLocation_eq_self hne]
    rfl
  | insertCallForwarding number | deleteCallForwarding number =>
    have hid : t.idOf? number = none := h
    simp only [run, hid]
  | _ => cases h

/-- What is wrong with a transaction about a subscriber is told by the rows about it. -/
theorem stop?_slice (hn : (t.subscribers.map (·.number)).Nodup) (h : p.addressee? t = some id) :
    p.stop? (t.slice id) = p.stop? t := by
  have hexcess : p.excess? (t.slice id) = p.excess? t := by
    cases p with
    | getSubscriberData | getNewDestination | getAccessData | deleteCallForwarding => rfl
    | updateSubscriberData owner kind bit dataA =>
      obtain rfl := Option.some.inj h
      rw [Procedure.excess?, ← slice_setBit, ← slice_setDataA, withId_slice, withKind_slice]
      rfl
    | updateLocation number vlr =>
      have hskeleton := t.skeleton_setLocation number vlr
      have hnumbers : ((t.setLocation number vlr).subscribers.map (·.number)).Nodup := by
        rwa [map_number_of_skeleton hskeleton]
      have hid : (t.setLocation number vlr).idOf? number = some id := by
        rwa [idOf?_of_skeleton hskeleton]
      rw [Procedure.excess?, ← slice_setLocation, withNumber_slice hnumbers hid]
      rfl
    | insertCallForwarding number kind start stop target =>
      have hid : t.idOf? number = some id := h
      simp only [Procedure.excess?, hid, idOf?_slice hn hid, Option.bind_some, hasForwarding_slice]
  rw [Procedure.stop?, hexcess, Procedure.stop?]

theorem stop?_of_addressee?_eq_none {u : Tables} (h : p.addressee? t = none)
    (hu : p.addressee? u = none) : p.stop? u = p.stop? t := by
  cases p with
  | updateLocation number vlr =>
    simp only [Procedure.stop?, Procedure.excess?, withNumber_setLocation_eq_nil h,
      withNumber_setLocation_eq_nil hu]
  | insertCallForwarding number =>
    have hid : t.idOf? number = none := h
    have hother : u.idOf? number = none := hu
    simp only [Procedure.stop?, Procedure.excess?, hid, hother, Option.bind_none]
  | deleteCallForwarding => rfl
  | _ => cases h

theorem execute_slice (hn : (t.subscribers.map (·.number)).Nodup) (h : p.addressee? t = some id)
    (foreignKeys : Bool) :
    (t.slice id).execute foreignKeys p =
      ((t.execute foreignKeys p).1, (t.execute foreignKeys p).2.slice id) := by
  rw [execute_eq, execute_eq, stop?_slice hn h]
  cases p.stop? t with
  | none => simp only [run_slice hn h]
  | some f => rfl

theorem slice_execute (hn : (t.subscribers.map (·.number)).Nodup) (h : p.addressee? t = some id)
    (foreignKeys : Bool) {other : UInt64} (hne : other ≠ id) :
    (t.execute foreignKeys p).2.slice other = t.slice other := by
  rw [execute_eq]
  cases p.stop? t with
  | none => exact slice_run hn h foreignKeys hne
  | some f => rfl

theorem execute_of_addressee?_eq_none (h : p.addressee? t = none) (foreignKeys : Bool) :
    t.execute foreignKeys p = ((p.stop? t).elim (.ok .missing) .error, t) := by
  rw [execute_eq, run_of_addressee?_eq_none h]
  cases p.stop? t <;> rfl

end Tables

end StoreBench.Telecom
