import StoreBench.Proofs.Telecom.Forwardings

/-!
Keys are unique, rows have their parents, and ids fit: what rows that are added and transactions
keep.
-/
namespace StoreBench.Telecom

theorem Effect.nodup {keys after : List ForwardingKey} {change : Option (Change × ForwardingKey)}
    (h : Effect keys change after) (hn : keys.Nodup) : after.Nodup := by
  cases h with
  | unchanged => exact hn
  | added hkey => exact List.nodup_cons.mpr ⟨hkey, hn⟩
  | removed hkey => exact hn.filter _

namespace Tables

/-- No two rows of a table have the same key, and no two subscribers the same number. -/
structure Keyed (t : Tables) : Prop where
  ids : (t.subscribers.map (·.id)).Nodup
  numbers : (t.subscribers.map (·.number)).Nodup
  accessInfos : (t.accessInfos.map fun r => (r.owner, r.kind)).Nodup
  facilities : (t.facilities.map fun r => (r.owner, r.kind)).Nodup
  forwardings : t.forwardingKeys.Nodup

/-- Access information and facilities belong to subscribers that there are. -/
structure Owned (t : Tables) : Prop where
  accessInfos : ∀ r ∈ t.accessInfos, t.hasSubscriber r.owner = true
  facilities : ∀ r ∈ t.facilities, t.hasSubscriber r.owner = true

/-- Forwardings, too, belong to facilities that there are. -/
structure Rooted (t : Tables) : Prop extends t.Owned where
  forwardings : ∀ r ∈ t.forwardings, t.hasFacility r.owner r.kind = true

/-- Every row is about a subscriber whose id a database takes. -/
def Fitting (t : Tables) : Prop := ∀ r ∈ t.records, fits r.owner = true

theorem keyed_empty : empty.Keyed := ⟨.nil, .nil, .nil, .nil, .nil⟩

theorem rooted_empty : empty.Rooted := by
  refine ⟨⟨?_, ?_⟩, ?_⟩ <;> simp [empty]

theorem fitting_empty : empty.Fitting := by
  simp [Fitting, records, empty]

variable {t u : Tables} {foreignKeys : Bool}

theorem fitting_iff : t.Fitting ↔ ∀ r, t.takesKey r = true → fits r.owner = true := by
  constructor
  · intro h r hr
    obtain ⟨q, hq, he⟩ := List.mem_map.mp (takesKey_iff.mp hr)
    rw [← r.key_owner, ← he, q.key_owner]
    exact h q hq
  · intro h r hr
    exact h r (takesKey_iff.mpr (List.mem_map_of_mem hr))

section Adding

variable {r : Record}

theorem Keyed.add (h : t.Keyed) (hr : t.refusal? foreignKeys r = none) : (t.add r).Keyed := by
  obtain ⟨hkey, hnumber, -⟩ := (refusal?_eq_none_iff foreignKeys).mp hr
  cases r with
  | subscriber r =>
    have hid : r.id ∉ t.subscribers.map (·.id) := by simpa [takesKey, hasSubscriber] using hkey
    have hn : r.number ∉ t.subscribers.map (·.number) := by
      simpa [takesNumber, hasNumber] using hnumber
    exact { h with
      ids := List.nodup_cons.mpr ⟨hid, h.ids⟩
      numbers := List.nodup_cons.mpr ⟨hn, h.numbers⟩ }
  | accessInfo r =>
    have hk : (r.owner, r.kind) ∉ t.accessInfos.map fun q => (q.owner, q.kind) := by
      simpa [takesKey, hasAccessInfo] using hkey
    exact { h with accessInfos := List.nodup_cons.mpr ⟨hk, h.accessInfos⟩ }
  | facility r =>
    have hk : (r.owner, r.kind) ∉ t.facilities.map fun q => (q.owner, q.kind) := by
      simpa [takesKey, hasFacility] using hkey
    exact { h with facilities := List.nodup_cons.mpr ⟨hk, h.facilities⟩ }
  | forwarding r =>
    have hk : r.key ∉ t.forwardingKeys := by
      rw [Forwarding.key, ← hasForwarding_iff, Bool.not_eq_true]
      exact hkey
    exact { h with forwardings := List.nodup_cons.mpr ⟨hk, h.forwardings⟩ }

theorem hasSubscriber_add {id : UInt64} (h : t.hasSubscriber id = true) (r : Record) :
    (t.add r).hasSubscriber id = true := by
  cases r <;> simp_all [Tables.add, hasSubscriber]

theorem hasFacility_add {owner : UInt64} {kind : UInt8} (h : t.hasFacility owner kind = true)
    (r : Record) : (t.add r).hasFacility owner kind = true := by
  cases r <;> simp_all [Tables.add, hasFacility]

/-- A row that is added keeps all others rooted, and is rooted itself where foreign keys are
enforced. -/
theorem Rooted.add (h : t.Rooted) (hr : t.refusal? true r = none) : (t.add r).Rooted := by
  obtain ⟨-, -, -, hparent⟩ := (refusal?_eq_none_iff true).mp hr
  have hparent := hparent rfl
  have hinfos := fun q hq => hasSubscriber_add (h.accessInfos q hq) r
  have hfacilities := fun q hq => hasSubscriber_add (h.facilities q hq) r
  have hforwardings := fun q hq => hasFacility_add (h.forwardings q hq) r
  cases r with
  | subscriber r => exact ⟨⟨hinfos, hfacilities⟩, hforwardings⟩
  | accessInfo r => exact ⟨⟨List.forall_mem_cons.mpr ⟨hparent, hinfos⟩, hfacilities⟩, hforwardings⟩
  | facility r => exact ⟨⟨hinfos, List.forall_mem_cons.mpr ⟨hparent, hfacilities⟩⟩, hforwardings⟩
  | forwarding r =>
    exact ⟨⟨hinfos, hfacilities⟩, List.forall_mem_cons.mpr ⟨hparent, hforwardings⟩⟩

theorem Fitting.add (h : t.Fitting) (hr : fits r.owner = true) : (t.add r).Fitting := by
  intro q hq
  rcases List.mem_append.mp ((t.records_add r).mem_iff.mp hq) with hq | hq
  · exact h q hq
  · rwa [List.mem_singleton.mp hq]

end Adding

section Skeleton

theorem Keyed.of_skeleton (h : t.Keyed) (hs : u.skeleton = t.skeleton)
    (hf : u.forwardingKeys.Nodup) : u.Keyed := by
  have hids := map_id_of_skeleton hs
  have hnumbers := map_number_of_skeleton hs
  have hinfos : u.accessInfos = t.accessInfos := congrArg (·.2.1) hs
  have hfacilities : u.facilities.map (fun r => (r.owner, r.kind)) =
      t.facilities.map fun r => (r.owner, r.kind) := congrArg (·.2.2) hs
  exact ⟨hids ▸ h.ids, hnumbers ▸ h.numbers, hinfos ▸ h.accessInfos, hfacilities ▸ h.facilities, hf⟩

theorem Owned.of_skeleton (h : t.Owned) (hs : u.skeleton = t.skeleton) : u.Owned := by
  constructor
  · intro r hr
    have hinfos : u.accessInfos = t.accessInfos := congrArg (·.2.1) hs
    rw [hasSubscriber_eq, hs, ← hasSubscriber_eq]
    exact h.accessInfos r (hinfos ▸ hr)
  · intro r hr
    have hfacilities : u.facilities.map (fun r => (r.owner, r.kind)) =
        t.facilities.map fun r => (r.owner, r.kind) := congrArg (·.2.2) hs
    obtain ⟨q, hq, he⟩ := List.mem_map.mp (hfacilities ▸ List.mem_map_of_mem hr)
    have ho : q.owner = r.owner := congrArg Prod.fst he
    rw [hasSubscriber_eq, hs, ← hasSubscriber_eq, ← ho]
    exact h.facilities q hq

end Skeleton

section Executing

theorem Keyed.execute (h : t.Keyed) (foreignKeys : Bool) (p : Procedure) :
    (t.execute foreignKeys p).2.Keyed :=
  h.of_skeleton (t.skeleton_execute foreignKeys p)
    ((t.effect_execute foreignKeys p).nodup h.forwardings)

theorem Owned.execute (h : t.Owned) (foreignKeys : Bool) (p : Procedure) :
    (t.execute foreignKeys p).2.Owned := h.of_skeleton (t.skeleton_execute foreignKeys p)

/-- Every forwarding after a transaction was there before, or it is a subscriber's and could be
added. -/
theorem mem_forwardings_run {p : Procedure} {row : Forwarding}
    (h : row ∈ (t.run foreignKeys p).2.forwardings) :
    row ∈ t.forwardings ∨
      t.hasSubscriber row.owner = true ∧ t.refusal? foreignKeys (.forwarding row) = none := by
  cases p with
  | insertCallForwarding number kind start stop target =>
    rcases t.run_insert foreignKeys number kind start stop target with
      ⟨-, hrun⟩ | ⟨id, hid, ⟨-, hrun⟩ | ⟨hnone, hrun⟩⟩
    · exact .inl (by rwa [hrun] at h)
    · exact .inl (by rwa [hrun] at h)
    · obtain ⟨s, hs, -, he⟩ := exists_of_idOf? hid
      rw [hrun] at h
      rcases List.mem_cons.mp h with rfl | h
      · exact .inr ⟨List.any_eq_true.mpr ⟨s, hs, beq_iff_eq.mpr he⟩, hnone⟩
      · exact .inl h
  | deleteCallForwarding number kind start =>
    left
    rcases t.run_delete foreignKeys number kind start with ⟨-, hrun⟩ | ⟨id, -, hrun⟩
    · rwa [hrun] at h
    · rw [hrun] at h
      exact List.mem_of_mem_filter h
  | _ => exact .inl h

theorem mem_forwardings_execute {p : Procedure} {row : Forwarding}
    (h : row ∈ (t.execute foreignKeys p).2.forwardings) :
    row ∈ t.forwardings ∨
      t.hasSubscriber row.owner = true ∧ t.refusal? foreignKeys (.forwarding row) = none := by
  rw [execute_eq] at h
  cases hp : p.stop? t with
  | some f =>
    rw [hp] at h
    exact .inl h
  | none =>
    rw [hp] at h
    exact mem_forwardings_run h

theorem Rooted.execute (h : t.Rooted) (p : Procedure) : (t.execute true p).2.Rooted := by
  have hs := t.skeleton_execute true p
  refine ⟨h.toOwned.of_skeleton hs, ?_⟩
  intro row hrow
  rw [hasFacility_eq, hs, ← hasFacility_eq]
  rcases mem_forwardings_execute hrow with hrow | ⟨-, hnone⟩
  · exact h.forwardings row hrow
  · exact ((t.refusal?_forwarding true row).mp hnone).2.2 rfl

theorem Fitting.execute (h : t.Fitting) (foreignKeys : Bool) (p : Procedure) :
    (t.execute foreignKeys p).2.Fitting := by
  have hs := t.skeleton_execute foreignKeys p
  have hkey := fitting_iff.mp h
  rw [fitting_iff]
  intro r hr
  cases r with
  | subscriber r =>
    rw [takesKey, hasSubscriber_eq, hs, ← hasSubscriber_eq] at hr
    exact hkey (.subscriber r) hr
  | accessInfo r =>
    rw [takesKey, hasAccessInfo_eq, hs, ← hasAccessInfo_eq] at hr
    exact hkey (.accessInfo r) hr
  | facility r =>
    rw [takesKey, hasFacility_eq, hs, ← hasFacility_eq] at hr
    exact hkey (.facility r) hr
  | forwarding r =>
    obtain ⟨row, hrow, he⟩ := List.mem_map.mp ((hasForwarding_iff _ _ _ _).mp hr)
    have ho : row.owner = r.owner := congrArg Prod.fst he
    rw [Record.owner, ← ho]
    rcases mem_forwardings_execute hrow with hrow | ⟨hsub, -⟩
    · exact h (.forwarding row) (by simp [records, hrow])
    · obtain ⟨s, hs, he⟩ := List.any_eq_true.mp hsub
      rw [← beq_iff_eq.mp he]
      exact h (.subscriber s) (by simp [records, hs])

end Executing

end Tables

/-- Two subscribers, of whom the first has a facility. -/
def twoSubscribers : Tables :=
  let bits := .replicate 10 false
  let zeros := .replicate 10 0
  ⟨[⟨1, "1", bits, zeros, zeros, 0, 0⟩, ⟨2, "2", bits, zeros, zeros, 0, 0⟩], [],
    [⟨1, 1, true, 0, 0, "AAAAA"⟩], []⟩

theorem keyed_twoSubscribers : twoSubscribers.Keyed := by
  refine ⟨?_, ?_, ?_, ?_, ?_⟩ <;> decide

theorem rooted_twoSubscribers : twoSubscribers.Rooted := by
  refine ⟨⟨?_, ?_⟩, ?_⟩ <;> simp [twoSubscribers, Tables.hasSubscriber]

end StoreBench.Telecom
