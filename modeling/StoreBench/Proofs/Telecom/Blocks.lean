import StoreBench.Proofs.Telecom.Fields

/-! The rows of one subscriber, as far as they do not depend on chance. -/
namespace StoreBench.Telecom

open StoreBench.Random

/-- The rows of a facility: it comes first, and at most three forwardings follow, by the times at
which they start. -/
inductive IsGroup (owner : UInt64) (kind : UInt8) : List Record → Prop where
  | mk {f : Facility} {fs : List Forwarding} (ho : f.owner = owner) (hk : f.kind = kind)
      (hs : Ascending startTimes (fs.map (·.start))) (hl : fs.length ≤ 3)
      (hfs : ∀ r ∈ fs, r.owner = owner ∧ r.kind = kind) :
      IsGroup owner kind (.facility f :: fs.map .forwarding)

/-- The rows of a subscriber: it comes first, then access information by its kind, then groups by
their kind. There are one to four of either. -/
inductive IsBlock (id : UInt64) : List Record → Prop where
  | mk {s : Subscriber} {infos : List AccessInfo} {kinds : List UInt8}
      {groups : List (List Record)} (hid : s.id = id) (hn : s.number = SubscriberNumber.ofId id)
      (hi : Ascending accessTypes (infos.map (·.kind)))
      (hil : 1 ≤ infos.length ∧ infos.length ≤ 4) (ho : ∀ r ∈ infos, r.owner = id)
      (hk : Ascending facilityTypes kinds) (hkl : 1 ≤ kinds.length ∧ kinds.length ≤ 4)
      (hg : List.Forall₂ (IsGroup id) kinds groups) :
      IsBlock id (.subscriber s :: infos.map .accessInfo ++ groups.flatten)

theorem map_eq_of_forall₂ {α β : Type} {f : β → α} {P : β → Prop} {xs : List α} {ys : List β}
    (h : List.Forall₂ (fun x y => f y = x ∧ P y) xs ys) : ys.map f = xs ∧ ∀ y ∈ ys, P y := by
  induction h with
  | nil => exact ⟨rfl, by simp⟩
  | cons h _ ih =>
    obtain ⟨hm, hp⟩ := ih
    exact ⟨by simp [h.1, hm], by simpa using ⟨h.2, hp⟩⟩

theorem exists_of_forall₂ {α β : Type} {R : α → β → Prop} {xs : List α} {ys : List β}
    (h : List.Forall₂ R xs ys) {y : β} (hy : y ∈ ys) : ∃ x ∈ xs, R x y := by
  induction h with
  | nil => cases hy
  | cons hr _ ih =>
    rcases List.mem_cons.mp hy with rfl | hy
    · exact ⟨_, .head _, hr⟩
    · obtain ⟨x, hx, hr⟩ := ih hy
      exact ⟨x, .tail _ hx, hr⟩

theorem drawFacilityGroup_always (owner : UInt64) {kind : UInt8} (hk : kind ∈ facilityTypes) :
    (drawFacilityGroup owner kind).Always fun rows =>
      IsGroup owner kind rows ∧ ∀ r ∈ rows, r.InDomain := by
  unfold drawFacilityGroup
  refine .bind (drawFacility_always owner hk) fun f ⟨hfk, hfo, hf⟩ => ?_
  refine .bind drawSlots_always fun slots hs => ?_
  refine .bind (.mapM fun start hstart =>
    drawForwarding_always owner hk (hs.mem start hstart)) fun fs hfs => ?_
  obtain ⟨rfl, hrow⟩ := map_eq_of_forall₂ hfs
  have hl : fs.length ≤ 3 := by
    rw [← List.length_map (·.start)]
    exact hs.length_le
  refine .pure ⟨.mk hfo hfk hs hl fun r hr => ⟨(hrow r hr).1, (hrow r hr).2.1⟩, ?_⟩
  intro r hr
  rcases List.mem_cons.mp hr with rfl | hr
  · exact hf
  · obtain ⟨g, hg, rfl⟩ := List.mem_map.mp hr
    exact (hrow g hg).2.2

theorem drawBlock_always (id : UInt64) :
    (drawBlock id).Always fun rows => IsBlock id rows ∧ ∀ r ∈ rows, r.InDomain := by
  have hsorted : accessTypes.Pairwise (· < ·) ∧ facilityTypes.Pairwise (· < ·) := by decide
  unfold drawBlock
  refine .bind (drawSubscriber_always id) fun s ⟨hid, hs⟩ => ?_
  refine .bind (choose_always (by decide)) fun infoKinds ⟨hi, hi1⟩ => ?_
  replace hi := Ascending.of_sublist hi hsorted.1
  refine .bind (.mapM fun kind hkind =>
    drawAccessInfo_always id (hi.mem kind hkind)) fun infos hinfos => ?_
  refine .bind (choose_always (by decide)) fun kinds ⟨hk, hk1⟩ => ?_
  replace hk := Ascending.of_sublist hk hsorted.2
  refine .bind (.mapM fun kind hkind =>
    drawFacilityGroup_always id (hk.mem kind hkind)) fun groups hgroups => ?_
  obtain ⟨rfl, hrow⟩ := map_eq_of_forall₂ hinfos
  have hil : 1 ≤ infos.length ∧ infos.length ≤ 4 := by
    rw [← List.length_map (·.kind)]
    exact ⟨hi1, hi.length_le⟩
  have hg : List.Forall₂ (IsGroup id) kinds groups := hgroups.imp fun _ _ h => h.1
  refine .pure ⟨.mk hid (hid ▸ hs.1) hi hil (fun r hr => (hrow r hr).1) hk ⟨hk1, hk.length_le⟩ hg,
    ?_⟩
  intro r hr
  rw [List.mem_append, List.mem_cons, List.mem_map, List.mem_flatten] at hr
  rcases hr with (rfl | ⟨info, hinfo, rfl⟩) | ⟨group, hgroup, hr⟩
  · exact hs
  · exact (hrow info hinfo).2
  · obtain ⟨kind, -, hkind⟩ := exists_of_forall₂ hgroups hgroup
    exact hkind.2 r hr

theorem isBlock_block (id : UInt64) : IsBlock id (block id) :=
  (drawBlock_always id (Stream.ofSeed (blockSeed id))).1

namespace IsGroup

variable {owner : UInt64} {kind : UInt8} {rows : List Record}

theorem owner_eq (h : IsGroup owner kind rows) : ∀ r ∈ rows, r.owner = owner := by
  obtain ⟨ho, hk, hs, hl, hfs⟩ := h
  intro r hr
  rcases List.mem_cons.mp hr with rfl | hr
  · exact ho
  · obtain ⟨g, hg, rfl⟩ := List.mem_map.mp hr
    exact (hfs g hg).1

theorem length_le (h : IsGroup owner kind rows) : rows.length ≤ 4 := by
  obtain ⟨ho, hk, hs, hl, hfs⟩ := h
  rw [List.length_cons, List.length_map]
  exact Nat.succ_le_succ hl

theorem length_pos (h : IsGroup owner kind rows) : 1 ≤ rows.length := by
  obtain ⟨ho, hk, hs, hl, hfs⟩ := h
  rw [List.length_cons]
  exact Nat.succ_pos _

end IsGroup

namespace IsBlock

variable {id : UInt64} {rows : List Record}

/-- All rows of a block are about its subscriber. -/
theorem owner_eq (h : IsBlock id rows) : ∀ r ∈ rows, r.owner = id := by
  obtain ⟨hid, hn, hi, hil, ho, hk, hkl, hg⟩ := h
  intro r hr
  rw [List.mem_append, List.mem_cons, List.mem_map, List.mem_flatten] at hr
  rcases hr with (rfl | ⟨info, hinfo, rfl⟩) | ⟨group, hgroup, hr⟩
  · exact hid
  · exact ho info hinfo
  · obtain ⟨kind, -, hkind⟩ := exists_of_forall₂ hg hgroup
    exact hkind.owner_eq r hr

theorem length_flatten {kinds : List UInt8} {groups : List (List Record)}
    (h : List.Forall₂ (IsGroup id) kinds groups) :
    kinds.length ≤ groups.flatten.length ∧ groups.flatten.length ≤ 4 * kinds.length := by
  induction h with
  | nil => simp
  | cons hgroup _ ih =>
    have hpos := hgroup.length_pos
    have hle := hgroup.length_le
    rw [List.flatten_cons, List.length_append, List.length_cons]
    omega

theorem length_mem (h : IsBlock id rows) : 3 ≤ rows.length ∧ rows.length ≤ 21 := by
  obtain ⟨hid, hn, hi, hil, ho, hk, hkl, hg⟩ := h
  have hg := length_flatten hg
  -- One subscriber, four times access information at most, and at most four groups of four.
  simp only [List.length_append, List.length_cons, List.length_map]
  omega

end IsBlock

/-- What there is to say of the rows of a subscriber without knowing what chance gave. -/
structure WellFormed (id : UInt64) (rows : List Record) : Prop where
  grammar : IsBlock id rows
  owner_eq : ∀ r ∈ rows, r.owner = id
  length_mem : 3 ≤ rows.length ∧ rows.length ≤ 21
  inDomain : ∀ r ∈ rows, r.InDomain

/-- Whatever the stream, the rows that are drawn for a subscriber are well-formed. The slots of a
facility are always there to be taken: no more are asked for than there are in the order. -/
theorem block_well_formed (id : UInt64) :
    (drawBlock id).Always (WellFormed id) ∧ WellFormed id (block id) ∧
      drawSlotCount.Always (· ≤ startTimes.length) ∧
      (shuffle startTimes.length).Always (·.length = startTimes.length) := by
  have hblock : (drawBlock id).Always (WellFormed id) := by
    refine (drawBlock_always id).mono fun rows ⟨hrows, hfields⟩ => ?_
    exact ⟨hrows, hrows.owner_eq, hrows.length_mem, hfields⟩
  exact ⟨hblock, hblock _, drawSlotCount_le, shuffle_always _⟩

end StoreBench.Telecom
