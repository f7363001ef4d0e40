import Mathlib.Data.List.Nodup
import StoreBench.Proofs.Telecom.Blocks
import StoreBench.Proofs.Telecom.SubscriberNumber

/-! The population has every key and every number once, and parents come before their children. -/
namespace StoreBench.Telecom

/-- What tells a row from all others: its table, and its key there. -/
abbrev RowKey := Table × UInt64 × UInt8 × UInt8

namespace Record

def key : Record → RowKey
  | subscriber r => (.subscriber, r.id, 0, 0)
  | accessInfo r => (.accessInfo, r.owner, r.kind, 0)
  | facility r => (.specialFacility, r.owner, r.kind, 0)
  | forwarding r => (.callForwarding, r.owner, r.kind, r.start)

def number? : Record → Option String
  | subscriber r => some r.number
  | _ => none

/-- The key of the row that has to be there before this one. -/
def parentKey? : Record → Option RowKey
  | subscriber _ => none
  | accessInfo r => some (.subscriber, r.owner, 0, 0)
  | facility r => some (.subscriber, r.owner, 0, 0)
  | forwarding r => some (.specialFacility, r.owner, r.kind, 0)

theorem key_owner (r : Record) : r.key.2.1 = r.owner := by
  cases r <;> rfl

theorem key_table (r : Record) : r.key.1 = r.table := by
  cases r <;> rfl

theorem filterMap_number? (rows : List Record) :
    rows.filterMap number? = (rows.filterMap subscriber?).map (·.number) := by
  have h (r : Record) : r.number? = r.subscriber?.map (·.number) := by cases r <;> rfl
  rw [List.map_filterMap, funext h]

end Record

/-- Rows that can be added one after another. -/
structure Orderly (rows : List Record) : Prop where
  keys : (rows.map Record.key).Nodup
  numbers : (rows.filterMap Record.number?).Nodup
  parents : ∀ r ∈ rows, ∀ k, r.parentKey? = some k → ∃ p, p.key = k ∧ [p, r].Sublist rows

/-- In front of a row that comes once, there is every row that comes before it. -/
theorem mem_of_pair_sublist {α : Type} {before after : List α} {p r : α}
    (hn : (before ++ r :: after).Nodup) (h : [p, r].Sublist (before ++ r :: after)) :
    p ∈ before := by
  have hr : r ∉ after := (List.nodup_cons.mp (List.nodup_append.mp hn).2.1).1
  obtain ⟨front, back, he, hf, hb⟩ := List.sublist_append_iff.mp h
  cases front with
  | nil =>
    -- Then both stand from `r` on, and `r` would come twice.
    obtain rfl : back = [p, r] := he.symm
    rcases List.sublist_cons_iff.mp hb with hb | ⟨l, hl, hb⟩
    · exact absurd (hb.subset (by simp)) hr
    · obtain ⟨-, rfl⟩ := List.cons.inj hl
      exact absurd (hb.subset (by simp)) hr
  | cons q front =>
    obtain ⟨rfl, -⟩ := List.cons.inj he
    exact hf.subset (by simp)

/-- Whatever row comes, its parent has come before. -/
theorem Orderly.exists_parent {before after : List Record} {r : Record}
    (h : Orderly (before ++ r :: after)) {k : RowKey} (hk : r.parentKey? = some k) :
    ∃ p ∈ before, p.key = k := by
  obtain ⟨p, hp, hs⟩ := h.parents r (by simp) k hk
  exact ⟨p, mem_of_pair_sublist h.keys.of_map hs, hp⟩

namespace IsGroup

variable {owner : UInt64} {kind : UInt8} {rows : List Record}

theorem keys_nodup (h : IsGroup owner kind rows) : (rows.map Record.key).Nodup := by
  obtain ⟨ho, hk, hs, hl, hfs⟩ := h
  rename_i f fs
  have hn : (fs.map (·.start)).Nodup := hs.nodup
  rw [List.map_cons, List.nodup_cons, List.map_map]
  refine ⟨by simp [Record.key], ?_⟩
  apply List.Nodup.of_map (fun k : RowKey => k.2.2.2)
  rw [List.map_map]
  exact hn

theorem subscribers_eq (h : IsGroup owner kind rows) : rows.filterMap Record.subscriber? = [] := by
  obtain ⟨ho, hk, hs, hl, hfs⟩ := h
  rw [List.filterMap_eq_nil_iff]
  intro r hr
  rcases List.mem_cons.mp hr with rfl | hr
  · rfl
  · obtain ⟨g, -, rfl⟩ := List.mem_map.mp hr
    rfl

theorem key_eq (h : IsGroup owner kind rows) {r : Record} (hr : r ∈ rows) :
    r.key.2.2.1 = kind ∧ (r.table = .specialFacility ∨ r.table = .callForwarding) := by
  obtain ⟨ho, hk, hs, hl, hfs⟩ := h
  rcases List.mem_cons.mp hr with rfl | hr
  · exact ⟨hk, .inl rfl⟩
  · obtain ⟨g, hg, rfl⟩ := List.mem_map.mp hr
    exact ⟨(hfs g hg).2, .inr rfl⟩

/-- Every row of a group has its parent in the group, or it is the facility. -/
theorem parents (h : IsGroup owner kind rows) {r : Record} (hr : r ∈ rows) {k : RowKey}
    (hk : r.parentKey? = some k) :
    k = (.subscriber, owner, 0, 0) ∨ ∃ p, p.key = k ∧ [p, r].Sublist rows := by
  obtain ⟨ho, hkind, hs, hl, hfs⟩ := h
  rcases List.mem_cons.mp hr with rfl | hr
  · left
    rw [← Option.some.inj hk, ho]
  · right
    refine ⟨_, ?_, (List.singleton_sublist.mpr hr).cons_cons _⟩
    obtain ⟨g, hg, rfl⟩ := List.mem_map.mp hr
    obtain ⟨hgo, hgk⟩ := hfs g hg
    rw [← Option.some.inj hk]
    simp [Record.key, ho, hkind, hgo, hgk]

end IsGroup

namespace IsBlock

variable {id : UInt64} {rows : List Record}

theorem flatten_keys_nodup {kinds : List UInt8} {groups : List (List Record)}
    (h : List.Forall₂ (IsGroup id) kinds groups) (hn : kinds.Nodup) :
    (groups.flatten.map Record.key).Nodup := by
  induction h with
  | nil => exact List.nodup_nil
  | @cons kind group kinds groups hgroup hg ih =>
    obtain ⟨hkind, hkinds⟩ := List.nodup_cons.mp hn
    rw [List.flatten_cons, List.map_append, List.nodup_append]
    refine ⟨hgroup.keys_nodup, ih hkinds, ?_⟩
    intro a ha b hb hab
    obtain ⟨r, hr, rfl⟩ := List.mem_map.mp ha
    obtain ⟨q, hq, rfl⟩ := List.mem_map.mp hb
    obtain ⟨other, hother, hq⟩ := List.mem_flatten.mp hq
    obtain ⟨kind', hkind', h'⟩ := exists_of_forall₂ hg hother
    -- Keys in different groups have different kinds.
    have : kind = kind' := by rw [← (hgroup.key_eq hr).1, hab, (h'.key_eq hq).1]
    exact hkind (this ▸ hkind')

theorem keys_nodup (h : IsBlock id rows) : (rows.map Record.key).Nodup := by
  obtain ⟨hid, hn, hi, hil, ho, hk, hkl, hg⟩ := h
  rename_i s infos kinds groups
  have htable : ∀ r ∈ groups.flatten, r.table = .specialFacility ∨ r.table = .callForwarding := by
    intro r hr
    obtain ⟨group, hgroup, hr⟩ := List.mem_flatten.mp hr
    obtain ⟨kind, -, h⟩ := exists_of_forall₂ hg hgroup
    exact (h.key_eq hr).2
  have hinfos : (infos.map fun r => Record.key (.accessInfo r)).Nodup := by
    apply List.Nodup.of_map (fun k : RowKey => k.2.2.1)
    rw [List.map_map]
    exact hi.nodup
  have hflat := flatten_keys_nodup hg hk.nodup
  rw [List.map_append, List.map_cons, List.cons_append, List.nodup_cons, List.nodup_append,
    List.map_map]
  refine ⟨?_, hinfos, hflat, ?_⟩
  · rw [List.mem_append, not_or, List.mem_map, List.mem_map]
    refine ⟨by simp [Record.key], ?_⟩
    rintro ⟨r, hr, he⟩
    have ht : r.table = .subscriber := by rw [← r.key_table, he]; rfl
    rcases htable r hr with h | h <;> simp [h] at ht
  · intro a ha b hb hab
    obtain ⟨info, -, rfl⟩ := List.mem_map.mp ha
    obtain ⟨r, hr, rfl⟩ := List.mem_map.mp hb
    have ht : r.table = .accessInfo := by rw [← r.key_table, ← hab]; rfl
    rcases htable r hr with h | h <;> simp [h] at ht

/-- A block has one subscriber. -/
theorem subscribers_eq (h : IsBlock id rows) : ∃ s : Subscriber,
    rows.filterMap Record.subscriber? = [s] ∧ s.id = id ∧ s.number = SubscriberNumber.ofId id := by
  obtain ⟨hid, hn, hi, hil, ho, hk, hkl, hg⟩ := h
  rename_i s infos kinds groups
  have hinfos : (infos.map Record.accessInfo).filterMap Record.subscriber? = [] := by
    rw [List.filterMap_eq_nil_iff]
    intro r hr
    obtain ⟨info, -, rfl⟩ := List.mem_map.mp hr
    rfl
  have hflat : groups.flatten.filterMap Record.subscriber? = [] := by
    rw [List.filterMap_eq_nil_iff]
    intro r hr
    obtain ⟨group, hgroup, hr⟩ := List.mem_flatten.mp hr
    obtain ⟨kind, -, h⟩ := exists_of_forall₂ hg hgroup
    exact List.filterMap_eq_nil_iff.mp h.subscribers_eq r hr
  refine ⟨s, ?_, hid, hn⟩
  rw [List.filterMap_append, List.filterMap_cons, hinfos, hflat]
  rfl

theorem numbers_eq (h : IsBlock id rows) :
    rows.filterMap Record.number? = [SubscriberNumber.ofId id] := by
  obtain ⟨s, hs, -, hn⟩ := h.subscribers_eq
  rw [Record.filterMap_number?, hs, List.map_singleton, hn]

theorem parents (h : IsBlock id rows) {r : Record} (hr : r ∈ rows) {k : RowKey}
    (hk : r.parentKey? = some k) : ∃ p, p.key = k ∧ [p, r].Sublist rows := by
  obtain ⟨hid, hn, hi, hil, ho, hkinds, hkl, hg⟩ := h
  rename_i s infos kinds groups
  have below {r : Record} (hr : r ∈ infos.map .accessInfo ++ groups.flatten) :
      ∃ p, p.key = (.subscriber, id, 0, 0) ∧
        [p, r].Sublist (.subscriber s :: infos.map .accessInfo ++ groups.flatten) :=
    ⟨.subscriber s, by simp [Record.key, hid], (List.singleton_sublist.mpr hr).cons_cons _⟩
  rw [List.mem_append, List.mem_cons, List.mem_map, List.mem_flatten] at hr
  rcases hr with (rfl | ⟨info, hinfo, rfl⟩) | ⟨group, hgroup, hr⟩
  · cases hk
  · have hk : (.subscriber, id, 0, 0) = k := by rw [← Option.some.inj hk, ho info hinfo]
    exact hk ▸ below (List.mem_append_left _ (List.mem_map_of_mem hinfo))
  · obtain ⟨kind, -, hkind⟩ := exists_of_forall₂ hg hgroup
    rcases hkind.parents hr hk with rfl | ⟨p, hp, hs⟩
    · exact below (List.mem_append_right _ (List.mem_flatten.mpr ⟨group, hgroup, hr⟩))
    · refine ⟨p, hp, hs.trans ?_⟩
      exact (List.sublist_flatten_of_mem hgroup).trans (List.sublist_append_right _ _)

end IsBlock

end StoreBench.Telecom
