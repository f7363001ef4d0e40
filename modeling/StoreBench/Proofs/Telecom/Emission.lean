import StoreBench.Proofs.Telecom.Population
import StoreBench.Telecom.Feed

/-!
The order in which a feed gives the population: subscriber by subscriber, parents before children,
no key twice.
-/
namespace StoreBench.Telecom

/-- Asked for one row after another, a feed gives these rows, and then none. -/
inductive Feed.Emits : Feed → List Record → Prop where
  | done {f : Feed} (h : f.next? = none) : Emits f []
  | next {f g : Feed} {r : Record} {rows : List Record} (h : f.next? = some (r, g))
      (hg : Emits g rows) : Emits f (r :: rows)

theorem Feed.emits_rest (f : Feed) : f.Emits f.rest := by
  -- Every row that is given leaves one less to come.
  generalize hk : f.rest.length = k
  induction k generalizing f with
  | zero =>
    cases h : f.next? with
    | none => exact next?_eq_none h ▸ .done h
    | some p =>
      obtain ⟨r, g⟩ := p
      rw [rest_of_next? h] at hk
      cases hk
  | succ k ih =>
    cases h : f.next? with
    | none =>
      rw [next?_eq_none h] at hk
      cases hk
    | some p =>
      obtain ⟨r, g⟩ := p
      rw [rest_of_next? h, List.length_cons, Nat.add_right_cancel_iff] at hk
      rw [rest_of_next? h]
      exact .next h (ih g hk)

theorem Feed.emits_iff {f : Feed} {rows : List Record} : f.Emits rows ↔ rows = f.rest := by
  constructor
  · intro h
    induction h with
    | done h => exact (next?_eq_none h).symm
    | next h _ ih => rw [rest_of_next? h, ih]
  · rintro rfl
    exact f.emits_rest

/-- Rows of the subscribers from 1 to `n`, one subscriber after another, none before the row that it
belongs to, and no key twice. -/
structure InOrder (n : UInt64) (rows : List Record) : Prop where
  ids : (rows.filterMap Record.subscriber?).map (·.id.toNat) = List.range' 1 n.toNat
  numbers : ((rows.filterMap Record.subscriber?).map (·.number)).Nodup
  owners : rows.Pairwise fun a b => a.owner ≤ b.owner
  accessInfos : ∀ before r after, rows = before ++ .accessInfo r :: after →
    ∃ s, .subscriber s ∈ before ∧ s.id = r.owner
  facilities : ∀ before r after, rows = before ++ .facility r :: after →
    ∃ s, .subscriber s ∈ before ∧ s.id = r.owner
  forwardings : ∀ before r after, rows = before ++ .forwarding r :: after →
    ∃ f, .facility f ∈ before ∧ f.owner = r.owner ∧ f.kind = r.kind
  accessKeys : ((rows.filterMap Record.accessInfo?).map fun r => (r.owner, r.kind)).Nodup
  facilityKeys : ((rows.filterMap Record.facility?).map fun r => (r.owner, r.kind)).Nodup
  forwardingKeys :
    ((rows.filterMap Record.forwarding?).map fun r => (r.owner, r.kind, r.start)).Nodup

namespace Orderly

variable {rows : List Record}

/-- The keys of the rows of one kind, if each tells the key among all rows. -/
theorem nodup_keys (h : Orderly rows) {α β : Type} {row? : Record → Option α} {key : α → β}
    (hkey : ∀ r q a b, row? r = some a → row? q = some b → key a = key b → r.key = q.key) :
    ((rows.filterMap row?).map key).Nodup := by
  have hp : rows.Pairwise fun r q => r.key ≠ q.key := List.pairwise_map.mp h.keys
  refine List.pairwise_map.mpr (List.pairwise_filterMap.mpr (hp.imp ?_))
  intro r q hne a ha b hb he
  exact hne (hkey r q a b ha hb he)

theorem exists_subscriber {before after : List Record} {r : Record} {owner : UInt64}
    (h : Orderly (before ++ r :: after)) (hr : r.parentKey? = some (.subscriber, owner, 0, 0)) :
    ∃ s, .subscriber s ∈ before ∧ s.id = owner := by
  obtain ⟨p, hp, hk⟩ := h.exists_parent hr
  cases p with
  | subscriber s => exact ⟨s, hp, congrArg (·.2.1) hk⟩
  | _ => cases congrArg Prod.fst hk

theorem exists_facility {before after : List Record} {r : Forwarding}
    (h : Orderly (before ++ .forwarding r :: after)) :
    ∃ f, .facility f ∈ before ∧ f.owner = r.owner ∧ f.kind = r.kind := by
  obtain ⟨p, hp, hk⟩ := h.exists_parent rfl
  cases p with
  | facility f => exact ⟨f, hp, congrArg (·.2.1) hk, congrArg (·.2.2.1) hk⟩
  | _ => cases congrArg Prod.fst hk

end Orderly

theorem population_ids (n : UInt64) :
    ((population n).filterMap Record.subscriber?).map (·.id.toNat) = ids n := by
  have hone (id : UInt64) :
      ((block id).filterMap Record.subscriber?).map (·.id.toNat) = [id.toNat] := by
    obtain ⟨s, hs, rfl, -⟩ := (isBlock_block id).subscribers_eq
    rw [hs, List.map_singleton]
  rw [population_eq, List.filterMap_flatMap, List.map_flatMap]
  simp only [hone]
  calc (ids n).flatMap (fun id => [(UInt64.ofNat id).toNat])
      = (ids n).map fun id => (UInt64.ofNat id).toNat := List.map_eq_flatMap.symm
    _ = (ids n).map id := List.map_congr_left fun id hid => toNat_of_mem_ids hid
    _ = ids n := List.map_id _

theorem population_owners (n : UInt64) :
    (population n).Pairwise fun a b => a.owner ≤ b.owner := by
  rw [population_eq, List.pairwise_flatMap]
  constructor
  · intro id _
    refine List.pairwise_of_forall_mem_list fun a ha b hb => ?_
    rw [(isBlock_block _).owner_eq a ha, (isBlock_block _).owner_eq b hb]
    exact UInt64.le_refl _
  · have hlt : (ids n).Pairwise (· < ·) := List.pairwise_lt_range'
    refine List.Pairwise.imp_of_mem ?_ hlt
    intro i j hi hj hij a ha b hb
    rw [(isBlock_block _).owner_eq a ha, (isBlock_block _).owner_eq b hb, UInt64.le_iff_toNat_le,
      toNat_of_mem_ids hi, toNat_of_mem_ids hj]
    exact Nat.le_of_lt hij

/-- Whatever the number of subscribers, a feed of the population gives one sequence of rows. In it,
the subscribers are those from 1 on in their order, no two have the same number, every row comes
after the one that it belongs to, and no key comes twice. -/
theorem population_arrives_in_order (n : UInt64) :
    ∃ rows, (∀ emitted, (Feed.population n).Emits emitted ↔ emitted = rows) ∧ InOrder n rows := by
  have h := population_orderly n
  refine ⟨population n, fun emitted => Feed.emits_iff, population_ids n, ?_, population_owners n,
    ?_, ?_, ?_, h.nodup_keys ?_, h.nodup_keys ?_, h.nodup_keys ?_⟩
  · rw [← Record.filterMap_number?]
    exact h.numbers
  · intro before r after he
    exact (he ▸ h).exists_subscriber rfl
  · intro before r after he
    exact (he ▸ h).exists_subscriber rfl
  · intro before r after he
    exact (he ▸ h).exists_facility
  · intro r q a b ha hb hk
    cases r <;> cases q <;> simp_all [Record.accessInfo?, Record.key]
  · intro r q a b ha hb hk
    cases r <;> cases q <;> simp_all [Record.facility?, Record.key]
  · intro r q a b ha hb hk
    cases r <;> cases q <;> simp_all [Record.forwarding?, Record.key]

end StoreBench.Telecom
