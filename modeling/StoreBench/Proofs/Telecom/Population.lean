import StoreBench.Proofs.Telecom.Keys
import StoreBench.Telecom.Action

/-! The population as a whole: its rows, their number, and the order in which they come. -/
namespace StoreBench.Telecom

def ids (n : UInt64) : List Nat := List.range' 1 n.toNat

theorem population_eq (n : UInt64) :
    population n = (ids n).flatMap fun id => block (UInt64.ofNat id) := by
  simp [population, blocks, ids]

theorem toNat_of_mem_ids {n : UInt64} {id : Nat} (h : id ∈ ids n) :
    (UInt64.ofNat id).toNat = id := by
  have hn := n.toNat_lt_size
  rw [ids, List.mem_range'_1] at h
  exact UInt64.toNat_ofNat_of_lt' (by omega)

theorem ids_pairwise_ne (n : UInt64) :
    (ids n).Pairwise fun a b => UInt64.ofNat a ≠ UInt64.ofNat b := by
  have h : (ids n).Pairwise fun a b => a ≠ b := List.nodup_range'
  refine List.Pairwise.imp_of_mem ?_ h
  intro a b ha hb hab he
  apply hab
  rw [← toNat_of_mem_ids ha, ← toNat_of_mem_ids hb, he]

/-- A row is in the population if and only if it is one of a subscriber that is. -/
theorem mem_population {n : UInt64} {r : Record} :
    r ∈ population n ↔ 1 ≤ r.owner ∧ r.owner ≤ n ∧ r ∈ block r.owner := by
  rw [population_eq, List.mem_flatMap]
  constructor
  · rintro ⟨id, hid, hr⟩
    have ho := (isBlock_block _).owner_eq r hr
    have ht := toNat_of_mem_ids hid
    rw [ids, List.mem_range'_1] at hid
    refine ⟨?_, ?_, ho.symm ▸ hr⟩
    · rw [UInt64.le_iff_toNat_le, ho, ht]
      exact hid.1
    · rw [UInt64.le_iff_toNat_le, ho, ht]
      omega
  · rintro ⟨h1, hn, hr⟩
    rw [UInt64.le_iff_toNat_le] at h1 hn
    refine ⟨r.owner.toNat, ?_, by simpa using hr⟩
    rw [ids, List.mem_range'_1]
    exact ⟨h1, by omega⟩

theorem population_orderly (n : UInt64) : Orderly (population n) := by
  refine ⟨?_, ?_, ?_⟩
  · -- A key holds its owner, so blocks have no key in common.
    rw [population_eq, List.map_flatMap, List.nodup_flatMap]
    refine ⟨fun id _ => (isBlock_block _).keys_nodup, (ids_pairwise_ne n).imp ?_⟩
    intro a b hab k ha hb
    obtain ⟨r, hr, rfl⟩ := List.mem_map.mp ha
    obtain ⟨q, hq, hk⟩ := List.mem_map.mp hb
    apply hab
    rw [← (isBlock_block _).owner_eq r hr, ← r.key_owner, ← hk, q.key_owner,
      (isBlock_block _).owner_eq q hq]
  · rw [population_eq, List.filterMap_flatMap, List.nodup_flatMap]
    refine ⟨?_, (ids_pairwise_ne n).imp ?_⟩
    · intro id _
      rw [(isBlock_block _).numbers_eq]
      exact List.nodup_singleton _
    · intro a b hab
      simp only [Function.onFun, (isBlock_block _).numbers_eq]
      rw [List.disjoint_singleton, List.mem_singleton]
      exact fun he => hab (SubscriberNumber.ofId_injective he.symm)
  · intro r hr k hk
    rw [population_eq] at hr ⊢
    obtain ⟨id, hid, hr⟩ := List.mem_flatMap.mp hr
    obtain ⟨p, hp, hs⟩ := (isBlock_block _).parents hr hk
    exact ⟨p, hp, hs.trans (List.sublist_flatten_of_mem (List.mem_map_of_mem hid))⟩

theorem length_flatMap_block_le (xs : List Nat) :
    (xs.flatMap fun id => block (UInt64.ofNat id)).length ≤ 21 * xs.length := by
  induction xs with
  | nil => simp
  | cons x xs ih =>
    have := (isBlock_block (UInt64.ofNat x)).length_mem.2
    rw [List.flatMap_cons, List.length_append, List.length_cons]
    omega

theorem length_population_le (n : UInt64) : (population n).length ≤ 21 * n.toNat := by
  have := length_flatMap_block_le (ids n)
  rwa [← population_eq, ids, List.length_range'] at this

/-- Every subscriber of a population is in it, with its number. -/
theorem exists_subscriber {n id : UInt64} (h1 : 1 ≤ id) (hn : id ≤ n) :
    ∃ r : Subscriber, .subscriber r ∈ population n ∧ r.id = id ∧
      r.number = SubscriberNumber.ofId id := by
  have hm : SubscriberNumber.ofId id ∈ (block id).filterMap Record.number? := by
    rw [(isBlock_block id).numbers_eq]
    exact List.mem_singleton_self _
  obtain ⟨row, hrow, he⟩ := List.mem_filterMap.mp hm
  have ho := (isBlock_block id).owner_eq row hrow
  cases row with
  | subscriber r =>
    refine ⟨r, mem_population.mpr ⟨?_, ?_, ?_⟩, ho, Option.some.inj he⟩
    · exact ho.symm ▸ h1
    · exact ho.symm ▸ hn
    · exact ho.symm ▸ hrow
  | accessInfo r => cases he
  | facility r => cases he
  | forwarding r => cases he

theorem fits_of_le {n id : UInt64} (hn : n.toNat ≤ Nat.pow 2 59) (h : id ≤ n) : fits id = true := by
  rw [UInt64.le_iff_toNat_le] at h
  have : Nat.pow 2 59 ≤ maxInteger := by decide
  simp only [fits, decide_eq_true_eq]
  omega

end StoreBench.Telecom
