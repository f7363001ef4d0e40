import Mathlib.Data.List.Perm.Subperm
import StoreBench.Proofs.Random.Choice
import StoreBench.Telecom.Population

/-!
The fields of the rows that are drawn. Whatever the stream, they have values of their domains.
-/
namespace StoreBench.Telecom

open StoreBench.Random

structure Ascending (domain kinds : List UInt8) : Prop where
  sorted : kinds.Pairwise (· < ·)
  mem : ∀ k ∈ kinds, k ∈ domain

namespace Ascending

variable {domain kinds : List UInt8}

theorem of_sublist (h : kinds.Sublist domain) (hd : domain.Pairwise (· < ·)) :
    Ascending domain kinds :=
  ⟨hd.sublist h, fun _ hk => h.subset hk⟩

theorem nodup (h : Ascending domain kinds) : kinds.Nodup :=
  h.sorted.imp fun hlt => UInt8.ne_of_lt hlt

theorem length_le (h : Ascending domain kinds) : kinds.length ≤ domain.length :=
  (List.subperm_of_subset h.nodup h.mem).length_le

end Ascending

/-- The fields of a row have values of their domains. A forwarding ends on the day on which it
starts. -/
def Record.InDomain : Record → Prop
  | subscriber r =>
    r.number = SubscriberNumber.ofId r.id ∧ (∀ x ∈ r.hexes, x ≤ 15) ∧ 1 ≤ r.mscLocation ∧
      1 ≤ r.vlrLocation
  | accessInfo r => r.kind ∈ accessTypes ∧ IsText 'A' 'Z' 3 r.data3 ∧ IsText 'A' 'Z' 5 r.data4
  | facility r => r.kind ∈ facilityTypes ∧ IsText 'A' 'Z' 5 r.dataB
  | forwarding r =>
    r.kind ∈ facilityTypes ∧ r.start ∈ startTimes ∧ r.stop.toNat = r.start.toNat + 8 ∧
      IsText '0' '9' 15 r.target

theorem drawSubscriber_always (id : UInt64) :
    (drawSubscriber id).Always fun r => r.id = id ∧ (Record.subscriber r).InDomain := by
  have hhex : Draw.Always (return UInt8.ofNat (← fair32 16)) (· ≤ 15) := by
    refine .bind (fair32_lt (by decide)) fun k hk => .pure ?_
    rw [UInt8.le_iff_toNat_le, UInt8.toNat_ofNat_of_lt' (Nat.lt_trans hk (by decide))]
    exact Nat.le_of_lt_succ hk
  refine .after fun bits => ?_
  refine .bind (hhex.vector 10) fun hexes hhexes => ?_
  refine .after fun bytes => ?_
  refine .bind (quick32_lt (by decide)) fun msc hmsc => ?_
  refine .bind (quick32_lt (by decide)) fun vlr hvlr => ?_
  exact .pure ⟨rfl, rfl, hhexes, one_le_ofNat hmsc, one_le_ofNat hvlr⟩

theorem drawAccessInfo_always (owner : UInt64) {kind : UInt8} (hk : kind ∈ accessTypes) :
    (drawAccessInfo owner kind).Always fun r =>
      r.kind = kind ∧ r.owner = owner ∧ (Record.accessInfo r).InDomain := by
  refine .after fun data1 => ?_
  refine .after fun data2 => ?_
  refine .bind (drawLetters_always 3) fun data3 h3 => ?_
  refine .bind (drawLetters_always 5) fun data4 h4 => ?_
  exact .pure ⟨rfl, rfl, hk, h3, h4⟩

theorem drawFacility_always (owner : UInt64) {kind : UInt8} (hk : kind ∈ facilityTypes) :
    (drawFacility owner kind).Always fun r =>
      r.kind = kind ∧ r.owner = owner ∧ (Record.facility r).InDomain := by
  refine .after fun active => ?_
  refine .after fun errorControl => ?_
  refine .after fun dataA => ?_
  refine .bind (drawLetters_always 5) fun dataB hb => ?_
  exact .pure ⟨rfl, rfl, hk, hb⟩

theorem drawForwarding_always (owner : UInt64) {kind start : UInt8} (hk : kind ∈ facilityTypes)
    (hs : start ∈ startTimes) :
    (drawForwarding owner kind start).Always fun r =>
      r.start = start ∧ r.owner = owner ∧ r.kind = kind ∧ (Record.forwarding r).InDomain := by
  have hstop : (start + slotLength).toNat = start.toNat + 8 := by
    obtain rfl | rfl | rfl : start = 0 ∨ start = 8 ∨ start = 16 := by simpa [startTimes] using hs
    all_goals rfl
  refine .bind (drawDigits_always numberWidth) fun target ht => ?_
  exact .pure ⟨rfl, rfl, rfl, hk, hs, hstop, ht⟩

theorem drawSlots_always : drawSlots.Always (Ascending startTimes) := by
  have hsorted : startTimes.Pairwise (· < ·) := by decide
  refine .after fun count => ?_
  refine .after fun order => ?_
  exact .pure (.of_sublist (select_sublist startTimes _) hsorted)

theorem drawSlotCount_le : drawSlotCount.Always (· ≤ startTimes.length) := by
  unfold drawSlotCount
  refine .after fun third => ?_
  split
  · exact .pure (Nat.zero_le _)
  · exact .map (quick64_lt (by decide)) fun k hk => hk

end StoreBench.Telecom
