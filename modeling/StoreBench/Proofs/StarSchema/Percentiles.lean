import StoreBench.Proofs.Decimal.Binary64
import StoreBench.StarSchema.Report

/-!
Percentiles of measured times as order statistics. The samples can be sorted in one way only, so
that the order in which times were measured does not matter.
-/
namespace StoreBench

open Decimal (Binary64)

section Sorting

variable {α : Type} {le : α → α → Bool} {xs : List α} {i : Nat} {x : α}

/-- In a sorted list a member comes after those that are not greater, itself among them. -/
theorem succ_le_countP_of_pairwise (hrefl : ∀ x, le x x) (hs : xs.Pairwise fun x y => le x y)
    (hx : xs[i]? = some x) : i + 1 ≤ xs.countP (le · x) := by
  obtain ⟨hi, rfl⟩ := List.getElem?_eq_some_iff.mp hx
  have hall : ∀ y ∈ xs.take (i + 1), le y xs[i] := by
    intro y hy
    obtain ⟨j, hj, rfl⟩ := List.mem_take_iff_getElem.mp hy
    rcases Nat.lt_or_ge j i with hlt | hge
    · exact List.pairwise_iff_getElem.mp hs j i (by omega) hi hlt
    · have hji : j = i := by omega
      subst hji
      exact hrefl _
  calc
    i + 1 = (xs.take (i + 1)).length := by rw [List.length_take]; omega
    _ = (xs.take (i + 1)).countP (le · xs[i]) := (List.countP_eq_length.mpr hall).symm
    _ ≤ xs.countP (le · xs[i]) := (List.take_sublist _ _).countP_le

/-- In a sorted list a member comes before those that are not smaller, itself among them. -/
theorem sub_le_countP_of_pairwise (hrefl : ∀ x, le x x) (hs : xs.Pairwise fun x y => le x y)
    (hx : xs[i]? = some x) : xs.length - i ≤ xs.countP (le x ·) := by
  obtain ⟨hi, -⟩ := List.getElem?_eq_some_iff.mp hx
  have hback : xs.reverse[xs.length - 1 - i]? = some x := by
    rw [List.getElem?_reverse (by omega), ← hx]
    congr 1
    omega
  have h := @succ_le_countP_of_pairwise α (fun y z => le z y) _ _ x hrefl
    (List.pairwise_reverse.mpr hs) hback
  rw [List.countP_reverse] at h
  omega

end Sorting

namespace Summary

def sorted (s : Summary) : List Float := s.samples.mergeSort totalLe

/-- A sample that is an order statistic: it comes at place `i`, counted from 0, when the samples
stand in their order. -/
structure HasRank (s : Summary) (i : Nat) (x : Float) : Prop where
  lt_length : i < s.samples.length
  sorted : s.sorted[i]? = some x
  mem : x ∈ s.samples
  below : i + 1 ≤ s.samples.countP (totalLe · x)
  above : s.samples.length - i ≤ s.samples.countP (totalLe x ·)

variable {s t : Summary} {p q : Float}

theorem sorted_perm (s : Summary) : s.sorted.Perm s.samples := List.mergeSort_perm _ _

theorem length_sorted (s : Summary) : s.sorted.length = s.samples.length := s.sorted_perm.length_eq

theorem pairwise_sorted (s : Summary) : s.sorted.Pairwise fun x y => totalLe x y := by
  apply List.pairwise_mergeSort
  · intro x y z
    exact totalLe_trans
  · intro x y
    rw [Bool.or_eq_true]
    exact totalLe_total x y

/-- The order leaves no choice where any sample goes. -/
theorem sorted_eq_of_perm (h : s.samples.Perm t.samples) : s.sorted = t.sorted :=
  List.Perm.eq_of_pairwise (fun _ _ _ _ => totalLe_antisymm) s.pairwise_sorted t.pairwise_sorted
    (s.sorted_perm.trans (h.trans t.sorted_perm.symm))

theorem rank_le (p : Float) (count : Nat) : rank p count ≤ count - 1 := by
  unfold rank
  split
  · exact Nat.le_refl _
  · exact Nat.min_le_right _ _

/-- The nearest rank, whatever the doubles between which a percentile lies. -/
theorem rank_of_value {count : Nat} {v : ℚ}
    (h : (Binary64.ofFloat (place p count)).value? = some v) :
    rank p count = min ⌊v + 1 / 2⌋₊ (count - 1) := by
  rw [← Binary64.nearest_eq h]
  unfold rank
  split
  · next hi => cases hi ▸ h
  · rfl

example : rank 37.5 5 = 2 ∧ rank 1000.0 5 = 4 ∧ rank (1.0 / 0.0) 5 = 4 ∧ rank (-50.0) 5 = 0 ∧
    rank (0.0 / 0.0) 5 = 0 := by decide

theorem percentile_eq (s : Summary) (p : Float) :
    s.percentile p = s.sorted[rank p s.samples.length]?.getD 0.0 :=
  List.getD_eq_getElem?_getD

theorem percentile_of_nil (h : s.samples = []) : s.percentile p = 0.0 := by
  simp [percentile, h]

theorem rank_lt (h : s.samples ≠ []) (p : Float) :
    rank p s.samples.length < s.samples.length := by
  have := rank_le p s.samples.length
  have := List.length_pos_iff.mpr h
  omega

/-- The rank is that of a sample: none is ever missing. -/
theorem getElem?_sorted_rank (h : s.samples ≠ []) (p : Float) :
    s.sorted[rank p s.samples.length]? = some (s.percentile p) := by
  have hlt : rank p s.samples.length < s.sorted.length := s.length_sorted.symm ▸ rank_lt h p
  rw [percentile_eq, List.getElem?_eq_getElem hlt, Option.getD_some]

theorem hasRank_percentile (h : s.samples ≠ []) (p : Float) :
    s.HasRank (rank p s.samples.length) (s.percentile p) := by
  have hx := getElem?_sorted_rank h p
  have hbelow := succ_le_countP_of_pairwise totalLe_refl s.pairwise_sorted hx
  have habove := sub_le_countP_of_pairwise totalLe_refl s.pairwise_sorted hx
  rw [s.sorted_perm.countP_eq] at hbelow habove
  rw [s.length_sorted] at habove
  exact ⟨rank_lt h p, hx, s.sorted_perm.mem_iff.mp (List.mem_of_getElem? hx), hbelow, habove⟩

/-- A greater rank has no smaller sample. -/
theorem totalLe_percentile (h : rank p s.samples.length ≤ rank q s.samples.length) :
    totalLe (s.percentile p) (s.percentile q) := by
  by_cases hne : s.samples = []
  · rw [percentile_of_nil hne, percentile_of_nil hne]
    exact totalLe_refl _
  · obtain ⟨hi, hx⟩ := List.getElem?_eq_some_iff.mp (getElem?_sorted_rank hne p)
    obtain ⟨hj, hy⟩ := List.getElem?_eq_some_iff.mp (getElem?_sorted_rank hne q)
    rw [← hx, ← hy]
    rcases Nat.lt_or_eq_of_le h with hlt | heq
    · exact List.pairwise_iff_getElem.mp s.pairwise_sorted _ _ hi hj hlt
    · simp only [heq]
      exact totalLe_refl _

theorem percentile_eq_of_perm (h : s.samples.Perm t.samples) (p : Float) :
    s.percentile p = t.percentile p := by
  rw [percentile_eq, percentile_eq, h.length_eq, sorted_eq_of_perm h]

end Summary

namespace StarSchema

open Summary

/-- Of timed queries, in whatever order they stand, a percentile is a time that one of them took,
and the nearest rank of the percentile says which. A percentile of greater rank is no smaller. -/
theorem percentile_is_order_statistic (ts : List Timing) (p : Float) :
    (summary []).percentile p = 0.0 ∧
      (ts ≠ [] → (summary ts).HasRank (rank p ts.length) ((summary ts).percentile p)) ∧
      (∀ v : ℚ, (Binary64.ofFloat (place p ts.length)).value? = some v →
        rank p ts.length = min ⌊v + 1 / 2⌋₊ (ts.length - 1)) ∧
      (∀ us : List Timing, us.Perm ts → (summary us).percentile p = (summary ts).percentile p) ∧
      ∀ q, rank p ts.length ≤ rank q ts.length →
        totalLe ((summary ts).percentile p) ((summary ts).percentile q) ∧
        ∀ v w : ℚ, (Binary64.ofFloat ((summary ts).percentile p)).value? = some v →
          (Binary64.ofFloat ((summary ts).percentile q)).value? = some w → v ≤ w := by
  have hlen : (summary ts).samples.length = ts.length := List.length_map _
  refine ⟨percentile_of_nil rfl, ?_, ?_, ?_, ?_⟩
  · intro hne
    rw [← hlen]
    exact hasRank_percentile (by simpa [summary] using hne) p
  · intro v hv
    exact rank_of_value hv
  · intro us hperm
    exact percentile_eq_of_perm (hperm.map _) p
  · intro q hle
    rw [← hlen] at hle
    refine ⟨totalLe_percentile hle, ?_⟩
    intro v w hv hw
    exact value_le_of_totalLe hv hw (totalLe_percentile hle)

def fiveTimings : List Timing :=
  [30000000, 10000000, 20000000, 10000000, 50000000].map fun nanos => ⟨"q", .ofNanos nanos, 1⟩

theorem percentile_is_order_statistic_fiveTimings :
    rank 50.0 5 = 2 ∧ (summary fiveTimings).percentile 50.0 = 20000.0 := by
  have hrank : rank 50.0 5 = 2 := by decide
  obtain ⟨-, hx, -⟩ := percentile_is_order_statistic fiveTimings 50.0
  obtain ⟨-, -, hmem, hbelow, habove⟩ := hx (by decide)
  have hunique : ∀ x ∈ (summary fiveTimings).samples,
      2 + 1 ≤ (summary fiveTimings).samples.countP (totalLe · x) →
      5 - 2 ≤ (summary fiveTimings).samples.countP (totalLe x ·) → x = 20000.0 := by
    decide +kernel
  exact ⟨hrank, hunique _ hmem (hrank ▸ hbelow) (hrank ▸ habove)⟩

end StarSchema

end StoreBench
