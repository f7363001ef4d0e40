import StoreBench.Telecom.SubscriberNumber

/-! Telephone numbers tell subscribers apart: the id is read back from the number. -/
namespace StoreBench.Telecom.SubscriberNumber

open StoreBench.Decimal

theorem continue?_replicate_zero (k : Nat) (cs : List Char) :
    continue? 0 (List.replicate k '0' ++ cs) = continue? 0 cs := by
  have hz : digit? '0' = some 0 := by decide
  induction k with
  | zero => rfl
  | succ k ih => simpa [List.replicate_succ, continue?, hz] using ih

theorem value?_leftpad (width n : Nat) : value? ((digits n).leftpad width '0') = some n := by
  have hn : (digits n).leftpad width '0' ≠ [] := by simp [List.leftpad, digits_ne_nil]
  unfold value?
  rw [if_neg (by simpa using hn), List.leftpad, continue?_replicate_zero, continue?_zero_digits]

theorem dropPlus_of_value? {cs : List Char} {n : Nat} (h : value? cs = some n) :
    dropPlus cs = cs := by
  unfold dropPlus
  split
  · next cs =>
    have hp : digit? '+' = none := by decide
    simp [value?, continue?, hp] at h
  · rfl

/-- The number of a subscriber is read as the id. -/
theorem toId?_ofId (id : UInt64) : toId? (ofId id) = some id := by
  have hv := value?_leftpad numberWidth id.toNat
  have hd : dropPlus (ofId id).toList = (digits id.toNat).leftpad numberWidth '0' := by
    rw [ofId, padded, String.toList_ofList]
    exact dropPlus_of_value? hv
  rw [toId?, hd, hv]
  simp [UInt64.toNat_lt_size]

theorem ofId_injective {a b : UInt64} (h : ofId a = ofId b) : a = b := by
  have := congrArg toId? h
  rwa [toId?_ofId, toId?_ofId, Option.some.injEq] at this

end StoreBench.Telecom.SubscriberNumber
