import Mathlib.Data.List.Nodup
import StoreBench.Proofs.Random.Always

/-!
What random choices give: characters of a range, distinct positions, members of a list in its
order.
-/
namespace StoreBench.Random

variable {α : Type}

namespace Draw.Always

theorem vector {d : Draw α} {P : α → Prop} (hd : d.Always P) (n : Nat) :
    (d.vector n).Always fun xs => ∀ x ∈ xs, P x := by
  induction n with
  | zero => exact pure (by simp)
  | succ n ih =>
    rw [Draw.vector]
    refine bind ih fun xs hxs => ?_
    refine bind hd fun x hx => ?_
    refine pure fun y hy => ?_
    rcases Vector.mem_push.mp hy with hy | rfl
    · exact hxs y hy
    · exact hx

theorem foldlM {β : Type} {f : α → β → Draw α} {P : α → Prop}
    (hf : ∀ x y, P x → (f x y).Always P) (ys : List β) {x : α} (hx : P x) :
    (ys.foldlM f x).Always P := by
  induction ys generalizing x with
  | nil => exact pure hx
  | cons y ys ih =>
    rw [List.foldlM_cons]
    exact bind (hf x y hx) fun z hz => ih hz

/-- What every round keeps holds after `n` rounds. -/
theorem foldlM_range {f : α → Nat → Draw α} {n : Nat} {P : Nat → α → Prop}
    (hf : ∀ i x, i < n → P i x → (f x i).Always (P (i + 1))) {x : α} (hx : P 0 x) :
    ((List.range n).foldlM f x).Always (P n) := by
  induction n with
  | zero => exact pure hx
  | succ n ih =>
    rw [List.range_succ, List.foldlM_append]
    refine bind (ih fun i x hi => hf i x (by omega)) fun y hy => ?_
    rw [List.foldlM_cons]
    exact bind (hf n y (by omega) hy) fun z hz => pure hz

end Draw.Always

/-- Text of `n` characters from `first` to `last`. -/
def IsText (first last : Char) (n : Nat) (text : String) : Prop :=
  text.length = n ∧ ∀ c ∈ text.toList, first ≤ c ∧ c ≤ last

theorem isText_ofList {first last : Char} {n : Nat} {cs : List Char} (hl : cs.length = n)
    (hc : ∀ c ∈ cs, first ≤ c ∧ c ≤ last) : IsText first last n (String.ofList cs) := by
  simpa [IsText, hl] using hc

theorem drawLetters_always (n : Nat) : (drawLetters n).Always (IsText 'A' 'Z' n) := by
  have hrange : ∀ k : Fin 26, 'A' ≤ Char.ofNat (65 + k) ∧ Char.ofNat (65 + k) ≤ 'Z' := by decide
  have hletter : Draw.Always (return Char.ofNat (65 + (← fair32 26)))
      fun c => 'A' ≤ c ∧ c ≤ 'Z' :=
    .bind (fair32_lt (by decide)) fun k hk => .pure (hrange ⟨k, hk⟩)
  exact .bind (hletter.times n) fun cs h => .pure (isText_ofList h.1 h.2)

theorem drawDigits_always (n : Nat) : (drawDigits n).Always (IsText '0' '9' n) := by
  have hrange : ∀ k : Fin 10, '0' ≤ Char.ofNat (48 + k) ∧ Char.ofNat (48 + k) ≤ '9' := by decide
  have hdigit : Draw.Always (return Char.ofNat (48 + (← fair32 10)))
      fun c => '0' ≤ c ∧ c ≤ '9' :=
    .bind (fair32_lt (by decide)) fun k hk => .pure (hrange ⟨k, hk⟩)
  exact .bind (hdigit.times n) fun cs h => .pure (isText_ofList h.1 h.2)

theorem pick_mem {domain : List UInt8} (hd : 0 < domain.length) :
    (pick domain).Always (· ∈ domain) := by
  refine .bind (quick64_lt hd) fun k hk => .pure ?_
  rw [List.getD_eq_getElem?_getD, List.getElem?_eq_getElem hk, Option.getD_some]
  exact List.getElem_mem hk

theorem one_le_ofNat {k : Nat} (hk : k < UInt32.size - 1) : 1 ≤ UInt32.ofNat (1 + k) := by
  rw [UInt32.le_iff_toNat_le, UInt32.toNat_ofNat_of_lt' (by omega)]
  exact Nat.le_add_right 1 k

structure Distinct (bound : Nat) (chosen : List Nat) : Prop where
  nodup : chosen.Nodup
  lt : ∀ p ∈ chosen, p < bound

theorem extend_always {bound : Nat} {chosen : List Nat} (h : Distinct bound chosen) :
    (extend bound chosen).Always fun xs =>
      xs.length = chosen.length + 1 ∧ Distinct (bound + 1) xs := by
  refine .bind (quick32_lt (Nat.succ_pos bound)) fun t ht => .pure ?_
  have hlt : ∀ p ∈ chosen, p < bound + 1 := fun p hp => Nat.lt_succ_of_lt (h.lt p hp)
  by_cases hmem : t ∈ chosen
  · have hnew : bound ∉ chosen := fun hb => Nat.lt_irrefl _ (h.lt bound hb)
    rw [if_pos hmem]
    exact ⟨rfl, List.nodup_cons.mpr ⟨hnew, h.nodup⟩,
      List.forall_mem_cons.mpr ⟨Nat.lt_succ_self _, hlt⟩⟩
  · rw [if_neg hmem]
    exact ⟨rfl, List.nodup_cons.mpr ⟨hmem, h.nodup⟩, List.forall_mem_cons.mpr ⟨ht, hlt⟩⟩

theorem positions_always {n k : Nat} (h : k ≤ n) :
    (positions n k).Always fun chosen => chosen.length = k ∧ Distinct n chosen := by
  have hrounds : (positions n k).Always fun chosen =>
      chosen.length = k ∧ Distinct (n - k + k) chosen := by
    refine .foldlM_range
      (P := fun i chosen => chosen.length = i ∧ Distinct (n - k + i) chosen) ?_ ?_
    · intro i chosen _ hchosen
      refine (extend_always hchosen.2).mono fun xs hxs => ?_
      rw [hchosen.1] at hxs
      exact hxs
    · exact ⟨rfl, List.nodup_nil, by simp⟩
  rwa [Nat.sub_add_cancel h] at hrounds

theorem length_select {domain : List UInt8} {chosen : List Nat}
    (h : Distinct domain.length chosen) : (select domain chosen).length = chosen.length := by
  have hplaces : (List.range domain.length).filter (· ∈ chosen) =
      (domain.zipIdx.filter (·.2 ∈ chosen)).map (·.2) := by
    rw [List.range_eq_range', ← List.zipIdx_map_snd, List.filter_map]
    rfl
  have hperm : ((List.range domain.length).filter (· ∈ chosen)).Perm chosen := by
    rw [List.perm_ext_iff_of_nodup (List.nodup_range.filter _) h.nodup]
    intro p
    simpa using h.lt p
  calc (select domain chosen).length
      = ((domain.zipIdx.filter (·.2 ∈ chosen)).map (·.2)).length := by simp [select]
    _ = chosen.length := by rw [← hplaces, hperm.length_eq]

theorem choose_always {domain : List UInt8} (hd : 0 < domain.length) :
    (choose domain).Always fun xs => xs.Sublist domain ∧ 1 ≤ xs.length := by
  refine .bind (quick64_lt hd) fun count hcount => ?_
  refine .bind (positions_always hcount) fun chosen hchosen => .pure ?_
  refine ⟨select_sublist domain chosen, ?_⟩
  rw [length_select hchosen.2, hchosen.1]
  exact Nat.succ_pos count

theorem length_swap (xs : List Nat) (i j : Nat) : (swap xs i j).length = xs.length := by
  simp [swap]

theorem shuffle_always (n : Nat) : (shuffle n).Always (·.length = n) := by
  have hround (xs : List Nat) (i : Nat) (h : xs.length = n) :
      Draw.Always (return swap xs i (← quick32 (i + 1))) (·.length = n) :=
    .after fun j => .pure ((length_swap xs i j).trans h)
  exact .foldlM hround _ List.length_range

end StoreBench.Random
