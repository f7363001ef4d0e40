import Mathlib.Data.List.Forall2
import StoreBench.Random.Bytes
import StoreBench.Random.Choice

/-! What is true of a drawn value whatever the stream. -/
namespace StoreBench.Random

variable {α β : Type}

/-- The value of a draw has a property, whatever the stream. -/
def Draw.Always (d : Draw α) (P : α → Prop) : Prop := ∀ s, P (d.value s)

namespace Draw.Always

variable {P : α → Prop} {Q : β → Prop}

theorem pure {x : α} (h : P x) : Always (Pure.pure x) P := by
  intro s
  exact h

theorem bind {d : Draw α} {k : α → Draw β} (hd : d.Always P) (hk : ∀ x, P x → (k x).Always Q) :
    Always (d >>= k) Q := by
  intro s
  exact hk _ (hd s) _

theorem map {d : Draw α} {f : α → β} (hd : d.Always P) (hf : ∀ x, P x → Q (f x)) :
    Always (f <$> d) Q := by
  intro s
  exact hf _ (hd s)

theorem mono {d : Draw α} {P' : α → Prop} (hd : d.Always P) (h : ∀ x, P x → P' x) :
    d.Always P' := by
  intro s
  exact h _ (hd s)

/-- Nothing is known of what a draw was given, and its value has the property all the same. -/
theorem after {d : Draw α} {k : α → Draw β} (hk : ∀ x, (k x).Always Q) : Always (d >>= k) Q := by
  intro s
  exact hk _ _

theorem times {d : Draw α} (hd : d.Always P) (n : Nat) :
    (d.times n).Always fun xs => xs.length = n ∧ ∀ x ∈ xs, P x := by
  induction n with
  | zero => exact pure ⟨rfl, by simp⟩
  | succ n ih =>
    rw [times_succ]
    refine bind hd fun x hx => ?_
    refine bind ih fun xs ⟨hl, hxs⟩ => ?_
    refine pure ⟨by simp [hl], ?_⟩
    simpa using ⟨hx, hxs⟩

theorem mapM {γ : Type} {f : γ → Draw α} {R : γ → α → Prop} {cs : List γ}
    (hf : ∀ c ∈ cs, (f c).Always (R c)) : (cs.mapM f).Always (List.Forall₂ R cs) := by
  induction cs with
  | nil => exact pure .nil
  | cons c cs ih =>
    obtain ⟨hc, hcs⟩ := List.forall_mem_cons.mp hf
    rw [List.mapM_cons]
    refine bind hc fun x hx => ?_
    refine bind (ih hcs) fun xs hxs => ?_
    exact pure (.cons hx hxs)

/-- A search finds what is accepted, or gives up and takes zero. -/
theorem search {word : Draw Nat} {accept? : Nat → Option Nat} {W P : Nat → Prop}
    (hw : word.Always W) (ha : ∀ v x, W v → accept? v = some x → P x) (hz : P 0) :
    (search word accept?).Always P := by
  have h (n : Nat) : (redraw word accept? n).Always P := by
    induction n with
    | zero => exact pure hz
    | succ n ih =>
      rw [redraw]
      refine bind hw fun v hv => ?_
      cases hx : accept? v with
      | none => exact ih
      | some x => exact pure (ha v x hv hx)
  unfold Random.search
  exact h period

end Draw.Always

theorem scale?_lt {width count zone v x : Nat} (hv : v < Nat.pow 2 width)
    (h : scale? width count zone v = some x) (hc : 0 < count) : x < count := by
  have hx : v * count % 2 ^ width ≤ zone ∧ v * count / 2 ^ width = x := by
    simpa [scale?] using h
  rw [← hx.2]
  apply Nat.div_lt_of_lt_mul
  exact Nat.mul_lt_mul_of_pos_right hv hc

theorem drawWord_always : Draw.Always (return (← drawWord).toNat) (· < Nat.pow 2 32) := by
  intro s
  exact UInt32.toNat_lt _

theorem drawLong_always : Draw.Always (return (← drawLong).toNat) (· < Nat.pow 2 64) := by
  intro s
  exact UInt64.toNat_lt _

theorem drawBytes_always (n : Nat) : (drawBytes n).Always fun bytes => bytes.length = n := by
  have hword : drawWord.Always fun _ => True := fun _ => trivial
  unfold drawBytes
  refine .bind (hword.times ((n + 3) / 4)) fun words ⟨hl, _⟩ => .pure ?_
  have hbytes : words.map (fun w => (wordBytes w).length) = List.replicate ((n + 3) / 4) 4 := by
    rw [← hl]
    show words.map (fun _ => 4) = _
    exact List.map_const'
  rw [List.length_take, List.length_flatMap, hbytes, List.sum_replicate_nat]
  omega

section

variable {count : Nat} (hc : 0 < count)
include hc

theorem fair32_lt : (fair32 count).Always (· < count) :=
  .search drawWord_always (fun _ _ hv hx => scale?_lt hv hx hc) hc

theorem fair64_lt : (fair64 count).Always (· < count) :=
  .search drawLong_always (fun _ _ hv hx => scale?_lt hv hx hc) hc

theorem quick32_lt : (quick32 count).Always (· < count) :=
  .search drawWord_always (fun _ _ hv hx => scale?_lt hv hx hc) hc

theorem quick64_lt : (quick64 count).Always (· < count) :=
  .search drawLong_always (fun _ _ hv hx => scale?_lt hv hx hc) hc

end

theorem select_sublist (domain : List UInt8) (chosen : List Nat) :
    (select domain chosen).Sublist domain := by
  have h : (domain.zipIdx.filter (·.2 ∈ chosen)).Sublist domain.zipIdx := List.filter_sublist
  have := h.map (·.1)
  rwa [List.zipIdx_map_fst] at this

end StoreBench.Random
