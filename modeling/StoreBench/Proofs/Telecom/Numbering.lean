import StoreBench.Proofs.Decimal.Natural
import StoreBench.Proofs.Random.Choice
import StoreBench.Proofs.Telecom.SubscriberNumber

/-!
Ids as telephone numbers and back: which texts are numbers of subscribers, which texts are read as
ids, and in what order the numbers stand.
-/
namespace StoreBench.Telecom.SubscriberNumber

open StoreBench.Decimal StoreBench.Random

variable {id : UInt64} {text : String} {cs : List Char}

theorem toList_ofId (id : UInt64) :
    (ofId id).toList = (digits id.toNat).leftpad numberWidth '0' := by
  rw [ofId, padded, String.toList_ofList]

theorem reads_ofId (id : UInt64) :
    IsDigits (ofId id).toList ∧ valueOf (ofId id).toList = id.toNat := by
  rw [toList_ofId]
  exact (value?_eq_some_iff.mp (value?_leftpad numberWidth id.toNat)).2

theorem length_ofId (id : UInt64) :
    (ofId id).toList.length = max numberWidth (Nat.digits 10 id.toNat).length := by
  have h15 : numberWidth = 15 := rfl
  rw [toList_ofId, List.length_leftpad, length_digits]
  omega

theorem isText_ofId (id : UInt64) :
    IsText '0' '9' (max 15 (Nat.digits 10 id.toNat).length) (ofId id) := by
  constructor
  · rw [← String.length_toList]
    exact length_ofId id
  · exact (reads_ofId id).1

/-- A text writes an id: digits that stand for it, after at most one plus sign. -/
def Writes (text : String) (id : UInt64) : Prop :=
  ∃ cs, (text.toList = cs ∨ text.toList = '+' :: cs) ∧ cs ≠ [] ∧ IsDigits cs ∧ valueOf cs = id.toNat

theorem dropPlus_cases (cs : List Char) : cs = dropPlus cs ∨ cs = '+' :: dropPlus cs := by
  unfold dropPlus
  split
  · exact .inr rfl
  · exact .inl rfl

theorem toId?_eq_some_iff_value? :
    toId? text = some id ↔ value? (dropPlus text.toList) = some id.toNat := by
  rw [toId?, Option.bind_eq_some_iff]
  constructor
  · rintro ⟨n, hn, hid⟩
    by_cases hlt : n < UInt64.size
    · rw [if_pos hlt] at hid
      rw [hn, ← Option.some.inj hid, UInt64.toNat_ofNat_of_lt' hlt]
    · rw [if_neg hlt] at hid
      cases hid
  · intro h
    exact ⟨id.toNat, h, by simp [UInt64.toNat_lt_size]⟩

/-- What is read as an id is what writes it. -/
theorem toId?_eq_some_iff : toId? text = some id ↔ Writes text id := by
  rw [toId?_eq_some_iff_value?]
  constructor
  · intro h
    exact ⟨dropPlus text.toList, dropPlus_cases text.toList, value?_eq_some_iff.mp h⟩
  · rintro ⟨cs, htext, hcs⟩
    have hv := value?_eq_some_iff.mpr hcs
    rcases htext with htext | htext
    · rwa [htext, dropPlus_of_value? hv]
    · rwa [htext]

/-- Numbers below 10 ^ 15 have one length, so that their order is that of the ids. -/
theorem ofId_lt_iff {a b : UInt64} (ha : a.toNat < 10 ^ 15) (hb : b.toNat < 10 ^ 15) :
    ofId a < ofId b ↔ a < b := by
  have hwidth {c : UInt64} (hc : c.toNat < 10 ^ 15) : (ofId c).toList.length = 15 := by
    have hle := (Nat.digits_length_le_iff (by decide) c.toNat).mpr hc
    rw [length_ofId]
    exact Nat.max_eq_left hle
  obtain ⟨hda, hva⟩ := reads_ofId a
  obtain ⟨hdb, hvb⟩ := reads_ofId b
  have hl : (ofId a).toList.length = (ofId b).toList.length := (hwidth ha).trans (hwidth hb).symm
  rw [String.lt_iff, lt_iff_valueOf_lt hda hdb hl, hva, hvb, UInt64.lt_iff_toNat_lt]

/-- Digits that are neither too few nor begin with zeros in vain. -/
def Padded (cs : List Char) : Prop := cs.length = 15 ∨ 15 < cs.length ∧ cs.head? ≠ some '0'

theorem padded_iff (hd : IsDigits cs) :
    Padded cs ↔ cs.length = max 15 (Nat.digits 10 (valueOf cs)).length := by
  have hle : (Nat.digits 10 (valueOf cs)).length ≤ cs.length := by
    rw [Nat.digits_length_le_iff (by decide)]
    exact valueOf_lt hd
  constructor
  · rintro (hl | ⟨hl, hz⟩)
    · omega
    · have hpow : 10 ^ (cs.length - 1) ≤ valueOf cs := by
        cases cs with
        | nil => cases hl
        | cons c cs => exact pow_le_valueOf hd fun hc => hz (by rw [hc]; rfl)
      rw [length_natDigits hd hpow]
      omega
  · intro hl
    by_cases h : (Nat.digits 10 (valueOf cs)).length ≤ 15
    · left
      omega
    · right
      refine ⟨by omega, ?_⟩
      -- With a zero in front, the digits would stand for less than needs so many of them.
      intro hz
      obtain ⟨ds, rfl⟩ := List.head?_eq_some_iff.mp hz
      have hlt := valueOf_lt (isDigits_cons.mp hd).2
      have hzero : valueOf ('0' :: ds) = valueOf ds := by simp [valueOf_cons]
      rw [← hzero, ← Nat.digits_length_le_iff (by decide)] at hlt
      rw [List.length_cons] at hl
      omega

/-- Of all texts that are read as an id, its number is the one that is padded. -/
theorem ofId_eq_iff (h : toId? text = some id) :
    ofId id = text ↔ IsDigits text.toList ∧ Padded text.toList := by
  obtain ⟨hdid, hvid⟩ := reads_ofId id
  constructor
  · rintro rfl
    refine ⟨hdid, (padded_iff hdid).mpr ?_⟩
    rw [length_ofId, hvid]
    rfl
  · rintro ⟨hd, hp⟩
    have hv : valueOf text.toList = id.toNat := by
      obtain ⟨cs, htext, -, -, hv⟩ := toId?_eq_some_iff.mp h
      rcases htext with htext | htext
      · rwa [htext]
      · have hplus : ¬('0' ≤ '+' ∧ '+' ≤ '9') := by decide
        rw [htext] at hd
        exact absurd (isDigits_cons.mp hd).1 hplus
    have hl : (ofId id).toList.length = text.toList.length := by
      rw [(padded_iff hd).mp hp, length_ofId, hv]
      rfl
    exact String.toList_injective (eq_of_valueOf_eq hdid hd hl (hvid.trans hv.symm))

/-- Every id has a number, of digits only and as wide as it must be, from which it is read back. So
ids have different numbers, and below 10 ^ 15 numbers stand in the order of their ids. A text is
read as an id if and only if it writes that id, and it is the number of that id if it is padded. -/
theorem numbers_and_ids :
    (∀ id, IsText '0' '9' (max 15 (Nat.digits 10 id.toNat).length) (ofId id) ∧
      toId? (ofId id) = some id) ∧
    Function.Injective ofId ∧
    (∀ a b : UInt64, a.toNat < 10 ^ 15 → b.toNat < 10 ^ 15 → (ofId a < ofId b ↔ a < b)) ∧
    (∀ text id, toId? text = some id ↔ Writes text id) ∧
    ∀ text id, toId? text = some id →
      (ofId id = text ↔ IsDigits text.toList ∧ Padded text.toList) := by
  refine ⟨?_, ?_, ?_, ?_, ?_⟩
  · intro id
    exact ⟨isText_ofId id, toId?_ofId id⟩
  · intro a b h
    exact ofId_injective h
  · intro a b ha hb
    exact ofId_lt_iff ha hb
  · intro text id
    exact toId?_eq_some_iff
  · intro text id h
    exact ofId_eq_iff h

/-- A number in order, a text that writes an id without being its number, and a number wider than
most. -/
theorem numbers_and_ids_seven :
    ofId 7 < ofId 10 ∧
    (toId? "+007" = some 7 ∧ ofId 7 ≠ "+007") ∧
    toId? "12345678901234567" = some 12345678901234567 ∧
    ofId 12345678901234567 = "12345678901234567" := by
  obtain ⟨-, -, horder, -, hnumber⟩ := numbers_and_ids
  have hplus : toId? "+007" = some 7 := by decide
  have hwide : toId? "12345678901234567" = some 12345678901234567 := by decide
  refine ⟨(horder 7 10 (by decide) (by decide)).mpr (by decide), ⟨hplus, ?_⟩, hwide, ?_⟩
  · intro h
    have hdigit := ((hnumber _ _ hplus).mp h).1 '+' (by decide)
    exact absurd hdigit (by decide)
  · rw [hnumber _ _ hwide]
    refine ⟨?_, .inr (by decide)⟩
    simp [IsDigits]

end StoreBench.Telecom.SubscriberNumber
