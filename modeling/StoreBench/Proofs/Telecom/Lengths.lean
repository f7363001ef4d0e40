import StoreBench.Proofs.Footprint
import StoreBench.Proofs.Telecom.Numbering
import StoreBench.Proofs.Telecom.Population
import StoreBench.Telecom.Command

/-! How long rows are. What makes a row long is its texts, and those of the population are short. -/
namespace StoreBench

theorem utf8ByteSize_le (s : String) : s.utf8ByteSize ≤ 4 * s.length := by
  rw [← String.ofList_toList (s := s)]
  induction s.toList with
  | nil => simp
  | cons c cs ih =>
    have hc := c.utf8Size_le_four
    rw [← List.singleton_append, String.ofList_append, String.utf8ByteSize_append]
    simp at ih ⊢
    omega

theorem Random.IsText.utf8ByteSize_le {first last : Char} {n : Nat} {text : String}
    (h : IsText first last n text) : text.utf8ByteSize ≤ 4 * n := by
  rw [← h.1]
  exact StoreBench.utf8ByteSize_le text

namespace Telecom

theorem Record.length_le_length {r : Record} {c : Cell} (h : c ∈ r.storedCells) :
    c.length ≤ r.length := length_le_rowLength h

/-- No value is too long where the row is not. -/
theorem Record.fault?_insert {r : Record} (h : r.length ≤ maxLength) :
    (Command.insert r).fault? = none := by
  have hstored : ∀ c ∈ r.storedCells, c.fault? = none := fun c hc =>
    Cell.fault?_eq_none ((r.length_le_length hc).trans h)
  rw [Command.fault?, List.findSome?_eq_none_iff]
  intro c hc
  cases r with
  | subscriber r =>
    -- The id is not stored with the other cells, but it is no text.
    rcases List.mem_cons.mp (show c ∈ Cell.ofKey r.id :: r.cells.tail from hc) with rfl | hc
    · rfl
    · exact hstored c (List.mem_cons_of_mem _ hc)
  | accessInfo | facility | forwarding => exact hstored c hc

def Record.textBytes : Record → Nat
  | subscriber r => r.number.utf8ByteSize
  | accessInfo r => r.data3.utf8ByteSize + r.data4.utf8ByteSize
  | facility r => r.dataB.utf8ByteSize
  | forwarding r => r.target.utf8ByteSize

theorem Record.sum_textBytes (r : Record) :
    (r.storedCells.map Cell.textBytes).sum = r.textBytes := by
  cases r with
  | subscriber r =>
    simp [storedCells, Subscriber.cells, textBytes, Function.comp_def]
  | accessInfo r => simp [storedCells, cells, AccessInfo.cells, textBytes]
  | facility r => simp [storedCells, cells, Facility.cells, textBytes]
  | forwarding r => simp [storedCells, cells, Forwarding.cells, textBytes]

theorem Record.length_storedCells_le (r : Record) : r.storedCells.length ≤ 34 := by
  cases r <;> simp [storedCells, cells, Subscriber.cells, AccessInfo.cells, Facility.cells,
    Forwarding.cells]

theorem Record.length_le (r : Record) : r.length ≤ 7 * r.textBytes + 4000 := by
  have hrow := rowLength_le r.storedCells
  have hcells := r.length_storedCells_le
  rw [r.sum_textBytes] at hrow
  unfold length
  omega

theorem SubscriberNumber.length_ofId_le (id : UInt64) : (ofId id).length ≤ 20 := by
  have hdigits : (Nat.digits 10 id.toNat).length ≤ 20 := by
    rw [Nat.digits_length_le_iff (by decide)]
    exact id.toNat_lt_size.trans (by decide)
  have hwidth : numberWidth = 15 := rfl
  rw [← String.length_toList, length_ofId]
  omega

theorem Record.InDomain.textBytes_le {r : Record} (h : r.InDomain) : r.textBytes ≤ 80 := by
  cases r with
  | subscriber r =>
    obtain ⟨hnumber, -⟩ := h
    have hlength := SubscriberNumber.length_ofId_le r.id
    have hbytes := utf8ByteSize_le r.number
    rw [hnumber] at hbytes
    rw [textBytes, hnumber]
    omega
  | accessInfo r =>
    obtain ⟨-, h3, h4⟩ := h
    have h3 := h3.utf8ByteSize_le
    have h4 := h4.utf8ByteSize_le
    rw [textBytes]
    omega
  | facility r =>
    obtain ⟨-, hb⟩ := h
    have hb := hb.utf8ByteSize_le
    rw [textBytes]
    omega
  | forwarding r =>
    obtain ⟨-, -, -, ht⟩ := h
    have ht := ht.utf8ByteSize_le
    rw [textBytes]
    omega

theorem textBytes_le_of_mem_population {n : UInt64} {r : Record} (h : r ∈ population n) :
    r.textBytes ≤ 80 :=
  (((drawBlock_always r.owner) _).2 r (mem_population.mp h).2.2).textBytes_le

/-- No row of a population is too long. -/
theorem length_le_of_mem_population {n : UInt64} {r : Record} (h : r ∈ population n) :
    r.length ≤ maxLength := by
  have hlength := r.length_le
  have hbytes := textBytes_le_of_mem_population h
  unfold maxLength
  omega

end Telecom

end StoreBench
