import StoreBench.Telecom.Row

/-! A row shows its record column by column, under the names of the columns of its table. -/
namespace StoreBench.Telecom

def Record.Shows (row : Record) (column : String) (cell : Cell) : Prop :=
  row.cell? column = some cell

/-- All that a record says can be read from its row. -/
def Record.Readable : Record → Prop
  | .subscriber r =>
    let row := Record.subscriber r
    row.Shows "s_id" (.integer r.id.toNat) ∧ row.Shows "sub_nbr" (.text r.number) ∧
      (∀ i : Fin 10, row.Shows s!"bit_{i.val + 1}" (.integer (if r.bits.get i then 1 else 0)) ∧
        row.Shows s!"hex_{i.val + 1}" (.integer (r.hexes.get i).toNat) ∧
        row.Shows s!"byte2_{i.val + 1}" (.integer (r.bytes.get i).toNat)) ∧
      row.Shows "msc_location" (.integer r.mscLocation.toNat) ∧
      row.Shows "vlr_location" (.integer r.vlrLocation.toNat)
  | .accessInfo r =>
    let row := Record.accessInfo r
    row.Shows "s_id" (.integer r.owner.toNat) ∧ row.Shows "ai_type" (.integer r.kind.toNat) ∧
      row.Shows "data1" (.integer r.data1.toNat) ∧ row.Shows "data2" (.integer r.data2.toNat) ∧
      row.Shows "data3" (.text r.data3) ∧ row.Shows "data4" (.text r.data4)
  | .facility r =>
    let row := Record.facility r
    row.Shows "s_id" (.integer r.owner.toNat) ∧ row.Shows "sf_type" (.integer r.kind.toNat) ∧
      row.Shows "is_active" (.integer (if r.active then 1 else 0)) ∧
      row.Shows "error_cntrl" (.integer r.errorControl.toNat) ∧
      row.Shows "data_a" (.integer r.dataA.toNat) ∧ row.Shows "data_b" (.text r.dataB)
  | .forwarding r =>
    let row := Record.forwarding r
    row.Shows "s_id" (.integer r.owner.toNat) ∧ row.Shows "sf_type" (.integer r.kind.toNat) ∧
      row.Shows "start_time" (.integer r.start.toNat) ∧
      row.Shows "end_time" (.integer r.stop.toNat) ∧ row.Shows "numberx" (.text r.target)

theorem lookup_zip {names : List String} (hn : names.Nodup) {k : Nat} {name : String}
    (hk : names[k]? = some name) (cells : List Cell) :
    (names.zip cells).lookup name = cells[k]? := by
  induction names generalizing k cells with
  | nil => simp at hk
  | cons n names ih =>
    obtain ⟨hnot, hn⟩ := List.nodup_cons.mp hn
    cases cells with
    | nil => simp
    | cons c cells =>
      cases k with
      | zero =>
        obtain rfl : n = name := by simpa using hk
        simp
      | succ k =>
        have hk : names[k]? = some name := by simpa using hk
        have hne : name ≠ n := fun e => hnot (e ▸ List.mem_of_getElem? hk)
        have hb : (name == n) = false := by simpa using hne
        simpa [List.lookup_cons, hb] using ih hn hk cells

theorem columns_nodup (t : Table) : (t.columns.map Column.name).Nodup := by
  cases t <;> decide

theorem Record.shows {row : Record} {k : Nat} {column : String} {cell : Cell}
    (hk : (row.table.columns.map Column.name)[k]? = some column) (hc : row.cells[k]? = some cell) :
    row.Shows column cell :=
  (lookup_zip (columns_nodup row.table) hk row.cells).trans hc

theorem subscriberColumn (i : Fin 10) :
    (Table.subscriber.columns.map Column.name)[i.val + 2]? = some s!"bit_{i.val + 1}" ∧
      (Table.subscriber.columns.map Column.name)[i.val + 12]? = some s!"hex_{i.val + 1}" ∧
      (Table.subscriber.columns.map Column.name)[i.val + 22]? = some s!"byte2_{i.val + 1}" := by
  revert i
  decide

theorem Subscriber.getElem?_cells (r : Subscriber) (i : Fin 10) :
    r.cells[i.val + 2]? = some (.ofBool (r.bits.get i)) ∧
      r.cells[i.val + 12]? = some (.ofByte (r.hexes.get i)) ∧
      r.cells[i.val + 22]? = some (.ofByte (r.bytes.get i)) ∧
      r.cells[32]? = some (.ofWord r.mscLocation) ∧
      r.cells[33]? = some (.ofWord r.vlrLocation) := by
  have hi := i.isLt
  refine ⟨?_, ?_, ?_, ?_, ?_⟩ <;> simp [Subscriber.cells, List.getElem?_append, Vector.get]

theorem Record.readable (r : Record) : r.Readable := by
  cases r with
  | subscriber r =>
    obtain ⟨-, -, -, hmsc, hvlr⟩ := r.getElem?_cells 0
    refine ⟨shows (k := 0) rfl rfl, shows (k := 1) rfl rfl, ?_, shows (k := 32) rfl hmsc,
      shows (k := 33) rfl hvlr⟩
    intro i
    obtain ⟨hb, hh, hx⟩ := subscriberColumn i
    obtain ⟨cb, ch, cx, -, -⟩ := r.getElem?_cells i
    exact ⟨shows hb cb, shows hh ch, shows hx cx⟩
  | accessInfo r =>
    exact ⟨shows (k := 0) rfl rfl, shows (k := 1) rfl rfl, shows (k := 2) rfl rfl,
      shows (k := 3) rfl rfl, shows (k := 4) rfl rfl, shows (k := 5) rfl rfl⟩
  | facility r =>
    exact ⟨shows (k := 0) rfl rfl, shows (k := 1) rfl rfl, shows (k := 2) rfl rfl,
      shows (k := 3) rfl rfl, shows (k := 4) rfl rfl, shows (k := 5) rfl rfl⟩
  | forwarding r =>
    exact ⟨shows (k := 0) rfl rfl, shows (k := 1) rfl rfl, shows (k := 2) rfl rfl,
      shows (k := 3) rfl rfl, shows (k := 4) rfl rfl⟩

end StoreBench.Telecom
