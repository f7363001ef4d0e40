import StoreBench.Footprint
import StoreBench.Telecom.Definition
import StoreBench.Telecom.Record

/-! Records as rows of cells, in the order of the columns of their tables. -/
namespace StoreBench.Telecom

def Subscriber.cells (r : Subscriber) : List Cell :=
  [.ofKey r.id, .text r.number] ++ r.bits.toList.map .ofBool ++ r.hexes.toList.map .ofByte ++
    r.bytes.toList.map .ofByte ++ [.ofWord r.mscLocation, .ofWord r.vlrLocation]

def AccessInfo.cells (r : AccessInfo) : List Cell :=
  [.ofKey r.owner, .ofByte r.kind, .ofByte r.data1, .ofByte r.data2, .text r.data3, .text r.data4]

def Facility.cells (r : Facility) : List Cell :=
  [.ofKey r.owner, .ofByte r.kind, .ofBool r.active, .ofByte r.errorControl, .ofByte r.dataA,
    .text r.dataB]

def Forwarding.cells (r : Forwarding) : List Cell :=
  [.ofKey r.owner, .ofByte r.kind, .ofByte r.start, .ofByte r.stop, .text r.target]

def Record.cells : Record → List Cell
  | .subscriber r => r.cells
  | .accessInfo r => r.cells
  | .facility r => r.cells
  | .forwarding r => r.cells

/-- The cells that a row is kept with. The id of a subscriber is kept elsewhere, as the number of
its row. -/
def Record.storedCells : Record → List Cell
  | .subscriber r => .null :: r.cells.tail
  | r => r.cells

def Record.length (r : Record) : Nat := rowLength r.storedCells

theorem mapM_map {α : Type} {f : α → Cell} {g : Cell → Option α} (h : ∀ x, g (f x) = some x)
    (xs : List α) : (xs.map f).mapM g = some xs := by
  induction xs with
  | nil => rfl
  | cons x xs ih => simp [h, ih]

/-- The values of the first ten cells, and the cells behind them. -/
def ten? {α : Type} (g : Cell → Option α) (cells : List Cell) : Option (Vector α 10 × List Cell) :=
  ((cells.take 10).mapM g).bind fun xs =>
    if h : xs.toArray.size = 10 then some (⟨xs.toArray, h⟩, cells.drop 10) else none

theorem ten?_append {α : Type} {f : α → Cell} {g : Cell → Option α} (h : ∀ x, g (f x) = some x)
    (v : Vector α 10) (rest : List Cell) : ten? g (v.toList.map f ++ rest) = some (v, rest) := by
  have hl : (v.toList.map f).length = 10 := by simp
  unfold ten?
  rw [List.take_left' hl, List.drop_left' hl, mapM_map h]
  simp [Vector.toList]

def Subscriber.ofCells? : List Cell → Option Subscriber
  | id :: number :: cells => do
    let (bits, cells) ← ten? Cell.bool? cells
    let (hexes, cells) ← ten? Cell.byte? cells
    let (bytes, cells) ← ten? Cell.byte? cells
    match cells with
    | [msc, vlr] =>
      return ⟨← id.key?, ← number.text?, bits, hexes, bytes, ← msc.word?, ← vlr.word?⟩
    | _ => none
  | _ => none

def Record.ofCells? : Table → List Cell → Option Record
  | .subscriber, cells => (Subscriber.ofCells? cells).map .subscriber
  | .accessInfo, [owner, kind, data1, data2, data3, data4] => do
    return .accessInfo ⟨← owner.key?, ← kind.byte?, ← data1.byte?, ← data2.byte?, ← data3.text?,
      ← data4.text?⟩
  | .specialFacility, [owner, kind, active, errorControl, dataA, dataB] => do
    return .facility ⟨← owner.key?, ← kind.byte?, ← active.bool?, ← errorControl.byte?,
      ← dataA.byte?, ← dataB.text?⟩
  | .callForwarding, [owner, kind, start, stop, target] => do
    return .forwarding ⟨← owner.key?, ← kind.byte?, ← start.byte?, ← stop.byte?, ← target.text?⟩
  | _, _ => none

theorem Subscriber.ofCells?_cells (r : Subscriber) : ofCells? r.cells = some r := by
  simp only [Subscriber.cells, Subscriber.ofCells?, List.cons_append, List.nil_append,
    List.append_assoc]
  rw [ten?_append Cell.bool?_ofBool, Option.bind_eq_bind, Option.bind_some]
  dsimp only
  rw [ten?_append Cell.byte?_ofByte, Option.bind_eq_bind, Option.bind_some]
  dsimp only
  rw [ten?_append Cell.byte?_ofByte, Option.bind_eq_bind, Option.bind_some]
  simp only [Cell.key?_ofKey, Cell.word?_ofWord, Cell.text?_text]
  rfl

/-- A row tells all of its record. -/
theorem Record.ofCells?_cells (r : Record) : ofCells? r.table r.cells = some r := by
  cases r with
  | subscriber r => simp [Record.cells, Record.table, Record.ofCells?, Subscriber.ofCells?_cells]
  | accessInfo r => simp [Record.cells, Record.table, Record.ofCells?, AccessInfo.cells]
  | facility r => simp [Record.cells, Record.table, Record.ofCells?, Facility.cells]
  | forwarding r => simp [Record.cells, Record.table, Record.ofCells?, Forwarding.cells]

/-- The cell of a row under the name of a column. -/
def Record.cell? (r : Record) (column : String) : Option Cell :=
  ((r.table.columns.map Column.name).zip r.cells).lookup column

end StoreBench.Telecom
