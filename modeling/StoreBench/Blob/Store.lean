import StoreBench.Footprint
import StoreBench.Log
import StoreBench.Outcome
import StoreBench.Random.Bytes

/-! The table of the blob workload: one column, in which one row is to be read and written. -/
namespace StoreBench.Blob

/-- The cells of the table in the order in which they came, if there is a table. -/
structure Store where
  cells : Option (List Cell)
  deriving DecidableEq

def tableName : String := "t"

def columnName : String := "a"

/-- The most bytes that a blob in a row may have. The row has six more. -/
def maxSize : Nat := maxLength - 6

def selectStatement : String := "SELECT a FROM t"

def updateStatement : String := "UPDATE t SET a = ?1"

namespace Store

def bare : Store := ⟨none⟩

def create (payload : List UInt8) : Store := ⟨some [.blob payload]⟩

/-- The rows, or the error of a statement that names the table if there is none. -/
def rows (s : Store) : Except DatabaseError (List Cell) :=
  match s.cells with
  | some cells => .ok cells
  | none => .error (.noSuchTable tableName)

def isBlob : Cell → Bool
  | .blob _ => true
  | _ => false

/-- Reads all rows, each of which has to be a blob. -/
def read (s : Store) : Except Failure Outcome :=
  match s.rows with
  | .error e => .error (.ofDatabase e)
  | .ok cells =>
    if cells.all isBlob then .ok (.ofHit !cells.isEmpty) else .error (.ofCause .notBlob)

/-- Writes all rows. A payload that is too long for a value is refused as soon as it is handed over,
one that is too long for a row as soon as there is one. -/
def write (payload : List UInt8) (s : Store) : Except Failure Outcome × Store :=
  match s.rows with
  | .error e => (.error (.ofDatabase e), s)
  | .ok cells =>
    match overlong? payload.length with
    | some e => (.error (.ofDatabase e), s)
    | none =>
      if !cells.isEmpty && maxSize < payload.length then (.error (.ofDatabase .tooBig), s)
      else (.ok (.ofHit !cells.isEmpty), ⟨some (cells.map fun _ => .blob payload)⟩)

/-- Why a blob of `n` bytes cannot be added. -/
def excess? (n : Nat) : Option DatabaseError :=
  overlong? n <|> if maxSize < n then some .tooBig else none

/-- Makes the table anew with bytes of a stream, for which there must be memory. If they are too
many for a row none is drawn here, and the table stays empty. -/
def loadDrawn (size : Nat) (stream : Random.Stream) (s : Store) :
    Except Abort Unit × List Event × Store :=
  if size = 0 then (.error (.failure (.ofCause .emptyPayload)), [], s)
  else if maxAllocation < size then (.error .capacityOverflow, [], s)
  else
    match excess? size with
    | some e => (.error (.failure ((Failure.ofDatabase e).during .loadingBlob)), [], ⟨some []⟩)
    | none => (.ok (), [.loadedBlob size], create ((Random.drawBytes size).value stream))

/-- The table without rows, and the number of rows that it had. -/
def clear (s : Store) : Except DatabaseError (Nat × Store) :=
  s.rows.map fun cells => (cells.length, ⟨some []⟩)

def add (cell : Cell) (s : Store) : Except DatabaseError Store :=
  s.rows.map fun cells => ⟨some (cells ++ [cell])⟩

def drop (s : Store) : Except DatabaseError Store := s.rows.map fun _ => bare

end Store

/-- The length of a cell: bytes of a blob, characters of a text up to the first that is 0. -/
def cellLength? : Cell → Option Nat
  | .null => none
  | .integer value => some (toString value).length
  | .text value => some (value.toList.takeWhile (· != '\x00')).length
  | .blob bytes => some bytes.length

end StoreBench.Blob
