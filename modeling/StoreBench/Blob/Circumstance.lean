import StoreBench.Blob.Request
import StoreBench.Blob.Store
import StoreBench.Connection.Barrier

/-!
What requests meet in a database besides the table: another workload's table under its name, or a
barrier that keeps the connection from writing.
-/
namespace StoreBench.Blob

structure Circumstance where
  hasImpostor : Bool
  barrier : Option Connection.Barrier
  deriving DecidableEq

/-- The error of a request to an impostor, which has no such column. Only a query tells the
place. -/
def misfit : Request → DatabaseError
  | .read => .noSuchColumn columnName (some ⟨selectStatement, 7⟩)
  | .write => .noSuchColumn columnName none

/-- What stops a request. A table that is absent is for the request itself to find. -/
def Circumstance.obstacle? (c : Circumstance) (s : Store) (r : Request) : Option Failure :=
  if c.hasImpostor then some (.ofDatabase (misfit r))
  else
    match r, s.cells, c.barrier with
    | .write, some cells, some b => if b.stops (!cells.isEmpty) then some b.failure else none
    | _, _, _ => none

end StoreBench.Blob
