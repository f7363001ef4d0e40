import StoreBench.Connection.Options
import StoreBench.Failure

/-! What keeps a connection from writing. -/
namespace StoreBench.Connection

inductive Barrier where
  | readOnly
  /-- The name of the database leaves no room for that of its journal. -/
  | noJournal
  deriving DecidableEq

namespace Barrier

def error : Barrier → DatabaseError
  | readOnly => .readOnly
  | noJournal => .cannotOpenCompanion

def failure (b : Barrier) : Failure := .ofDatabase b.error

def stands (journalMode : JournalMode) : Barrier → Bool
  | readOnly => true
  | noJournal => journalMode.needsFile

/-- Whether the barrier stops a statement that may write; `changes` says if it would change a row.
Where nothing is to be changed no journal is needed. -/
def stops (changes : Bool) : Barrier → Bool
  | readOnly => true
  | noJournal => changes

end Barrier

end StoreBench.Connection
