/-! What a connection to a database is asked for. -/
namespace StoreBench.Connection

/-- How a database keeps what it needs to undo a transaction. -/
inductive JournalMode where
  | delete
  | truncate
  | persist
  | memory
  | wal
  | off
  deriving DecidableEq

namespace JournalMode

def all : List JournalMode := [delete, truncate, persist, memory, wal, off]

def keyword : JournalMode → String
  | delete => "DELETE"
  | truncate => "TRUNCATE"
  | persist => "PERSIST"
  | memory => "MEMORY"
  | wal => "WAL"
  | off => "OFF"

def name : JournalMode → String
  | delete => "delete"
  | truncate => "truncate"
  | persist => "persist"
  | memory => "memory"
  | wal => "wal"
  | off => "off"

def needsFile (m : JournalMode) : Bool := m != memory && m != off

end JournalMode

/-- A cache size is in pages, or in KiB if it is negative; the timeout is in milliseconds. -/
structure Options where
  journalMode : JournalMode
  cacheSize : Int
  busyTimeout : Nat
  foreignKeys : Bool
  deriving DecidableEq

def Options.standard : Options := ⟨.delete, -1000000, 30000, false⟩

end StoreBench.Connection
