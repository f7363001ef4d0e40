import StoreBench.Connection.Barrier
import StoreBench.Connection.Location

/-! The settings that are in force on a connection, after any number of configurations. -/
namespace StoreBench.Connection

/-- The mode of a database that is asked for `wanted` and is in mode `current`. A database in memory
knows two modes only, and only one that connections may share has a write-ahead log. -/
def JournalMode.change (medium : Medium) (current wanted : JournalMode) : JournalMode :=
  match medium with
  | .memory => if wanted.needsFile then current else wanted
  | .file => wanted
  | _ => if wanted = .wal then current else wanted

/-- A cache size that does not fit into 32 bits counts as 0. -/
def clampCache (size : Int) : Int :=
  if -0x80000000 ≤ size ∧ size < 0x80000000 then size else 0

/-- What is in force after a configuration: all that is wanted, as far as the database can. A
database file that takes no writes can neither be given a write-ahead log nor lose it. -/
def Options.configure (medium : Medium) (barrier : Option Barrier) (current wanted : Options) :
    Except Failure Options :=
  let next : Options :=
    { wanted with
      journalMode := current.journalMode.change medium wanted.journalMode
      cacheSize := clampCache wanted.cacheSize }
  match barrier with
  | none => .ok next
  | some b =>
    if next.journalMode = current.journalMode then .ok next
    else if next.journalMode = .wal then .error (b.failure.during .configuring)
    else if current.journalMode = .wal then
      .error ((Failure.ofDatabase .cannotLock).during .configuring)
    else .ok next

/-- What is in force before the first configuration; `keepsLog` says if the database has a
write-ahead log. -/
def Options.initial (medium : Medium) (keepsLog : Bool) : Options :=
  let journalMode : JournalMode :=
    match medium with
    | .memory => .memory
    | .memoryFile => .memory
    | .file => if keepsLog then .wal else .delete
    | _ => .delete
  ⟨journalMode, -2000, 0, false⟩

def Options.history (medium : Medium) (barrier : Option Barrier) (current : Options) :
    List Options → Except Failure (List Options)
  | [] => .ok []
  | wanted :: rest => do
    let next ← current.configure medium barrier wanted
    return next :: (← history medium barrier next rest)

end StoreBench.Connection
