import StoreBench.Connection.Settings
import StoreBench.Workspace

/-! Opening databases in a workspace, and keeping what was written into them. -/
namespace StoreBench

/-- A database as a connection has it, and the way to its file if it has one. -/
structure OpenDatabase where
  medium : Connection.Medium
  way : Option Workspace.Way
  content : Database
  barrier : Option Connection.Barrier

def OpenDatabase.settings (o : OpenDatabase) : Connection.Options :=
  .initial o.medium o.content.keepsLog

namespace Workspace

def reach (w : Workspace) (way : Way) : Except Cause Way :=
  if way.head? == some Name.root then w.enterAll [Name.root] way.tail else w.enterAll [] way

/-- The most bytes that the way to a database may have. -/
def maxDatabasePath : Nat := 504

/-- Goes on with a name on the way to a database. Here `..` takes the name before it away, whether
or not there is such a directory. -/
def approach (w : Workspace) (way : Way) (name : Name) : Option Way :=
  if name == Name.self then some way
  else if name == Name.parent then some way.up
  else
    let next := way ++ [name]
    if maxDatabasePath < (Name.join next).length then none
    else
      match w.reach next with
      | .ok _ => some next
      | .error .noSuchFile => some next
      | .error _ => none

/-- The way to a database, if there is or may be a file. -/
def databaseWay? (w : Workspace) (path : List UInt8) : Option Way :=
  let p := Path.ofBytes path
  (p.names.foldlM w.approach p.start).bind fun way => (w.reach way).toOption

/-- What a journal has behind the name of its database. -/
def journalEnding : String := "-journal"

def leavesRoomForJournal (way : Way) : Bool :=
  ((way.getLast?.getD []) ++ Name.ofText journalEnding).length ≤ maxNameSize

def databaseIn (content : ByteArray) : Except DatabaseError Database :=
  if content.size ≤ 1 then .ok .bare else .error .noDatabase

/-- Opens the file at a location, which may be made. What is asked of `path` fails by that name. -/
def openDatabaseFile (w : Workspace) (path : String) (l : Connection.Location) :
    Except DatabaseError ((Way × Except DatabaseError Database) × Workspace) :=
  match w.databaseWay? l.path with
  | none => .error (.cannotOpen path)
  | some way =>
    if l.rightsOf.any (!w.hasAt ·) then .error .cannotInspect
    else
      match w.node? way with
      | some .directory => .error (.cannotOpen path)
      | some (.database d) => .ok ((way, .ok d), w)
      | some (.file content) => .ok ((way, databaseIn content), w)
      | none =>
        if l.mode = .create then .ok ((way, .ok .bare), w.put way (.file .empty))
        else .error (.cannotOpen path)

/-- The barrier before the database at a location; its file, if it has one, is at the end of a
way. -/
def barrier? (l : Connection.Location) (way : Option Way) : Option Connection.Barrier :=
  let isFile := l.medium ≠ .memory && l.medium ≠ .temporary
  if l.mode = .readOnly || (isFile && l.isImmutable) then some .readOnly
  else if way.all leavesRoomForJournal then none
  else some .noJournal

/-- A write-ahead log needs to be shared; only a file that is taken for one that never changes can
be read without it. -/
def missesLog (l : Connection.Location) (d : Database) : Bool :=
  d.keepsLog && l.medium = .ownFile && !l.isImmutable

/-- Connects to the database at a path. Whether a file is a database shows when the connection is
configured. -/
def connect (w : Workspace) (text : String) : Except Failure OpenDatabase × Workspace :=
  let fail (cause : Cause) : Except Failure OpenDatabase × Workspace :=
    (.error ((Failure.ofCause cause).during (.opening text)), w)
  match text.toUTF8.toList.idxOf? 0 with
  | some position => fail (.zeroByte position)
  | none =>
    match Connection.Location.ofText text with
    | .error e => fail (.database e)
    | .ok l =>
      if l.medium = .file || l.medium = .ownFile then
        match w.openDatabaseFile text l with
        | .error e => fail (.database e)
        | .ok ((way, result), w) =>
          let result := result.bind fun d =>
            if missesLog l d then .error .cannotOpenCompanion else .ok d
          match result with
          | .ok d => (.ok ⟨l.medium, some way, d, barrier? l (some way)⟩, w)
          | .error e => (.error ((Failure.ofDatabase e).during .configuring), w)
      else (.ok ⟨l.medium, none, .bare, barrier? l none⟩, w)

/-- Keeps what a database has become. One that is as it was is not written. -/
def keepDatabase (w : Workspace) (o : OpenDatabase) (d : Database) : Workspace :=
  match o.way with
  | some way => if d = o.content then w else w.put way (.database d)
  | none => w

/-- Connects to the database at a path and configures the connection. The barrier that is left is
the one that stands then. Whether the database keeps a log is written into its file. -/
def openDatabase (w : Workspace) (text : String) (options : Connection.Options) :
    Except Failure OpenDatabase × Workspace :=
  match w.connect text with
  | (.error f, w) => (.error f, w)
  | (.ok o, w) =>
    match o.settings.configure o.medium o.barrier options with
    | .error f => (.error f, w)
    | .ok now =>
      let barrier := o.barrier.filter (·.stands now.journalMode)
      let content := { o.content with keepsLog := o.medium = .file && now.journalMode = .wal }
      if o.medium = .file then (.ok { o with barrier, content }, w.keepDatabase o content)
      else (.ok { o with barrier }, w)

def settings (w : Workspace) (text : String) (options : List Connection.Options) :
    Except Failure (List Connection.Options) :=
  (w.connect text).1.bind fun o => o.settings.history o.medium o.barrier options

end Workspace

end StoreBench
