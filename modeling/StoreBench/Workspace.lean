import StoreBench.Database
import StoreBench.Workspace.Path

/-!
A directory tree with the files and databases that the program works on. A path is followed name by
name: all that stands before another name has to be a directory.
-/
namespace StoreBench

inductive Node where
  | directory
  | file (content : ByteArray)
  | database (content : Database)

/-- What there is, by the names on the way to it. -/
structure Workspace where
  nodes : List (Workspace.Way × Node)

namespace Workspace

def empty : Workspace := ⟨[]⟩

def node? (w : Workspace) (way : Way) : Option Node :=
  if way.isUpward then some .directory else w.nodes.lookup way

def put (w : Workspace) (way : Way) (node : Node) : Workspace :=
  ⟨(way, node) :: w.nodes.filter fun (other, _) => other != way⟩

/-- The way that goes on with a name, which need not be there yet. -/
def enter (w : Workspace) (way : Way) (name : Name) : Except Cause Way :=
  match w.node? way with
  | none => .error .noSuchFile
  | some .directory =>
    if name == Name.self then .ok way
    else if name == Name.parent then .ok way.up
    else if maxNameSize < name.length then .error .nameTooLong
    else .ok (way ++ [name])
  | some _ => .error .notDirectory

def enterAll (w : Workspace) (way : Way) (names : List Name) : Except Cause Way :=
  names.foldlM w.enter way

def path (bytes : List UInt8) : Except Cause Path :=
  if bytes.contains 0 then .error .zeroInPath
  else if bytes.isEmpty then .error .noSuchFile
  else if pathSizeLimit ≤ bytes.length then .error .nameTooLong
  else .ok (.ofBytes bytes)

/-- The way to the end of a path. Only a directory has a slash behind it. -/
def find (w : Workspace) (bytes : List UInt8) : Except Cause Way := do
  let p ← path bytes
  let way ← w.enterAll p.start p.names
  if p.endsInSlash then w.enter way Name.self else return way

def hasAt (w : Workspace) (bytes : List UInt8) : Bool :=
  ((w.find bytes).toOption.bind w.node?).isSome

/-- The bytes in a file; those of a database are none of a text. -/
def read (w : Workspace) (text : String) : Except Cause String := do
  match w.node? (← w.find (Name.ofText text)) with
  | none => throw .noSuchFile
  | some .directory => throw .isDirectory
  | some (.database _) => throw .notText
  | some (.file content) =>
    match String.fromUTF8? content with
    | some text => return text
    | none => throw .notText

/-- The way to the last of some names, where something is to be made, unless it is there as a
directory. The names before it have to be directories. -/
def findNew (w : Workspace) (start : Way) (above : List Name) (last : Name) :
    Except Cause Way := do
  let way ← w.enterAll start above
  if last == Name.self || last == Name.parent then do
    let _ ← w.enter way last
    throw .fileExists
  else w.enter way last

def makeDirectory (w : Workspace) (start : Way) (above : List Name) (last : Name) :
    Except Cause Workspace := do
  let way ← w.findNew start above last
  if (w.node? way).isSome then throw .fileExists
  return w.put way .directory

def isDirectory (w : Workspace) (start : Way) (names : List Name) : Bool :=
  match (w.enterAll start names).toOption.bind w.node? with
  | some .directory => true
  | _ => false

/-- Makes a directory with those above it, as far as they are not there. `names` leads up from it.
What was made before something fails remains. -/
def makeDirectories (w : Workspace) (start : Way) : List Name → Except Cause Unit × Workspace
  | [] => (.ok (), w)
  | last :: names =>
    let settle (w : Workspace) : Except Cause Workspace → Except Cause Unit × Workspace
      | .ok w => (.ok (), w)
      | .error cause =>
        if w.isDirectory start (last :: names).reverse then (.ok (), w) else (.error cause, w)
    match w.makeDirectory start names.reverse last with
    | .error .noSuchFile =>
      match w.makeDirectories start names with
      | (.error cause, w) => (.error cause, w)
      | (.ok (), w) => settle w (w.makeDirectory start names.reverse last)
    | result => settle w result

/-- Opens a file to write into it, which is made if there is none. -/
def openFile (w : Workspace) (p : Path) : Except Cause (Way × Workspace) := do
  match p.names.reverse with
  | [] => throw .isDirectory
  | last :: above =>
    let way ← w.enterAll p.start above.reverse
    let _ ← w.enter way Name.self
    if p.endsInSlash then throw .isDirectory
    let way ← w.enter way last
    match w.node? way with
    | none => return (way, w.put way (.file .empty))
    | some .directory => throw .isDirectory
    | some _ => return (way, w)

/-- Writes at the end of a file, which is made if there is none, with the directories above it. -/
def append (w : Workspace) (text content : String) : Except Cause Unit × Workspace :=
  match path (Name.ofText text) with
  | .error cause => (.error cause, w)
  | .ok p =>
    match w.makeDirectories p.start p.parentNames.reverse with
    | (.error cause, w) => (.error cause, w)
    | (.ok (), w) =>
      match w.openFile p with
      | .error cause => (.error cause, w)
      | .ok (way, w) =>
        match w.node? way with
        | some (.file bytes) => (.ok (), w.put way (.file (bytes ++ content.toUTF8)))
        | _ => (.ok (), w)

/-- The workspace with a further file, and with the directories above it. -/
def addFile (w : Workspace) (text : String) (content : ByteArray) : Workspace :=
  let p := Path.ofText text
  match (w.makeDirectories p.start p.parentNames.reverse).2.openFile p with
  | .ok (way, w) => w.put way (.file content)
  | .error _ => w

/-- What databases keep beside them for as long as they need it. -/
def companionEndings : List String := ["-wal", "-shm", "-journal"]

def isCompanion (name : Name) : Bool :=
  companionEndings.any fun ending => (Name.ofText ending).isSuffixOf name

/-- The names in the root of the workspace as they are shown, in alphabetical order. -/
def listing (w : Workspace) : List String :=
  let names := w.nodes.filterMap fun (way, _) => if way.isUpward then none else way.head?
  let shown := names.eraseDups.filter fun name =>
    name != Name.parent && name != Name.root && !isCompanion name
  (shown.map Name.text).mergeSort fun a b => a ≤ b

end Workspace

end StoreBench
