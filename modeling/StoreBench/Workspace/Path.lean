import StoreBench.Text.Utf8

/-! Paths, as names between slashes, and the ways through a directory tree that they describe. -/
namespace StoreBench.Workspace

abbrev Name := List UInt8

namespace Name

def ofText (text : String) : Name := text.toUTF8.toList

def text (n : Name) : String := Text.decode n

def slash : UInt8 := 47

/-- The name that every directory has for itself. -/
def self : Name := ofText "."

/-- The name that every directory has for the one above it. -/
def parent : Name := ofText ".."

def root : Name := [slash]

def split : List UInt8 → List Name
  | [] => [[]]
  | b :: bs =>
    if b = slash then [] :: split bs
    else
      match split bs with
      | [] => [[b]]
      | name :: names => (b :: name) :: names

def join (names : List Name) : List UInt8 := [slash].intercalate names

end Name

/-- The names from the root of the workspace down. A way that leads out of it begins with the name
of a parent for each directory that it goes up, or with a slash. -/
abbrev Way := List Name

/-- The directory above the end of a way. There is none above the uppermost. -/
def Way.up (way : Way) : Way :=
  match way.getLast? with
  | none => [Name.parent]
  | some name =>
    if name == Name.parent then way ++ [Name.parent]
    else if name == Name.root then way
    else way.dropLast

/-- Whether a way leads up only, where there are nothing but directories. -/
def Way.isUpward (way : Way) : Bool :=
  way.all fun name => name == Name.parent || name == Name.root

structure Path where
  start : Way
  names : List Name
  endsInSlash : Bool
  deriving DecidableEq

namespace Path

def ofBytes (bytes : List UInt8) : Path :=
  let names := (Name.split bytes).filter (!·.isEmpty)
  { start := if bytes.head? == some Name.slash then [Name.root] else []
    names
    endsInSlash := !names.isEmpty && bytes.getLast? == some Name.slash }

def ofText (text : String) : Path := ofBytes (Name.ofText text)

/-- The names of the directory that the last name stands in. -/
def parentNames (p : Path) : List Name := (p.names.filter (· != Name.self)).dropLast

end Path

/-- The most bytes that a name may have. -/
def maxNameSize : Nat := 255

/-- The least number of bytes that no path may have. -/
def pathSizeLimit : Nat := 4096

end StoreBench.Workspace
