import StoreBench.Failure
import StoreBench.Decimal.Natural
import StoreBench.Text.Case
import StoreBench.Text.Hex
import StoreBench.Text.Utf8

/-!
Where a connection finds its database. A path says it plainly, or as a URI: behind `file:` comes the
path, in which bytes may be written as `%` and two hexadecimal digits, and behind a question mark
come parameters. So a path is a list of bytes.
-/
namespace StoreBench.Connection

inductive Medium where
  | file
  /-- A file that connections do not share, so that it has no write-ahead log. -/
  | ownFile
  | temporary
  | memory
  /-- A file that is itself kept in memory. It has no write-ahead log. -/
  | memoryFile
  deriving DecidableEq

inductive Mode where
  | readOnly
  | readWrite
  | create
  /-- There is no file; all is kept in memory. -/
  | memory
  deriving DecidableEq

namespace Mode

def all : List (String × Mode) :=
  [("ro", readOnly), ("rw", readWrite), ("rwc", create), ("memory", memory)]

/-- A mode may be given up for one of lower or equal rank. -/
def rank : Mode → Nat
  | readOnly => 1
  | readWrite => 2
  | create => 6
  | memory => 128

def allows (current wanted : Mode) : Bool := wanted = memory || wanted.rank ≤ current.rank

end Mode

structure Location where
  medium : Medium
  path : List UInt8
  mode : Mode
  /-- Whether the file is taken for one that never changes. -/
  isImmutable : Bool
  /-- The path of the file whose rights a new file gets. -/
  rightsOf : Option (List UInt8)
  deriving DecidableEq

namespace Location

def memoryName : String := ":memory:"

/-- What holds the database at a path; `isShared` says if connections may share a file. -/
def mediumOf (path : List UInt8) (mode : Mode) (isShared : Bool) : Medium :=
  if path == memoryName.toUTF8.toList || mode = .memory then .memory
  else if path.isEmpty then .temporary
  else if isShared then .file
  else .ownFile

def ofPath (path : List UInt8) : Location :=
  ⟨mediumOf path .create true, path, .create, false, none⟩

/-- A byte of a URI. One that is written in digits stands for itself and never separates. -/
structure Octet where
  value : UInt8
  escaped : Bool
  deriving DecidableEq

namespace Octet

def isPlain (c : Char) (o : Octet) : Bool := !o.escaped && o.value.toNat == c.toNat

def decode : List UInt8 → List Octet
  | 37 :: a :: b :: rest =>
    match Text.hexValue? (Char.ofNat a.toNat).toLower,
      Text.hexValue? (Char.ofNat b.toNat).toLower with
    | some high, some low => ⟨UInt8.ofNat (16 * high + low), true⟩ :: decode rest
    | _, _ => ⟨37, false⟩ :: decode (a :: b :: rest)
  | x :: rest => ⟨x, false⟩ :: decode rest
  | [] => []

/-- The bytes, up to the first that is zero. -/
def bytes (os : List Octet) : List UInt8 := (os.map Octet.value).takeWhile (· != 0)

/-- What stands before the first separator, and what stands behind it. -/
def split (c : Char) (os : List Octet) : List Octet × List Octet :=
  (os.takeWhile (!isPlain c ·), (os.dropWhile (!isPlain c ·)).tail)

def splitAll (c : Char) : List Octet → List (List Octet)
  | [] => [[]]
  | o :: os =>
    if isPlain c o then [] :: splitAll c os
    else
      match splitAll c os with
      | [] => [[o]]
      | part :: parts => (o :: part) :: parts

/-- The names and values of parameters. Those without a name do not count. -/
def parameters (os : List Octet) : List (String × List UInt8) :=
  ((splitAll '&' os).map fun part =>
    let (name, value) := split '=' part
    (Text.decode (bytes name), bytes value)).filter (·.1 != "")

end Octet

/-- A file system that can be asked for. -/
inductive System where
  | standard
  /-- Files are locked in a way that does not let them be shared. -/
  | unshared
  | memory
  deriving DecidableEq

namespace System

def all : List (String × System) :=
  [("unix", standard), ("unix-excl", standard), ("unix-none", unshared), ("unix-dotfile", unshared),
    ("memdb", memory)]

end System

/-- What the parameters of a URI have said so far. -/
structure Wishes where
  mode : Mode
  system : Option String
  isUnlocked : Bool
  isImmutable : Bool
  rightsOf : Option (List UInt8)

namespace Wishes

def none : Wishes := ⟨.create, .none, false, false, .none⟩

def hexNumber (digits : List Char) : Nat :=
  digits.foldl (fun n c => 16 * n + (Text.hexValue? c.toLower).getD 0) 0

/-- The number at the beginning of a text, which may be hexadecimal. One that does not fit into 31
bits counts as 0. -/
def number (cs : List Char) : Nat :=
  let isHex (c : Char) : Bool := (Text.hexValue? c.toLower).isSome
  let n :=
    match cs with
    | '0' :: x :: rest =>
      if x.toLower == 'x' && rest.head?.any isHex then hexNumber (rest.takeWhile isHex)
      else (Decimal.value? (cs.takeWhile Char.isDigit)).getD 0
    | cs => (Decimal.value? (cs.takeWhile Char.isDigit)).getD 0
  if n < 0x80000000 then n else 0

/-- Whether the value of a parameter says yes: some words do, and so does a number unless its last
eight bits are zero. What is neither says no. -/
def isYes (value : List UInt8) : Bool :=
  let text := Text.decode value
  match text.toList.head? with
  | some c =>
    if c.isDigit then number text.toList % 256 != 0
    else ["on", "yes", "true"].any (Text.sameUpToCase text)
  | .none => false

def take (s : Wishes) (parameter : String × List UInt8) : Except DatabaseError Wishes :=
  let value := Text.decode parameter.2
  match parameter.1 with
  | "vfs" => .ok { s with system := some value }
  | "cache" =>
    if value == "shared" || value == "private" then .ok s else .error (.noSuchMode "cache" value)
  | "mode" =>
    match Mode.all.lookup value with
    | .none => .error (.noSuchMode "access" value)
    | some mode =>
      if s.mode.allows mode then .ok { s with mode } else .error (.modeNotAllowed value)
  | _ => .ok s

/-- The value that counts of a parameter that is given more than once is the first. -/
def lookAt (parameters : List (String × List UInt8)) (s : Wishes) : Wishes :=
  { s with
    isUnlocked := (parameters.lookup "nolock").any isYes
    isImmutable := (parameters.lookup "immutable").any isYes
    rightsOf := parameters.lookup "modeof" }

/-- The location that the parameters make of a path. -/
def location (s : Wishes) (path : List UInt8) : Except DatabaseError Location :=
  match System.all.lookup (s.system.getD "unix") with
  | .none => .error (.noSuchSystem (s.system.getD ""))
  | some .memory =>
    let medium :=
      match mediumOf path s.mode true with
      | .file => .memoryFile
      | medium => medium
    .ok ⟨medium, path, s.mode, s.isImmutable, .none⟩
  | some system =>
    let isShared := system = .standard && !s.isUnlocked && !s.isImmutable
    .ok ⟨mediumOf path s.mode isShared, path, s.mode, s.isImmutable, s.rightsOf⟩

end Wishes

/-- What stands behind the authority of a URI, of which there is at most one: this machine. -/
def skipAuthority (bytes : List UInt8) : Except DatabaseError (List UInt8) :=
  match bytes with
  | 47 :: 47 :: rest =>
    let authority := Text.decode (rest.takeWhile (· != 47))
    if authority == "" || authority == "localhost" then .ok (rest.dropWhile (· != 47))
    else .error (.badAuthority authority)
  | _ => .ok bytes

def ofUri (bytes : List UInt8) : Except DatabaseError Location := do
  let rest ← skipAuthority bytes
  let (path, parameters) := Octet.split '?' ((Octet.decode rest).takeWhile (!Octet.isPlain '#' ·))
  let parameters := Octet.parameters parameters
  let wishes ← parameters.foldlM Wishes.take .none
  (Wishes.lookAt parameters wishes).location (Octet.bytes path)

def uriScheme : String := "file:"

def ofText (text : String) : Except DatabaseError Location :=
  if text.startsWith uriScheme then ofUri (text.toUTF8.toList.drop uriScheme.utf8ByteSize)
  else .ok (ofPath text.toUTF8.toList)

end Location

end StoreBench.Connection
