import StoreBench.Text.Alphanumeric

/-! Texts that name variables and times, with the values of these in their places. -/
namespace StoreBench.Text

/-- What stands before the name of a variable; a closing brace stands behind it. -/
def variableMark : String := "$ENV\x7b"

def startsVariable (c : Char) : Bool := isAlphanumeric c || c == '_'

def continuesVariable (c : Char) : Bool := startsVariable c || c == '.'

/-- The name at the beginning of a text, if a closing brace stands right behind it. -/
def leadingName? (cs : List Char) : Option String :=
  match cs with
  | [] => none
  | c :: rest =>
    if startsVariable c && (rest.dropWhile continuesVariable).head? == some '\x7d' then
      some (String.ofList (c :: rest.takeWhile continuesVariable))
    else none

def variableNames (text : String) : List String :=
  ((text.splitOn variableMark).drop 1).filterMap fun part => leadingName? part.toList

def substitute (text name value : String) : String :=
  value.intercalate (text.splitOn (variableMark ++ name ++ "\x7d"))

/-- The text with the values of its variables. One without a value stays as it is named. -/
def expand (value? : String → Option String) (text : String) : String :=
  (variableNames text).foldl
    (fun result name =>
      match value? name with
      | some value => substitute result name value
      | none => result)
    text

/-- What stands before the pattern of a time; a closing brace stands behind it. -/
def timeMark : List Char := "$TIME\x7b".toList

def maxTimes : Nat := 5

/-- What a pattern without any field of a date or of a clock comes to: all characters stand for
themselves, but those behind a percent sign stand for one that is hard to write. -/
def timeText? : List Char → Option (List Char)
  | [] => some []
  | '%' :: '%' :: cs => (timeText? cs).map ('%' :: ·)
  | '%' :: 't' :: cs => (timeText? cs).map ('\t' :: ·)
  | '%' :: 'n' :: cs => (timeText? cs).map ('\n' :: ·)
  | '%' :: _ => none
  | c :: cs => (timeText? cs).map (c :: ·)

/-- What stands before the first time of a text, and what stands behind its mark. -/
def splitTime? : List Char → Option (List Char × List Char)
  | [] => none
  | c :: cs =>
    if timeMark.isPrefixOf (c :: cs) then some ([], (c :: cs).drop timeMark.length)
    else (splitTime? cs).map fun (before, behind) => (c :: before, behind)

/-- The text with its first time put in, if there is one. -/
def putTime? (cs : List Char) : Option (List Char) := do
  let (before, behind) ← splitTime? cs
  let time ← timeText? (behind.takeWhile (· != '\x7d'))
  match behind.dropWhile (· != '\x7d') with
  | [] => none
  | _ :: rest => return before ++ time ++ rest

/-- Puts in at most `n` times, one after another. -/
def putTimes : Nat → List Char → List Char
  | 0, cs => cs
  | n + 1, cs =>
    match putTime? cs with
    | some cs => putTimes n cs
    | none => cs

/-- The text with the values of its variables, and then with its times. -/
def fill (value? : String → Option String) (text : String) : String :=
  String.ofList (putTimes maxTimes (expand value? text).toList)

end StoreBench.Text
