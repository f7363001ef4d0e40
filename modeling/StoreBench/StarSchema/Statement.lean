import StoreBench.Cell
import StoreBench.Decimal.Held
import StoreBench.Failure
import StoreBench.StarSchema.Token
import StoreBench.Text.Blank

/-! Statements on tables, and how they are read from text. -/
namespace StoreBench.StarSchema

/-- A name that stands for a column. One in double quotes stands for itself, as a text, where there
is no such column. -/
structure ColumnName where
  name : String
  isQuoted : Bool
  offset : Nat
  deriving DecidableEq

inductive Term where
  | column (c : ColumnName)
  | literal (cell : Cell)
  deriving DecidableEq

/-- What a query asks of the rows that it finds. -/
inductive Wanted where
  /-- All their cells; the offset is that of the star. -/
  | all (offset : Nat)
  /-- Their number, in one row. -/
  | count
  | term (t : Term)
  deriving DecidableEq

structure Condition where
  column : ColumnName
  bound : Int
  deriving DecidableEq

inductive Statement where
  /-- The choices of one row from every table, and of these the ones that meet the condition, if
  there is one. Where no table is named there is one choice, without cells. -/
  | query (wanted : Wanted) (tables : List String) (condition : Option Condition)
  /-- No row; it adds one to a table. -/
  | insert (table : String) (value : Int)
  deriving DecidableEq

/-- Where reading stops: at a token that cannot stand there, or at the end of the text. -/
abbrev Stop := Option Token

/-- Takes something from the front of a list of tokens. -/
abbrev Reader := StateT (List Token) (Except Stop)

/-- Numbers are kept exactly as long as they fit into 64 bits with a sign, and as doubles beyond
that. -/
def heldNumber (negative : Bool) (magnitude : Nat) : Int :=
  let limit := 0x8000000000000000
  let held :=
    if magnitude < limit || (negative && magnitude = limit) then magnitude
    else Decimal.held magnitude
  if negative then -(held : Int) else held

namespace Reader

/-- Takes a token that `f` accepts. -/
def accept {α : Type} (f : Token → Option α) : Reader α := fun ts =>
  match ts with
  | [] => .error none
  | t :: rest =>
    match f t with
    | some x => .ok (x, rest)
    | none => .error (some t)

def keyword (word : String) : Reader Unit :=
  accept fun t => if t.isKeyword word then some () else none

def symbol (c : Char) : Reader Unit := accept fun t => if t.isSymbol c then some () else none

def name : Reader String := accept Token.name?

def digits (t : Token) : Option Nat :=
  if t.kind = .number then Decimal.value? t.chars else none

/-- Whether a token comes next; if it does, it is taken. -/
def next? (p : Token → Bool) : Reader Bool := fun ts =>
  match ts with
  | [] => .ok (false, [])
  | t :: rest => .ok (if p t then (true, rest) else (false, t :: rest))

def integer : Reader Int := do
  if ← next? (·.isSymbol '-') then return heldNumber true (← accept digits)
  else
    let _ ← next? (·.isSymbol '+')
    return heldNumber false (← accept digits)

/-- More names of a list, each behind a comma; `fuel` bounds their number. -/
def moreNames : Nat → Reader (List String)
  | 0 => return []
  | fuel + 1 => do
    if ← next? (·.isSymbol ',') then
      let first ← name
      return first :: (← moreNames fuel)
    else return []

def names : Reader (List String) := do
  let first ← name
  return first :: (← moreNames (← get).length)

def columnName? (t : Token) : Option ColumnName :=
  if t.kind = .text then none
  else t.name?.map fun name => ⟨name, t.chars.head? == some '"', t.offset⟩

def textCell? (t : Token) : Option Cell :=
  if t.kind = .text then some (.text (Token.content t.chars)) else none

def term : Reader Term := do
  match (← get).head? with
  | none => throw none
  | some t =>
    match columnName? t, textCell? t with
    | some c, _ => do
      let _ ← accept some
      return .column c
    | none, some cell => do
      let _ ← accept some
      return .literal cell
    | none, none => return .literal (.integer (← integer))

def condition : Reader Condition := do
  let column ← accept columnName?
  symbol '>'
  return ⟨column, ← integer⟩

/-- Whether a word and an opening bracket come next. -/
def isCall (word : String) : List Token → Bool
  | t :: u :: _ => t.isKeyword word && u.isSymbol '('
  | _ => false

end Reader

namespace Statement

open Reader

def wanted : Reader Wanted := do
  let offset := ((← get).head?.map Token.offset).getD 0
  if ← next? (·.isSymbol '*') then return .all offset
  else if isCall "count" (← get) then
    keyword "count"
    symbol '('
    symbol '*'
    symbol ')'
    return .count
  else return .term (← term)

/-- What may follow the first word of a query. -/
def readSelect : Reader Statement := do
  let w ← wanted
  let tables ← if ← next? (·.isKeyword "from") then names else pure []
  if ← next? (·.isKeyword "where") then return query w tables (some (← condition))
  else return query w tables none

def readInsert : Reader Statement := do
  keyword "into"
  let table ← name
  keyword "values"
  symbol '('
  let value ← integer
  symbol ')'
  return insert table value

def reader : Reader Statement := do
  let statement ←
    if ← next? (·.isKeyword "insert") then readInsert
    else
      keyword "select"
      readSelect
  if (← get).isEmpty then return statement
  else
    symbol ';'
    return statement

/-- The error of a text that stops being a statement at a token. -/
def stopError (sql : String) (t : Token) : DatabaseError :=
  let word := String.ofList t.chars
  if t.kind = .illegal then .unrecognizedToken word ⟨sql, t.offset⟩
  else .syntaxError word ⟨sql, t.offset⟩

/-- The first statement of a text that is not empty. What follows it is not looked at. -/
def parse (sql : String) : Except DatabaseError Statement :=
  let tokens := (Token.ofText sql.toList).dropWhile (·.isSymbol ';')
  if tokens.isEmpty then .error .noStatement
  else
    match reader tokens with
    | .ok (statement, _) => .ok statement
    | .error none => .error .incompleteStatement
    | .error (some t) => .error (stopError sql t)

/-- A text without the blanks around it and the semicolons at its end. -/
def trimmed (text : String) : String :=
  String.ofList (Text.dropEnd (· == ';') (Text.trim text.toList))

end Statement

end StoreBench.StarSchema
