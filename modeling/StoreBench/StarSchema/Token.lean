/-! Words and symbols of a statement, each with the place where it stands. -/
namespace StoreBench.StarSchema

inductive TokenKind where
  /-- A keyword or a name. -/
  | word
  /-- A name in quotes or brackets. -/
  | quoted
  | number
  /-- A text in single quotes. -/
  | text
  | symbol
  /-- What is no token: a character that never begins one, or a quote that is not closed. -/
  | illegal
  deriving DecidableEq

/-- A token as it is written, and the number of bytes before it. -/
structure Token where
  kind : TokenKind
  chars : List Char
  offset : Nat
  deriving DecidableEq

namespace Token

/-- Blanks that may stand behind any token. -/
def opensGap (c : Char) : Bool := c.isWhitespace || c == '\x0c'

/-- Blanks that may stand behind another blank. -/
def continuesGap (c : Char) : Bool := opensGap c || c == '\x0b'

/-- The mark that may stand at the beginning of a text. It counts as a blank by itself. -/
def byteOrderMark : Char := '\ufeff'

/-- How many characters there are up to the end of a comment, and with it. -/
def untilCommentEnd : List Char → Nat
  | '*' :: '/' :: _ => 2
  | _ :: cs => 1 + untilCommentEnd cs
  | [] => 0

/-- How many characters behind `c` belong to a gap that begins there, if one does. A comment is a
gap, too; it goes on to the end of the line, or to its closing mark. -/
def gap? (c : Char) (cs : List Char) : Option Nat :=
  if c = byteOrderMark then some 0
  else if opensGap c then some (cs.takeWhile continuesGap).length
  else
    match c, cs with
    | '-', '-' :: _ => some (cs.takeWhile (· != '\n')).length
    | '/', '*' :: d :: rest => some (1 + untilCommentEnd (d :: rest))
    | _, _ => none

def startsWord (c : Char) : Bool := c.isAlpha || c == '_' || 127 < c.toNat

def continuesWord (c : Char) : Bool := startsWord c || c.isDigit || c == '$'

/-- How many characters there are up to a closing quote, and with it, if there is one. A quote that
is written twice does not close. -/
def untilQuote? (quote : Char) : List Char → Option Nat
  | [] => none
  | [c] => if c = quote then some 1 else none
  | c :: d :: cs =>
    if c = quote then if d = quote then (untilQuote? quote cs).map (· + 2) else some 1
    else (untilQuote? quote (d :: cs)).map (· + 1)

/-- How many characters there are up to a closing bracket, and with it, if there is one. -/
def untilBracket? (cs : List Char) : Option Nat := (cs.idxOf? ']').map (· + 1)

/-- A token of a kind that has to be closed. -/
def closed (kind : TokenKind) (cs : List Char) : Option Nat → TokenKind × Nat
  | some n => (kind, n)
  | none => (.illegal, cs.length)

def isStray (c : Char) : Bool :=
  c.toNat < 32 || c == '\x7f' || ['\\', ']', '^', '\x7b', '\x7d'].contains c

/-- The kind of a token that begins with `c`, and how many of the characters behind it belong to
it. -/
def shape (c : Char) (cs : List Char) : TokenKind × Nat :=
  if startsWord c then (.word, (cs.takeWhile continuesWord).length)
  else if c.isDigit then
    let n := (cs.takeWhile continuesWord).length
    (if (cs.take n).all Char.isDigit then .number else .illegal, n)
  else if c = '\'' then closed .text cs (untilQuote? c cs)
  else if c = '"' || c = '\x60' then closed .quoted cs (untilQuote? c cs)
  else if c = '[' then closed .quoted cs (untilBracket? cs)
  else if isStray c then (.illegal, 0)
  else (.symbol, 0)

def bytes (cs : List Char) : Nat := (cs.map Char.utf8Size).foldr (· + ·) 0

/-- The tokens of a text behind `offset` bytes. -/
def scan (offset : Nat) : List Char → List Token
  | [] => []
  | c :: cs =>
    have shorter (n : Nat) : (cs.drop n).length < (c :: cs).length := by
      rw [List.length_drop, List.length_cons]
      omega
    match gap? c cs with
    | some n =>
      have := shorter n
      scan (offset + bytes (c :: cs.take n)) (cs.drop n)
    | none =>
      let (kind, n) := shape c cs
      let chars := c :: cs.take n
      have := shorter n
      ⟨kind, chars, offset⟩ :: scan (offset + bytes chars) (cs.drop n)
termination_by cs => cs.length

def ofText (text : List Char) : List Token := scan 0 (text.takeWhile (· != '\x00'))

/-- Whether a token is a given keyword, in letters of any case. -/
def isKeyword (t : Token) (keyword : String) : Bool :=
  t.kind = .word && t.chars.map Char.toLower == keyword.toList

def isSymbol (t : Token) (c : Char) : Bool := t.kind = .symbol && t.chars == [c]

def unquote (quote : Char) : List Char → List Char
  | [] => []
  | [c] => if c = quote then [] else [c]
  | c :: d :: cs =>
    if c = quote then if d = quote then c :: unquote quote cs else []
    else c :: unquote quote (d :: cs)

/-- What stands between the quotes or brackets of a token. -/
def content : List Char → String
  | [] => ""
  | '[' :: cs => String.ofList (cs.takeWhile (· != ']'))
  | quote :: cs => String.ofList (unquote quote cs)

/-- The words that cannot be names. -/
def reserved : List String :=
  ["add", "all", "alter", "and", "as", "autoincrement", "between", "case", "check", "collate",
    "commit", "constraint", "create", "default", "deferrable", "delete", "distinct", "drop", "else",
    "escape", "except", "exists", "foreign", "from", "group", "having", "in", "index", "insert",
    "intersect", "into", "is", "isnull", "join", "limit", "not", "nothing", "notnull", "null", "on",
    "or", "order", "primary", "references", "returning", "select", "set", "table", "then", "to",
    "transaction", "union", "unique", "update", "using", "values", "when", "where"]

def name? (t : Token) : Option String :=
  match t.kind with
  | .word => if reserved.any t.isKeyword then none else some (String.ofList t.chars)
  | .quoted => some (content t.chars)
  | .text => some (content t.chars)
  | _ => none

end Token

end StoreBench.StarSchema
