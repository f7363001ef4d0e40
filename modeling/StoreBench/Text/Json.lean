import StoreBench.Decimal.Natural
import StoreBench.Duration
import StoreBench.Text.Hex

/-! Values of the exchange format JSON, written over several lines. -/
namespace StoreBench.Text

inductive Json where
  | number (value : Nat)
  | text (value : String)
  | list (items : List Json)
  /-- The fields keep the order in which they are given. -/
  | record (fields : List (String × Json))

namespace Json

/-- A character within quotes. Quotes, backslashes and control characters are escaped. -/
def escape (c : Char) : List Char :=
  if c = '"' then ['\\', '"']
  else if c = '\\' then ['\\', '\\']
  else if c = '\n' then ['\\', 'n']
  else if c = '\r' then ['\\', 'r']
  else if c = '\t' then ['\\', 't']
  else if c = '\x08' then ['\\', 'b']
  else if c = '\x0c' then ['\\', 'f']
  else if c.toNat < 32 then ['\\', 'u', '0', '0', hexDigit (c.toNat / 16), hexDigit (c.toNat % 16)]
  else [c]

def quote (s : String) : String := "\"" ++ String.ofList (s.toList.flatMap escape) ++ "\""

def newLine (depth : Nat) : String := "\n" ++ String.ofList (List.replicate (2 * depth) ' ')

/-- Items between two brackets, each on a line of its own. Brackets without items stay together. -/
def enclose (opening closing : String) (depth : Nat) (items : List String) : String :=
  if items.isEmpty then opening ++ closing
  else
    opening ++ newLine (depth + 1) ++ ("," ++ newLine (depth + 1)).intercalate items ++
      newLine depth ++ closing

mutual

/-- A value whose first line stands at a given depth. -/
def write (depth : Nat) : Json → String
  | number value => Decimal.text value
  | text value => quote value
  | list items => enclose "[" "]" depth (writeItems (depth + 1) items)
  | record fields => enclose "\x7b" "\x7d" depth (writeFields (depth + 1) fields)

def writeItems (depth : Nat) : List Json → List String
  | [] => []
  | item :: rest => write depth item :: writeItems depth rest

def writeFields (depth : Nat) : List (String × Json) → List String
  | [] => []
  | (name, value) :: rest => (quote name ++ ": " ++ write depth value) :: writeFields depth rest

end

def print (v : Json) : String := v.write 0 ++ "\n"

def ofDuration (d : Duration) : Json :=
  record [("secs", number d.secs.toNat), ("nanos", number d.nanos)]

end Json

end StoreBench.Text
