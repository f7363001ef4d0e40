import StoreBench.Decimal.Natural

/-! Reading numbers from text, with the reason why a text is none. -/
namespace StoreBench.Decimal

inductive NumberFault where
  | empty
  | invalidDigit
  | tooLarge
  | tooSmall
  deriving DecidableEq

def NumberFault.message : NumberFault → String
  | empty => "cannot parse integer from empty string"
  | invalidDigit => "invalid digit found in string"
  | tooLarge => "number too large to fit in target type"
  | tooSmall => "number too small to fit in target type"

/-- Continues the number `n` with further digits. The first digit that is none, or that leads
beyond `limit`, decides. -/
def readDigits (limit n : Nat) : List Char → Except NumberFault Nat
  | [] => .ok n
  | c :: cs =>
    match digit? c with
    | none => .error .invalidDigit
    | some d =>
      if limit < 10 * n + d then .error .tooLarge else readDigits limit (10 * n + d) cs

/-- The digits behind a sign, of which there has to be one. -/
def readSigned (limit : Nat) (cs : List Char) : Except NumberFault Nat :=
  if cs.isEmpty then .error .invalidDigit else readDigits limit 0 cs

/-- A number up to `limit`, which may have a plus sign. -/
def readNatural (limit : Nat) : List Char → Except NumberFault Nat
  | [] => .error .empty
  | '+' :: cs => readSigned limit cs
  | cs => readDigits limit 0 cs

/-- A number from `-(limit + 1)` to `limit`, which may have a sign. -/
def readInteger (limit : Nat) : List Char → Except NumberFault Int
  | '-' :: cs =>
    match readSigned (limit + 1) cs with
    | .ok n => .ok (-n)
    | .error .tooLarge => .error .tooSmall
    | .error fault => .error fault
  | cs => (readNatural limit cs).map fun n => (n : Int)

inductive FractionFault where
  | empty
  | invalid
  deriving DecidableEq

def FractionFault.message : FractionFault → String
  | empty => "cannot parse float from empty string"
  | invalid => "invalid float literal"

/-- The double nearest to `m * 10 ^ e`. Far outside the range of doubles the exponent is not
spelled out. -/
def scaled (m : Nat) (e : Int) : Float :=
  let top := (digits m).length + e
  if m = 0 ∨ top < -400 then 0.0
  else if 400 < top then 1.0 / 0.0
  else Float.ofScientific m (e < 0) e.natAbs

def readExponent : List Char → Option Int
  | '-' :: cs => (value? cs).map fun n => -(n : Int)
  | '+' :: cs => (value? cs).map fun n => (n : Int)
  | cs => (value? cs).map fun n => (n : Int)

/-- Digits with a point among them or at one of their ends, and an exponent behind them or none. -/
def readUnsigned (cs : List Char) : Option Float :=
  let isDigit (c : Char) : Bool := (digit? c).isSome
  let whole := cs.takeWhile isDigit
  let rest := cs.dropWhile isDigit
  let (fraction, tail) :=
    match rest with
    | '.' :: rest => (rest.takeWhile isDigit, rest.dropWhile isDigit)
    | _ => ([], rest)
  (value? (whole ++ fraction)).bind fun m =>
    let shift := -(fraction.length : Int)
    match tail with
    | [] => some (scaled m shift)
    | c :: exponent =>
      if c = 'e' ∨ c = 'E' then (readExponent exponent).map fun e => scaled m (e + shift) else none

/-- A number without its sign, or the name of a value that is no finite number. -/
def readMagnitude (cs : List Char) : Option Float :=
  let lower := String.ofList (cs.map Char.toLower)
  if lower == "inf" || lower == "infinity" then some (1.0 / 0.0)
  else if lower == "nan" then some (0.0 / 0.0)
  else readUnsigned cs

/-- The double nearest to what a text writes. -/
def readFraction (cs : List Char) : Except FractionFault Float :=
  let magnitude :=
    match cs with
    | '-' :: rest => (readMagnitude rest).map Float.neg
    | '+' :: rest => readMagnitude rest
    | cs => readMagnitude cs
  match magnitude with
  | some x => .ok x
  | none => .error (if cs.isEmpty then .empty else .invalid)

end StoreBench.Decimal
