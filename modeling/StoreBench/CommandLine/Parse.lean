import StoreBench.CommandLine.Settings

/-!
Reading the arguments, word by word. A value that stands behind its option is settled only when the
next option comes, or the end; a word that fits nowhere is refused before that.
-/
namespace StoreBench.CommandLine

/-- How far a topic was read: what was given, and an option that is not settled yet. -/
structure Progress where
  settings : Settings
  pending : Option (Parameter × Option String)

namespace Progress

def start : Progress := ⟨.empty, none⟩

def awaits (g : Progress) : Bool :=
  match g.pending with
  | some (_, none) => true
  | _ => false

def settle (g : Progress) : Except Notice Settings :=
  match g.pending with
  | none => .ok g.settings
  | some (p, none) => .error (.valueMissing p)
  | some (p, some value) => p.assign value g.settings

/-- Settles what there is and then answers something else. -/
def interrupt (g : Progress) (notice : Notice) : Except Notice Progress := do
  let _ ← g.settle
  throw notice

/-- The answer to a word that asks for one, such as help. -/
def ask (g : Progress) (word : String) (value : Option String) (notice : Notice) :
    Except Notice Progress :=
  match value with
  | some v => .error (.excessValue word v)
  | none => g.interrupt notice

/-- Takes an option, with its value if they are in one word. -/
def option (g : Progress) (p : Parameter) (value : Option String) : Except Notice Progress :=
  match p.isSwitch, value with
  | true, some v => .error (.excessValue p.shown v)
  | true, none => do return ⟨← p.assign "" (← g.settle), none⟩
  | false, some v => do return ⟨← p.assign v (← g.settle), none⟩
  | false, none => do return ⟨← g.settle, some (p, none)⟩

def long (g : Progress) (topic : Topic) (name : String) (value : Option String) :
    Except Notice Progress :=
  if name == "help" then g.ask "--help" value (.help topic)
  else if name == "version" && topic = .program then g.ask "--version" value .version
  else
    match topic.parameter? name with
    | some p => g.option p value
    | none => .error (.unexpectedArgument ("--" ++ name))

def short (g : Progress) (topic : Topic) (c : Char) : Except Notice Progress :=
  if c = 'h' then g.interrupt (.help topic)
  else if c = 'V' && topic = .program then g.interrupt .version
  else .error (.unexpectedArgument (String.ofList ['-', c]))

end Progress

/-- The name and the value in a word with two dashes. -/
def long? (word : List Char) : Option (String × Option String) :=
  match word with
  | '-' :: '-' :: c :: cs =>
    let name := (c :: cs).takeWhile (· != '=')
    let value :=
      match (c :: cs).dropWhile (· != '=') with
      | _ :: v => some (String.ofList v)
      | [] => none
    some (String.ofList name, value)
  | _ => none

/-- The letters of a word with one dash. -/
def short? (word : List Char) : Option (Char × List Char) :=
  match word with
  | '-' :: c :: cs => if c = '-' then none else some (c, cs)
  | _ => none

def areDigits (cs : List Char) : Bool := !cs.isEmpty && cs.all Char.isDigit

/-- Whether letters behind a dash write a number: digits, perhaps with a point behind the first of
them and an exponent without a sign. -/
def looksNumeric (cs : List Char) : Bool :=
  let rest := cs.dropWhile Char.isDigit
  let tail :=
    match rest with
    | '.' :: r => r.dropWhile Char.isDigit
    | r => r
  !(cs.takeWhile Char.isDigit).isEmpty &&
    match tail with
    | [] => true
    | 'e' :: exponent => areDigits exponent
    | 'E' :: exponent => areDigits exponent
    | _ => false

/-- The answer to a word that is no option. -/
def misplaced (topic : Topic) (behindDashes : Bool) (word : String) : Notice :=
  if topic.isGroup && !(behindDashes && ((topic.branch? word).isSome || topic.isHelp word)) then
    .unknownCommand word
  else .unexpectedArgument word

/-- The answer to a question for help on a command. There is help on help, and nothing within it. -/
def helpOn (topic : Topic) : List String → Notice
  | [] => .help topic
  | word :: rest =>
    match topic.branch? word, topic.isHelp word, rest with
    | some t, _, _ => helpOn t rest
    | none, true, [] => .help topic
    | none, true, next :: _ => .unknownCommand next
    | none, false, _ => .unknownCommand word

/-- What a topic makes of its options, and of the command in it if there is one. The environment may
name a database; that is a given option, too. -/
def conclude (environment : Option String) (topic : Topic) (settings : Settings)
    (command : Option (Topic × Settings)) : Except Notice (Topic × Settings) := do
  let all ←
    match settings.database, environment with
    | none, some path => Parameter.assign .database path settings
    | _, _ => pure settings
  match command with
  | some (t, inner) => return (t, inner.within settings)
  | none =>
    if topic.isGroup then
      throw (if all.hasAny topic.parameters then .commandMissing topic else .nothingAsked topic)
    else return (topic, settings)

def parse (environment : Option String) (topic : Topic) (behindDashes : Bool) (g : Progress) :
    List String → Except Notice (Topic × Settings)
  | [] => do conclude environment topic (← g.settle) none
  | word :: rest =>
    if behindDashes then .error (misplaced topic true word)
    else if !g.awaits && topic.isHelp word then .error (helpOn topic rest)
    else if word == "--" then parse environment topic true g rest
    else
      match if g.awaits then none else topic.branch? word with
      | some t => do
        let command ← parse environment t false .start rest
        conclude environment topic (← g.settle) (some command)
      | none =>
        match long? word.toList, short? word.toList, g.pending with
        | some (name, value), _, _ => do
          parse environment topic false (← g.long topic name value) rest
        | none, some (c, cs), some (p, none) => do
          let next ←
            if p.allowsNegative && looksNumeric (c :: cs) then
              pure { g with pending := some (p, some word) }
            else g.short topic c
          parse environment topic false next rest
        | none, some (c, _), _ => do parse environment topic false (← g.short topic c) rest
        | none, none, some (p, none) =>
          parse environment topic false { g with pending := some (p, some word) } rest
        | none, none, _ => .error (misplaced topic false word)

/-- Reads all arguments. A database that is given goes before that of the environment. -/
def parseArguments (environment : Option String) (arguments : List String) :
    Except Notice (Topic × Settings) := do
  let (topic, settings) ← parse environment .program false .start arguments
  return (topic, { settings with database := settings.database <|> environment })

end StoreBench.CommandLine
