import StoreBench.CommandLine.Argument

/-! What the program answers when the arguments do not make a request. -/
namespace StoreBench.CommandLine

inductive Notice where
  | version
  | help (topic : Topic)
  /-- Nothing is said behind a group of commands. -/
  | nothingAsked (topic : Topic)
  /-- Options are given behind a group of commands, but no command. -/
  | commandMissing (topic : Topic)
  | unknownCommand (word : String)
  | unexpectedArgument (word : String)
  | valueMissing (p : Parameter)
  | invalidValue (p : Parameter) (value : String)
  | unreadableValue (p : Parameter) (value reason : String)
  /-- A value is given to something that takes none. -/
  | excessValue (argument value : String)
  | repeated (p : Parameter)
  deriving DecidableEq

namespace Notice

/-- Only what was asked for is no error. -/
def code : Notice → Nat
  | version => 0
  | help _ => 0
  | _ => 2

def helpText (topic : Topic) : String :=
  topic.about ++ "\n\nUsage: " ++ topic.path ++
    (if topic.isGroup then " [OPTIONS] <COMMAND>" else " [OPTIONS]") ++ "\n\n" ++
    (if topic.isGroup then
      "Commands:\n" ++ String.join (topic.branches.map fun (word, t) =>
        "  " ++ word ++ "  " ++ t.about ++ "\n") ++ "\n"
    else "") ++
    "Options:\n" ++ String.join (topic.parameters.map fun p => "      " ++ p.shown ++ "\n")

def error : Notice → String
  | commandMissing topic => "'" ++ topic.path ++ "' requires a subcommand but one was not provided"
  | unknownCommand word => "unrecognized subcommand '" ++ word ++ "'"
  | unexpectedArgument word => "unexpected argument '" ++ word ++ "' found"
  | valueMissing p => "a value is required for '" ++ p.shown ++ "' but none was supplied"
  | invalidValue p value => "invalid value '" ++ value ++ "' for '" ++ p.shown ++ "'"
  | unreadableValue p value reason =>
      "invalid value '" ++ value ++ "' for '" ++ p.shown ++ "': " ++ reason
  | excessValue argument value =>
      "unexpected value '" ++ value ++ "' for '" ++ argument ++ "' found; no more were expected"
  | repeated p => "the argument '" ++ p.shown ++ "' cannot be used multiple times"
  | _ => ""

def text : Notice → String
  | version => "dbbench 0.1.0\n"
  | help topic => helpText topic
  | nothingAsked topic => helpText topic
  | notice => "error: " ++ notice.error ++ "\n\nFor more information, try '--help'.\n"

end Notice

end StoreBench.CommandLine
