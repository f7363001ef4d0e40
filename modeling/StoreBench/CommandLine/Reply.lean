import StoreBench.CommandLine.Notice
import StoreBench.CommandLine.Settings
import StoreBench.Run.Report.Printer
import StoreBench.StarSchema.Report

/-! Replies: what the program prints, what it logs, and its exit code. -/
namespace StoreBench.CommandLine

inductive Output where
  | silent
  | notice (n : Notice)
  | runReport (title : String) (json : Bool) (report : Run.Report)
  | queryReport (answers : List StarSchema.Answer)
  | queryJson (answers : List StarSchema.Answer)
  | queryCsv (answers : List StarSchema.Answer)

/-- What the program came to. Events are those that its log level admits. -/
structure Reply where
  events : List Event
  output : Output
  abort : Option Abort

/-- Switches for traces of where an error arose: one for all errors, and one that goes before it
for the error at the end. -/
structure Tracing where
  general : Option String
  ofErrors : Option String

namespace Tracing

def off : Tracing := ⟨none, none⟩

/-- Whether records of errors are followed by a trace. -/
def ofRecords (t : Tracing) : Bool := t.general.isSome || t.ofErrors.isSome

/-- Whether the error at the end is followed by a trace. -/
def ofFailure (t : Tracing) : Bool := (t.ofErrors <|> t.general).any (· != "0")

end Tracing

/-- A message with something before its first line; further lines are moved in as far. -/
def indented (before message : String) : List String :=
  let blanks := String.ofList (List.replicate before.length ' ')
  match message.splitOn "\n" with
  | [] => [before]
  | first :: rest => (before ++ first) :: rest.map (blanks ++ ·)

/-- The causes of a failure, numbered if there are two or more. -/
def causeLines : List String → List String
  | [] => []
  | [cause] => ["", "Caused by:"] ++ indented "    " cause
  | causes =>
    ["", "Caused by:"] ++ (causes.zipIdx.flatMap fun (cause, i) =>
      indented (Text.alignRight 5 (Decimal.text i) ++ ": ") cause)

def failureLines (traced : Bool) (f : Failure) : List String :=
  (match f.chain with
  | [] => ["Error: "]
  | outermost :: causes => ("Error: " ++ outermost) :: causeLines causes) ++
    if traced then ["", "Stack backtrace:"] else []

/-- What is told at the end of a call that did not come to its end. A panic is told without the
place where it arose. -/
def abortLines (tracing : Tracing) : Abort → List String
  | .failure f => failureLines tracing.ofFailure f
  | .panic message => ["", "thread 'main' panicked:", message]

def recordLines (tracing : Tracing) (took : String) (e : Event) : List String :=
  e.line took :: if tracing.ofRecords && e.level = .error then ["Backtrace:"] else []

namespace Reply

def ofNotice (n : Notice) : Reply := ⟨[], .notice n, none⟩

def ofAbort (events : List Event) (a : Abort) : Reply := ⟨events, .silent, some a⟩

def code (r : Reply) : Nat :=
  match r.output, r.abort with
  | .notice n, _ => n.code
  | _, some (.failure _) => 1
  | _, some (.panic _) => 101
  | _, none => 0

def logText (tracing : Tracing) (took : String) (r : Reply) : String :=
  Text.joinLines (r.events.flatMap (recordLines tracing took))

/-- What goes to standard output; `time` is the time that each query took. -/
def stdout (time : StarSchema.Answer → Duration) (r : Reply) : String :=
  let timed (answers : List StarSchema.Answer) := answers.map fun a => a.timed (time a)
  match r.output with
  | .silent => ""
  | .notice n => if n.code = 0 then n.text else ""
  | .runReport title json report => if json then report.json.print else report.text title
  | .queryReport answers => StarSchema.reportText (timed answers)
  | .queryJson answers => (StarSchema.reportJson (timed answers)).print
  | .queryCsv answers => StarSchema.csv (timed answers) ++ "\n"

def stderr (tracing : Tracing) (took : String) (r : Reply) : String :=
  r.logText tracing took ++
    (match r.abort with
    | some a => Text.joinLines (abortLines tracing a)
    | none => "") ++
    match r.output with
    | .notice n => if n.code = 0 then "" else n.text
    | _ => ""

end Reply

end StoreBench.CommandLine
