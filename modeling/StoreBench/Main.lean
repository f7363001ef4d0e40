import StoreBench.CommandLine.Session
import StoreBench.Database.Snapshot

/-!
The program: it fetches the files that a request is about, carries the request out, and writes back
the database and the log. Databases are kept as snapshots.
-/
namespace StoreBench.CommandLine

/-- The file at a path, a snapshot as a database. What is there but cannot be read is a
directory. -/
def fetchNode (path : String) : IO (Option Node) := do
  try
    let content ← IO.FS.readBinFile path
    match (String.fromUTF8? content).bind Snapshot.read? with
    | some d => return some (.database d)
    | none => return some (.file content)
  catch
    | .noFileOrDirectory .. => return none
    | _ => return some .directory

/-- The path of the end of a way. -/
def pathOf (way : Workspace.Way) : String :=
  if way.head? == some Workspace.Name.root then
    "/" ++ Workspace.Name.text (Workspace.Name.join way.tail)
  else Workspace.Name.text (Workspace.Name.join way)

/-- The ways to all that stands on a path. -/
def waysOf (path : List UInt8) : List Workspace.Way :=
  let p := Workspace.Path.ofBytes path
  (p.names.foldl
    (fun (ways, way) name =>
      let next : Workspace.Way :=
        if name == Workspace.Name.self then way
        else if name == Workspace.Name.parent then way.up
        else way ++ [name]
      (ways ++ [next], next))
    (([] : List Workspace.Way), p.start)).1

def fetch (w : Workspace) (path : List UInt8) : IO Workspace :=
  (waysOf path).foldlM
    (fun (w : Workspace) way => do
      if (w.node? way).isSome then return w
      match ← fetchNode (pathOf way) with
      | some node => return w.put way node
      | none => return w)
    w

def pathsOf (e : Environment) (r : Request) : List (List UInt8) :=
  let queries :=
    match r.task with
    | .timeQueries directory _ => StarSchema.queryNames.map (StarSchema.queryPath directory)
    | _ => []
  let database :=
    match Connection.Location.ofText r.database with
    | .ok l => l.path :: l.rightsOf.toList
    | .error _ => []
  database ++ (r.logFile.toList.map (logPath e) ++ queries).map Workspace.Name.ofText

/-- Makes all directories of a workspace, and writes its files and databases at some paths. -/
def store (w : Workspace) (paths : List (List UInt8)) : IO Unit := do
  for (way, node) in w.nodes.reverse do
    match node with
    | .directory => IO.FS.createDirAll (pathOf way)
    | _ => pure ()
  for way in paths.flatMap waysOf do
    match w.node? way with
    | some (.database d) => IO.FS.writeFile (pathOf way) (Snapshot.write d)
    | some (.file content) => IO.FS.writeBinFile (pathOf way) content
    | _ => pure ()

def now : IO Duration := return .ofNanos (← IO.monoNanosNow)

/-- Rounds of a run, until the time is over or the run is to stop. -/
partial def roundsUntil (deadline : Nat) (s : Session) : IO Session := do
  if !s.isRunning || deadline ≤ (← IO.monoNanosNow) then return s
  else roundsUntil deadline (s.rounds 1)

/-- Lets a run go through its phases. -/
def drive (s : Session) : IO Session := do
  match s.progression with
  | .finished .. => return s
  | .running r =>
    let warmed := s.warm (← now)
    let warmed ← roundsUntil ((← IO.monoNanosNow) + r.config.warmup.inNanos) warmed
    let armed := warmed.arm (← now)
    let begun ← IO.monoNanosNow
    let measured ← roundsUntil (begun + r.config.measure.inNanos) armed
    return measured.stop (.ofNanos ((← IO.monoNanosNow) - begun))

/-- Prints a reply. Queries are timed together; each of them is shown with an equal share. -/
def printReply (e : Environment) (elapsed : Duration) (r : Reply) : IO UInt32 := do
  let share : Duration := .ofNanos (elapsed.inNanos / StarSchema.queryNames.length)
  (← IO.getStderr).putStr (r.stderr e.tracing elapsed.roundedText)
  (← IO.getStdout).putStr (r.stdout fun _ => share)
  return UInt32.ofNat r.code

/-- The environment of this process. Of its variables, those are looked up that the path of a log
may name. -/
def environment (arguments : List String) : IO Environment := do
  let chance ← IO.rand 0 (UInt64.size - 1)
  let mut values : List (String × String) := []
  for name in arguments.flatMap Text.variableNames do
    if let some value ← IO.getEnv name then values := (name, value) :: values
  let found := values
  return ⟨← IO.getEnv "DBBENCH_DB", .off, (List.lookup · found), fun i => UInt64.ofNat (chance + i)⟩

def execute (arguments : List String) : IO UInt32 := do
  let e ← environment arguments
  let started ← IO.monoNanosNow
  match readRequest e.database arguments with
  | .error notice => printReply e .zero (.ofNotice notice)
  | .ok request =>
    let paths := pathsOf e request
    let w ← paths.foldlM fetch .empty
    match begin e arguments w with
    | .error (reply, w) =>
      store w []
      printReply e .zero reply
    | .ok s =>
      let s ← drive s
      let elapsed : Duration := .ofNanos ((← IO.monoNanosNow) - started)
      let (reply, w) := s.close e elapsed.roundedText
      store w (paths.take 2)
      printReply e elapsed reply

end StoreBench.CommandLine

def main (arguments : List String) : IO UInt32 := StoreBench.CommandLine.execute arguments
