import StoreBench.CommandLine.Reply
import StoreBench.CommandLine.Request
import StoreBench.CommandLine.World
import StoreBench.Telecom.Loading
import StoreBench.Text.Variables
import StoreBench.Workspace.Opening

/-!
Carrying out a request in a workspace. A request to run clients is under way until someone says
that its phases are over; every other request is carried out at once.
-/
namespace StoreBench.CommandLine

/-- What the program finds around it: a database to use, switches for traces, variables that the
path of a log may name, and seeds for what is left to chance. -/
structure Environment where
  database : Option String
  tracing : Tracing
  valueOf? : String → Option String
  entropy : Nat → UInt64

structure Running where
  title : String
  config : Run.Config
  /-- What was logged before the run. -/
  before : List Event
  live : Run.Live World

inductive Progression where
  | finished (events : List Event) (result : Except Abort Output)
  | running (r : Running)

/-- A request that is carried out, and the workspace as it is by now. -/
structure Session where
  request : Request
  workspace : Workspace
  progression : Progression

namespace Session

def finish (s : Session) (w : Workspace) (events : List Event) (result : Except Abort Output) :
    Session :=
  { s with workspace := w, progression := .finished events result }

def fail (s : Session) (w : Workspace) (events : List Event) (f : Failure) : Session :=
  s.finish w events (.error (.failure f))

def withDatabase (s : Session) (f : OpenDatabase → Workspace → Session) : Session :=
  match s.workspace.openDatabase s.request.database s.request.options with
  | (.error failure, w) => s.fail w [] failure
  | (.ok o, w) => f o w

def loadTelecom (s : Session) (subscribers : UInt64) (batchSize : Nat) : Session :=
  s.withDatabase fun o w =>
    match o.barrier with
    | some b => s.fail w [] (b.failure.during .creatingTables)
    | none =>
      let (result, events, telecom) :=
        o.content.telecom.load s.request.options.foreignKeys subscribers batchSize
      let w := w.keepDatabase o (o.content.withTelecom telecom)
      match result with
      | .error a => s.finish w events (.error a)
      | .ok stats =>
        let children := Event.loadedChildren stats.accessInfos stats.facilities stats.forwardings
        s.finish w (events ++ [children]) (.ok .silent)

def loadBlob (s : Session) (e : Environment) (size : Nat) : Session :=
  s.withDatabase fun o w =>
    match size, o.barrier with
    | _ + 1, some b => s.fail w [] (b.failure.during .loadingBlob)
    | size, _ =>
      let (result, events, blob) := o.content.blob.loadDrawn size (.ofSeed (e.entropy 0))
      let d := if size = 0 then o.content else o.content.withBlob blob
      s.finish (w.keepDatabase o d) events (result.map fun () => .silent)

/-- Opens a connection for each of `n` clients from number `i` on and makes the client, up to the
first that fails. -/
def prepareClients {α : Type} (r : Request) (client : Nat → Except Abort α) (n i : Nat)
    (w : Workspace) : Except Abort (List α) × Workspace :=
  match n with
  | 0 => (.ok [], w)
  | n + 1 =>
    match w.openDatabase r.database r.options with
    | (.error f, w) => (.error (.failure f), w)
    | (.ok _, w) =>
      match client i with
      | .error a => (.error a, w)
      | .ok c =>
        let (result, w) := prepareClients r client n (i + 1) w
        (result.map (c :: ·), w)

def startRun (s : Session) (w : Workspace) (title : String) (run : RunOptions) (announced : Event)
    (world : World) : Session :=
  match Run.start run.config run.clients with
  | .error f => s.fail w [announced] f
  | .ok state =>
    { s with
      workspace := w
      progression := .running ⟨title, run.config, [announced], ⟨state, world⟩⟩ }

/-- The database as clients find it; before the first of them opens it there is none. -/
def currentDatabase (s : Session) (w : Workspace) : OpenDatabase :=
  match (w.openDatabase s.request.database s.request.options).1 with
  | .ok o => o
  | .error _ => ⟨.memory, none, .bare, none⟩

def seedOf (e : Environment) (run : RunOptions) (i : Nat) : UInt64 :=
  (run.clientSeed i).getD (e.entropy i)

/-- What the clients of a telecom run meet in a database. -/
def telecomCircumstance (options : Connection.Options) (o : OpenDatabase) : Telecom.Circumstance :=
  { foreignKeys := options.foreignKeys
    impostors := o.content.telecomImpostors
    barrier := o.barrier
    isBlank := o.content = .bare }

def runTelecom (s : Session) (e : Environment) (subscribers : UInt64) (run : RunOptions) :
    Session :=
  let client (i : Nat) :=
    (Telecom.Traffic.ofSeed subscribers (seedOf e run i)).mapError Abort.failure
  match prepareClients s.request client run.clients 0 s.workspace with
  | (.error a, w) => s.finish w [] (.error (a.during .preparingTelecomClients))
  | (.ok clients, w) =>
    let o := s.currentDatabase w
    s.startRun w "TATP on SQLite" run (.runningTelecom run.clients s.request.database)
      (.telecom (telecomCircumstance s.request.options o) clients o.content.telecom)

def runBlob (s : Session) (e : Environment) (mix : Blob.Mix) (run : RunOptions) : Session :=
  match mix.validate with
  | .error f => s.fail s.workspace [] f
  | .ok () =>
    let client (i : Nat) : Except Abort Blob.Client := do
      let requests ← (Blob.Requests.ofSeed mix (seedOf e run i)).mapError Abort.failure
      Blob.Client.ofRequests mix requests
    match prepareClients s.request client run.clients 0 s.workspace with
    | (.error a, w) => s.finish w [] (.error (a.during .preparingBlobClients))
    | (.ok clients, w) =>
      let o := s.currentDatabase w
      s.startRun w "Blob on SQLite" run
        (.runningBlob mix.payloadSize (mix.readFraction * 100.0) run.clients)
        (.blob ⟨o.content.hasBlobImpostor, o.barrier⟩ clients o.content.blob)

def timeQueries (s : Session) (directory : String) (csv : Bool) : Session :=
  s.withDatabase fun o w =>
    let output (answers : List StarSchema.Answer) : Output :=
      if s.request.json then .queryJson answers
      else if csv then .queryCsv answers
      else .queryReport answers
    let (result, star) :=
      (StarSchema.Session.start o.content).prepareAndRun o.barrier w.read directory
    s.finish (w.keepDatabase o star.database) star.log ((result.map output).mapError .failure)

def start (e : Environment) (w : Workspace) (r : Request) : Session :=
  let s : Session := ⟨r, w, .finished [] (.ok .silent)⟩
  match r.task with
  | .loadTelecom subscribers batchSize => s.loadTelecom subscribers batchSize
  | .runTelecom subscribers run => s.runTelecom e subscribers run
  | .loadBlob size => s.loadBlob e size
  | .runBlob mix run => s.runBlob e mix run
  | .timeQueries directory csv => s.timeQueries directory csv

def isRunning (s : Session) : Bool :=
  match s.progression with
  | .running r => !r.live.state.stop
  | .finished .. => false

def mapLive (f : Run.Config → Run.Live World → Run.Live World) (s : Session) : Session :=
  match s.progression with
  | .running r => { s with progression := .running { r with live := f r.config r.live } }
  | .finished .. => s

def rounds (n : Nat) : Session → Session := mapLive fun c live => live.rounds c World.step n

def warm (now : Duration) : Session → Session := mapLive fun c live => live.warm c now

def arm (now : Duration) : Session → Session := mapLive fun c live => live.arm c now

/-- The end of a run; `elapsed` is the time that the measurement took. A panic leaves the run under
way as long as no client fails. -/
def stop (elapsed : Duration) (s : Session) : Session :=
  match s.progression with
  | .finished .. => s
  | .running r =>
    let live := r.live.finish r.config World.step
    match live.state.outcome? with
    | none => { s with progression := .running { r with live } }
    | some result =>
      let o := s.currentDatabase s.workspace
      let w := s.workspace.keepDatabase o (live.world.save o.content)
      let output (tallies : List Run.Tally) : Output :=
        .runReport r.title s.request.json ⟨r.config.measure, elapsed, tallies⟩
      s.finish w (r.before ++ live.state.log) (result.map output)

def reply (s : Session) : Reply :=
  match s.progression with
  | .running _ => ⟨[], .silent, none⟩
  | .finished events result =>
    let admitted := events.filter s.request.logFilter.admits
    match result with
    | .ok output => ⟨admitted, output, none⟩
    | .error a => .ofAbort admitted a

end Session

structure Pace where
  warmup : Nat
  measure : Nat

/-- The path of a log, with the values of the variables and times that it names. -/
def logPath (e : Environment) (path : String) : String := Text.fill e.valueOf? path

def openLog (e : Environment) (r : Request) (w : Workspace) : Except Failure Unit × Workspace :=
  match r.logFile with
  | none => (.ok (), w)
  | some path =>
    match w.append (logPath e path) "" with
    | (.ok (), w) => (.ok (), w)
    | (.error cause, w) => (.error ((Failure.ofCause cause).during (.openingLog path)), w)

def writeLog (e : Environment) (r : Request) (text : String) (w : Workspace) : Workspace :=
  match r.logFile with
  | none => w
  | some path => (w.append (logPath e path) text).2

/-- Begins what the arguments ask for, or replies that they ask for nothing. -/
def begin (e : Environment) (arguments : List String) (w : Workspace) :
    Except (Reply × Workspace) Session :=
  match readRequest e.database arguments with
  | .error notice => .error (.ofNotice notice, w)
  | .ok r =>
    match openLog e r w with
    | (.error f, w) => .error (.ofAbort [] (.failure f), w)
    | (.ok (), w) => .ok (.start e w r)

/-- The reply to a request that is carried out, and the workspace after it. -/
def Session.close (e : Environment) (took : String) (s : Session) : Reply × Workspace :=
  let reply := s.reply
  (reply, writeLog e s.request (reply.logText e.tracing took) s.workspace)

/-- The whole program, with phases that last as long as `pace` says. -/
def invoke (e : Environment) (pace : Pace) (took : String) (arguments : List String)
    (w : Workspace) : Reply × Workspace :=
  match begin e arguments w with
  | .error result => result
  | .ok s =>
    let warmed := (s.warm .zero).rounds pace.warmup
    (((warmed.arm .zero).rounds pace.measure).stop .zero).close e took

end StoreBench.CommandLine
