import StoreBench.Log
import StoreBench.Run.Report

/-!
Runs of many workers. Each worker works in a loop: it looks whether the run is to stop, takes a
step, looks whether measuring has begun, and records the step. A coordinator waits for the end of
the warm-up, begins measuring, waits again, stops the run and collects the results. A run is a
sequence of actions, each one of a worker or of the coordinator; any order is possible.

Every worker has its thread from the beginning. A thread that cannot be made stops a run before it
is announced; such runs are left out.
-/
namespace StoreBench.Run

structure Config where
  warmup : Duration
  measure : Duration
  deriving DecidableEq

def Config.validate (c : Config) : Except Failure Unit :=
  if c.measure = Duration.zero then .error (.ofCause .zeroMeasurement) else .ok ()

/-- What a worker's step throws if it does not return. -/
inductive Panic where
  | text (message : String)
  | other
  deriving DecidableEq

def Panic.message : Panic → String
  | text message => message
  | other => "non-string panic payload"

inductive StepResult where
  | completed (outcome : Outcome)
  | failed (failure : Failure)
  | panicked (panic : Panic)
  deriving DecidableEq

/-- A step that does not return fails with what it throws. -/
def StepResult.verdict : StepResult → Except Failure Outcome
  | completed outcome => .ok outcome
  | failed failure => .error failure
  | panicked panic => .error (.ofCause (.panicked panic.message))

inductive Place where
  /-- About to look whether the run is to stop. -/
  | polling
  /-- In a step. -/
  | working
  /-- After a step, about to look whether measuring has begun. -/
  | sampling (result : StepResult)
  /-- About to record a step of a known phase. -/
  | recording (result : StepResult) (phase : Phase)
  /-- Out of its loop because the run stops. -/
  | finished
  /-- Out of its loop because of a failure. -/
  | failed (failure : Failure)
  deriving DecidableEq

structure Worker where
  place : Place
  tally : Tally
  /-- The worker panics when it is dropped, after its loop. -/
  fragile : Bool
  deriving DecidableEq

namespace Worker

def initial (fragile : Bool) : Worker := ⟨.polling, .zero, fragile⟩

def result? (w : Worker) : Option (Except Failure Tally) :=
  match w.place with
  | .finished => some (.ok w.tally)
  | .failed failure => some (.error failure)
  | _ => none

/-- What worker `i` hands in at its end. -/
def handIn? (i : Nat) (w : Worker) : Option (Except Failure Tally) :=
  w.result?.map fun result =>
    if w.fragile then .error (.ofCause (.workerPanicked i)) else result

end Worker

/-- The clock counts seconds in a signed word, to which this is one too many. -/
def clockLimit : Nat := 0x8000000000000000

/-- A wait that begins `now` has a deadline if the clock can count the second of its end. -/
def hasDeadline (now timeout : Duration) : Bool :=
  let carry := (now.nanos.val + timeout.nanos.val) / 1000000000
  decide (now.secs.toNat + timeout.secs.toNat + carry < clockLimit)

inductive Stage where
  /-- About to wait for the end of the warm-up. -/
  | ready
  /-- Waiting for the end of the warm-up, or for a stop. -/
  | warming
  /-- After a warm-up that was not stopped. -/
  | arming
  /-- About to wait for the end of the measurement. -/
  | armed
  /-- Waiting for the end of the measurement, or for a stop. -/
  | measuring
  /-- About to stop the workers. -/
  | stopping
  /-- Waiting for the workers. -/
  | joining
  | done (result : Except Failure (List Tally))
  /-- In a panic, which waits for the workers but does not stop them. -/
  | unwinding
  | unwound

inductive Action where
  /-- Worker `i` looks whether the run is to stop. -/
  | poll (i : Nat)
  /-- The step of worker `i` ends. -/
  | perform (i : Nat) (result : StepResult)
  /-- Worker `i` looks whether measuring has begun. -/
  | sample (i : Nat)
  /-- Worker `i` counts its step, or stops the run if the step failed. -/
  | record (i : Nat)
  /-- The coordinator looks at the clock and begins to wait, or panics. -/
  | wait (now : Duration)
  /-- The coordinator stops waiting: the time is over, or the run is to stop. -/
  | wake
  /-- The coordinator lets measuring begin. -/
  | arm
  /-- The coordinator lets the run stop. -/
  | stop
  /-- The coordinator collects what all workers hand in. -/
  | join
  /-- A panic of the coordinator goes on once all workers have come to their end. -/
  | unwind
  deriving DecidableEq

structure State where
  measuring : Bool
  stop : Bool
  stage : Stage
  workers : List Worker
  log : List Event

namespace State

def setWorker (s : State) (i : Nat) (w : Worker) : State :=
  { s with workers := s.workers.set i w }

def work (s : State) (i : Nat) (w : Worker) : Action → Option State
  | .poll _ =>
    if w.place = .polling then
      some (s.setWorker i { w with place := if s.stop then .finished else .working })
    else none
  | .perform _ result =>
    if w.place = .working then some (s.setWorker i { w with place := .sampling result }) else none
  | .sample _ =>
    match w.place with
    | .sampling result =>
      let phase := if s.measuring then Phase.measurement else Phase.warmup
      some (s.setWorker i { w with place := .recording result phase })
    | _ => none
  | .record _ =>
    match w.place with
    | .recording result phase =>
      match result.verdict with
      | .ok outcome =>
        let tally := if phase = .measurement then w.tally.record outcome else w.tally
        some (s.setWorker i { w with place := .polling, tally })
      | .error f =>
        some { s.setWorker i { w with place := .failed (f.during (.working i phase)) } with
          stop := true }
    | _ => none
  | _ => none

/-- What the workers hand in, if all have come to their end. -/
def results? (s : State) : Option (List (Except Failure Tally)) :=
  s.workers.zipIdx.mapM fun (w, i) => w.handIn? i

/-- One record for each tally. -/
def tallied (tallies : List Tally) : List Event :=
  tallies.zipIdx.map fun (t, i) => .tallied i t.completed t.missing t.conflicts

/-- The result of a run: all tallies, or the failure of the first worker that has one. -/
def collect (s : State) (results : List (Except Failure Tally)) : State :=
  match results.mapM id with
  | .ok tallies => { s with stage := .done (.ok tallies), log := s.log ++ tallied tallies }
  | .error f => { s with stage := .done (.error f), log := s.log ++ [.failed f] }

def next (c : Config) (s : State) (a : Action) : Option State :=
  match a with
  | .poll i => s.workers[i]?.bind fun w => s.work i w a
  | .perform i _ => s.workers[i]?.bind fun w => s.work i w a
  | .sample i => s.workers[i]?.bind fun w => s.work i w a
  | .record i => s.workers[i]?.bind fun w => s.work i w a
  | .wait now =>
    match s.stage with
    | .ready =>
      some { s with stage := if hasDeadline now c.warmup then .warming else .unwinding }
    | .armed =>
      some { s with stage := if hasDeadline now c.measure then .measuring else .unwinding }
    | _ => none
  | .wake =>
    match s.stage with
    | .warming => some { s with stage := if s.stop then .stopping else .arming }
    | .measuring => some { s with stage := .stopping }
    | _ => none
  | .arm =>
    match s.stage with
    | .arming =>
      some { s with measuring := true, stage := .armed, log := s.log ++ [.measuring c.measure] }
    | _ => none
  | .stop =>
    match s.stage with
    | .stopping => some { s with stop := true, stage := .joining, log := s.log ++ [.stopping] }
    | _ => none
  | .join =>
    match s.stage with
    | .joining => s.results?.map s.collect
    | _ => none
  | .unwind =>
    match s.stage with
    | .unwinding => s.results?.map fun _ => { s with stage := .unwound }
    | _ => none

def run (c : Config) (s : State) (actions : List Action) : Option State :=
  actions.foldlM (fun s a => s.next c a) s

def result? (s : State) : Option (Except Failure (List Tally)) :=
  match s.stage with
  | .done result => some result
  | _ => none

/-- What a run came to that has returned or panicked. -/
def outcome? (s : State) : Option (Except Abort (List Tally)) :=
  match s.stage with
  | .done (.ok tallies) => some (.ok tallies)
  | .done (.error f) => some (.error (.failure f))
  | .unwound => some (.error .deadlineOverflow)
  | _ => none

end State

/-- A run that begins: there has to be a worker, and time to be measured. The list says of each
worker whether it is fragile. -/
def startWith (c : Config) (fragile : List Bool) : Except Failure State :=
  if fragile = [] then .error (.ofCause .noWorkers)
  else do
    c.validate
    let workers := fragile.map Worker.initial
    return ⟨false, false, .ready, workers, [.warmingUp workers.length c.warmup]⟩

/-- A run of workers that can be dropped. -/
def start (c : Config) (workers : Nat) : Except Failure State :=
  startWith c (List.replicate workers false)

end StoreBench.Run
