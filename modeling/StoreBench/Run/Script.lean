import StoreBench.Run.Schedule

/-!
Runs by a script that says how the steps of each worker end, phase by phase. The schedule keeps to
the script whatever the time: measuring begins while the first measured step of each worker is
under way, and the run stops while the last one is.
-/
namespace StoreBench.Run

/-- The steps of one worker. A failure is the last step of its list. -/
structure Script where
  warmup : List StepResult
  measured : List StepResult

def StepResult.isFailure (r : StepResult) : Bool :=
  match r.verdict with
  | .ok _ => false
  | .error _ => true

def complete (i : Nat) (r : StepResult) : List Action := [.perform i r, .sample i, .record i]

def steps (i : Nat) (rs : List StepResult) : List Action :=
  rs.flatMap fun r => .poll i :: complete i r

namespace Script

/-- The failure that ends the warm-up of a worker. -/
def warmupFailure? (w : Script) : Option StepResult := w.warmup.getLast?.filter (·.isFailure)

/-- The warm-up of worker `i`, up to a step that will fail or that will be measured. -/
def warmUp (i : Nat) (w : Script) : List Action :=
  steps i (w.warmup.filter fun r => !r.isFailure) ++
    if w.warmupFailure?.isSome || !w.measured.isEmpty then [.poll i] else []

/-- The measured steps of worker `i` up to the last one, which is under way at the end. -/
def measureUp (i : Nat) (w : Script) : List Action :=
  match w.measured with
  | first :: second :: rest =>
    complete i first ++ steps i (second :: rest).dropLast ++ [.poll i]
  | _ => []

/-- The end of the last measured step. -/
def finishLast (i : Nat) (w : Script) : List Action :=
  (w.measured.getLast?.toList).flatMap (complete i)

def lastFails (w : Script) : Bool := w.measured.getLast?.any (·.isFailure)

def each (ws : List Script) (f : Nat → Script → List Action) : List Action :=
  ws.zipIdx.flatMap fun (w, i) => f i w

/-- The last look of the workers that have not failed. -/
def leave (failed : Script → Bool) (ws : List Script) : List Action :=
  each ws fun i w => if failed w then [] else [.poll i]

/-- What the coordinator does after a wait, unless it panicked before it. -/
def wakeAndStop (panics : Bool) : List Action := if panics then [] else [.wake, .stop]

def last (panics : Bool) : Action := if panics then .unwind else .join

/-- A run whose warm-up fails: the steps of the other workers end after the stop. -/
def failingSchedule (panics : Bool) (ws : List Script) : List Action :=
  let fails (w : Script) := w.warmupFailure?.isSome
  let firstFails (w : Script) := w.measured.head?.any (·.isFailure)
  each ws warmUp ++
    each ws (fun i w => w.warmupFailure?.toList.flatMap (complete i)) ++ wakeAndStop panics ++
    each ws (fun i w => if fails w then [] else w.measured.head?.toList.flatMap (complete i)) ++
    leave (fun w => fails w || firstFails w) ws ++ [last panics]

/-- A run that is measured: steps that fail end before the stop, all others after it. -/
def measuredSchedule (now : Duration) (panics : Bool) (ws : List Script) : List Action :=
  each ws warmUp ++ [.wake, .arm, .wait now] ++ each ws measureUp ++
    each ws (fun i w => if w.lastFails then w.finishLast i else []) ++ wakeAndStop panics ++
    each ws (fun i w => if w.lastFails then [] else w.finishLast i) ++
    leave lastFails ws ++ [last panics]

def schedule (c : Config) (now : Duration) (ws : List Script) : List Action :=
  .wait now ::
    if ws.any (·.warmupFailure?.isSome) then failingSchedule (!hasDeadline now c.warmup) ws
    else measuredSchedule now (!hasDeadline now c.measure) ws

/-- The outcome and the log of a scripted run; nothing if the scripts are no such lists, or if the
run never ends. -/
def run? (c : Config) (now : Duration) (ws : List Script) :
    Option (Except Abort (List Tally) × List Event) :=
  match start c ws.length with
  | .error f => some (.error (.failure f), [])
  | .ok s => do
    let t ← s.run c (schedule c now ws)
    return (← t.outcome?, t.log)

end Script

end StoreBench.Run
