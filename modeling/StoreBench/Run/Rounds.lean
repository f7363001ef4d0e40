import StoreBench.Run.Schedule

/-!
Runs in which the workers take turns. Each turn is a whole round of the worker's loop; how many
turns a phase lasts is for the caller to say.
-/
namespace StoreBench.Run

/-- What a step of worker `i` does to a world that all workers share. -/
abbrev Stepper (σ : Type) := Nat → σ → Except Failure Outcome × σ

def StepResult.ofResult : Except Failure Outcome → StepResult
  | .ok outcome => completed outcome
  | .error f => failed f

/-- A run that is under way, in a world of its own. -/
structure Live (σ : Type) where
  state : State
  world : σ

namespace Live

variable {σ : Type}

/-- What the coordinator does, if it can. -/
def act (c : Config) (p : Live σ) (a : Action) : Live σ :=
  { p with state := (p.state.next c a).getD p.state }

/-- A round of worker `i` in its loop, if it is in its loop. -/
def turn (c : Config) (step : Stepper σ) (p : Live σ) (i : Nat) : Live σ :=
  let polled := p.act c (.poll i)
  if (polled.state.workers[i]?.map Worker.place) = some .working then
    let (result, world) := step i p.world
    let actions := [.perform i (.ofResult result), .sample i, .record i]
    ⟨(polled.state.run c actions).getD polled.state, world⟩
  else polled

def round (c : Config) (step : Stepper σ) (p : Live σ) : Live σ :=
  (List.range p.state.workers.length).foldl (turn c step) p

/-- At most `n` rounds; a run that is to stop takes none. -/
def rounds (c : Config) (step : Stepper σ) : Nat → Live σ → Live σ
  | 0, p => p
  | n + 1, p => if p.state.stop then p else rounds c step n (p.round c step)

def warm (c : Config) (now : Duration) (p : Live σ) : Live σ := p.act c (.wait now)

def arm (c : Config) (now : Duration) (p : Live σ) : Live σ :=
  ((p.act c .wake).act c .arm).act c (.wait now)

def finish (c : Config) (step : Stepper σ) (p : Live σ) : Live σ :=
  ((((p.act c .wake).act c .stop).round c step).act c .join).act c .unwind

end Live

end StoreBench.Run
