/-!
A signal: a flag that is set once, and that threads can poll, set and wait for. The flag is set
and waited for under a lock. A waiter that finds the flag unset goes to sleep and gives up the lock
in one step; a thread that set the flag wakes all sleepers before it gives up the lock.
-/
namespace StoreBench.Run.Signal

/-- How far a thread is in what it does with the signal. -/
inductive Place where
  /-- About to look at the flag, without the lock. -/
  | poll
  /-- About to take the lock, then to set the flag. -/
  | fire
  /-- With the lock, about to set the flag. -/
  | set
  /-- With the lock, about to wake all sleepers. -/
  | wakeAll (first : Bool)
  /-- About to take the lock, then to look at the flag. -/
  | await
  /-- With the lock, about to look at the flag. -/
  | check
  /-- With the lock and the flag unset, about to look at the clock. -/
  | clock
  /-- Without the lock, until something wakes it. -/
  | asleep
  /-- With the lock and an answer, about to give up the lock. -/
  | release (answer : Bool)
  | done (answer : Bool)
  deriving DecidableEq

def Place.holds : Place → Bool
  | .set => true
  | .wakeAll _ => true
  | .check => true
  | .clock => true
  | .release _ => true
  | _ => false

def Place.answer? : Place → Option Bool
  | .done answer => some answer
  | _ => none

structure State where
  flag : Bool
  holder : Option Nat
  threads : List Place
  deriving DecidableEq

inductive Action where
  /-- Thread `i` goes on by one step. -/
  | go (i : Nat)
  /-- Thread `i` looks at the clock, which may have passed its deadline. -/
  | look (i : Nat) (late : Bool)
  /-- Thread `i` wakes up, at its deadline or for no reason. -/
  | wake (i : Nat)
  deriving DecidableEq

namespace State

def move (s : State) (i : Nat) (place : Place) : State :=
  { s with threads := s.threads.set i place }

def acquire (s : State) (i : Nat) (place : Place) : Option State :=
  if s.holder = none then some { s.move i place with holder := some i } else none

def giveUp (s : State) (i : Nat) (place : Place) : State :=
  { s.move i place with holder := none }

/-- Every sleeper is about to take the lock again. -/
def wakeSleepers (s : State) : State :=
  { s with threads := s.threads.map fun p => if p = .asleep then .await else p }

/-- One step of thread `i`, if there is one that needs no clock. -/
def go (s : State) (i : Nat) : Option State :=
  match s.threads[i]? with
  | some .poll => some (s.move i (.done s.flag))
  | some .fire => s.acquire i .set
  | some .set => some { s.move i (.wakeAll !s.flag) with flag := true }
  | some (.wakeAll first) => some (s.wakeSleepers.move i (.release first))
  | some .await => s.acquire i .check
  | some .check => some (s.move i (if s.flag then .release true else .clock))
  | some (.release answer) => some (s.giveUp i (.done answer))
  | _ => none

def next (s : State) : Action → Option State
  | .go i => s.go i
  | .look i late =>
    if s.threads[i]? = some .clock then
      some (if late then s.move i (.release false) else s.giveUp i .asleep)
    else none
  | .wake i => if s.threads[i]? = some .asleep then some (s.move i .await) else none

def run (s : State) (actions : List Action) : State :=
  actions.foldl (fun s a => (s.next a).getD s) s

def answers (s : State) : List Bool := s.threads.filterMap Place.answer?

end State

def start (flag : Bool) (threads : List Place) : State := ⟨flag, none, threads⟩

/-- Enough steps for thread `i` to come to its end, unless it sleeps. -/
def turn (late : Bool) (i : Nat) : List Action :=
  [.go i, .go i, .look i late, .go i, .go i]

/-- Threads that take turns, one after another, and a second turn for those that slept. -/
def turns (late : Bool) (n : Nat) : List Action :=
  (List.range n).flatMap (turn late) ++ (List.range n).flatMap (turn late)

/-- What one thread is answered, and the flag after it. -/
def call (flag : Bool) (place : Place) : Bool × Bool :=
  let s := (start flag [place]).run (turns true 1)
  (s.answers.headD false, s.flag)

/-- The answers of `waiters` waiting threads and, at the end, of one that fires, and the flag. -/
def fireWhileWaiting (flag : Bool) (waiters : Nat) : List Bool × Bool :=
  let s := (start flag (List.replicate waiters .await ++ [.fire])).run (turns false (waiters + 1))
  (s.answers, s.flag)

/-- The answers of `threads` threads that fire, and the flag after them. -/
def race (flag : Bool) (threads : Nat) : List Bool × Bool :=
  let s := (start flag (List.replicate threads .fire)).run (turns false threads)
  (s.answers, s.flag)

end StoreBench.Run.Signal
