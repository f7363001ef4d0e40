import StoreBench.Telecom.Action

/-!
Plans: actions, of which each may hang on how those before it came out. A plan is carried out on
tables, past a gate that may keep it from an action.
-/
namespace StoreBench.Telecom

inductive Plan (α : Type) where
  | done (result : α)
  | fail (f : Failure)
  | ask (x : Action) (next : Except Failure Answer → Plan α)

namespace Plan

variable {α β σ : Type}

def bind : Plan α → (α → Plan β) → Plan β
  | done result, k => k result
  | fail f, _ => fail f
  | ask x next, k => ask x fun answer => (next answer).bind k

instance : Monad Plan where
  pure := done
  bind := bind

@[simp] theorem pure_eq (result : α) : (pure result : Plan α) = done result := rfl

@[simp] theorem done_bind (result : α) (k : α → Plan β) : (done result >>= k) = k result := rfl

@[simp] theorem fail_bind (f : Failure) (k : α → Plan β) : (fail f >>= k) = fail f := rfl

@[simp] theorem ask_bind (x : Action) (next : Except Failure Answer → Plan α) (k : α → Plan β) :
    (ask x next >>= k) = ask x fun answer => next answer >>= k := rfl

def ofExcept : Except Failure α → Plan α
  | .ok result => done result
  | .error f => fail f

/-- Performs an action, and fails if it fails. -/
def perform (x : Action) : Plan Unit :=
  ask x fun
    | .ok _ => done ()
    | .error f => fail f

/-- Hands a prepared statement its values and runs it, and tells how that came out. -/
def attempt (c : Command) : Plan (Except Failure Answer) :=
  ask (.bind c) fun
    | .error f => done (.error f)
    | .ok _ => ask (.run c) done

def query (c : Command) : Plan Answer := attempt c >>= ofExcept

end Plan

/-- Lets an action pass, or keeps a connection from it, going by what it remembers. -/
abbrev Gate (σ : Type) := Tables → Action → σ → Except Failure Unit × σ

namespace Gate

def free : Gate Unit := fun _ _ s => (.ok (), s)

end Gate

/-- Carries out a plan: its result, the tables after it, and what is remembered then. -/
def Plan.run {α σ : Type} (gate : Gate σ) (foreignKeys : Bool) :
    Plan α → Draft → σ → Except Failure α × Draft × σ
  | done result, d, s => (.ok result, d, s)
  | fail f, d, s => (.error f, d, s)
  | ask x next, d, s =>
    match gate d.tables x s with
    | (.error f, s) => (next (.error f)).run gate foreignKeys d s
    | (.ok (), s) =>
      match d.perform foreignKeys x with
      | .error f => (next (.error f)).run gate foreignKeys d s
      | .ok (answer, d) => (next (.ok answer)).run gate foreignKeys d s

/-- How a row is added. The id of a subscriber is converted first; of any other row, it is looked at
when the statement is prepared. -/
def Record.plan (r : Record) : Plan Unit := do
  match r with
  | .subscriber row =>
    Plan.perform (.convert row.id)
    Plan.perform (.prepare (.insert .subscriber))
  | r =>
    Plan.perform (.prepare (.insert r.table))
    Plan.perform (.convert r.owner)
  let _ ← Plan.query (.insert r)
  return

/-- Adds rows one by one up to the first that is refused. -/
def Draft.insertAll {σ : Type} (gate : Gate σ) (foreignKeys : Bool) :
    List Record → Draft → σ → Except Failure Unit × Draft × σ
  | [], d, s => (.ok (), d, s)
  | r :: rest, d, s =>
    match r.plan.run gate foreignKeys d s with
    | (.ok (), d, s) => insertAll gate foreignKeys rest d s
    | (.error f, d, s) => (.error (f.during (.inserting r.table r.owner)), d, s)

end StoreBench.Telecom
