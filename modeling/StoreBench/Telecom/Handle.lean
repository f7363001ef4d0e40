import StoreBench.Telecom.Plan

/-!
What a connection remembers of a database that others change, too: the tables that it saw when it
last could read, and the statements that it has prepared. A statement is prepared once; from then on
it is only looked at anew when it runs. One that turns out not to fit the tables any more has
expired, and is compiled again before it runs the next time.
-/
namespace StoreBench.Telecom

structure Handle where
  known : List Table
  /-- The statements that have been prepared, whether or not they have expired. -/
  prepared : List Statement
  expired : List Statement
  deriving DecidableEq

/-- What a connection meets at a moment: the tables that there are, and what others let it do. -/
structure Access where
  present : List Table
  foreignKeys : Bool
  mayRead : Bool
  mayWrite : Bool
  deriving DecidableEq

namespace Handle

def fresh : Handle := ⟨[], [], []⟩

def look (h : Handle) (a : Access) : Handle := { h with known := a.present }

/-- Why a statement cannot be compiled, as far as the connection knows. -/
def lack? (h : Handle) (a : Access) (q : Statement) : Option DatabaseError :=
  q.lack? (· ∈ h.known) a.foreignKeys

def keep (h : Handle) (q : Statement) : Handle := { h with prepared := q :: h.prepared }

/-- Compiles a statement. The connection goes by the tables that it knows; only if one is absent
does it look at them anew. -/
def compile (h : Handle) (a : Access) (q : Statement) : Except Failure Unit × Handle :=
  match h.lack? a q with
  | none => (.ok (), h)
  | some e =>
    if a.mayRead then
      let h := h.look a
      match h.lack? a q with
      | none => (.ok (), h)
      | some e => (.error (.ofDatabase e), h)
    else (.error (.ofDatabase e), h)

/-- Compiles a statement, unless it has been compiled before. -/
def prepare (h : Handle) (a : Access) (q : Statement) : Except Failure Unit × Handle :=
  if q ∈ h.prepared then (.ok (), h)
  else
    match h.compile a q with
    | (.ok (), h) => (.ok (), h.keep q)
    | failed => failed

def expire (h : Handle) (q : Statement) : Handle := { h with expired := q :: h.expired }

def renew (h : Handle) (q : Statement) : Handle := { h with expired := h.expired.filter (· != q) }

/-- Runs a statement that has been compiled. It needs the database first and its tables then. -/
def runCompiled (h : Handle) (a : Access) (q : Statement) : Except Failure Unit × Handle :=
  if !a.mayRead || (q.writes && !a.mayWrite) then (.error (.ofDatabase .locked), h)
  else
    let h := h.look a
    match h.lack? a q with
    | none => (.ok (), h)
    | some e => (.error (.ofDatabase e), h.expire q)

def run (h : Handle) (a : Access) (q : Statement) : Except Failure Unit × Handle :=
  if q ∈ h.expired then
    match h.compile a q with
    | (.ok (), h) => (h.renew q).runCompiled a q
    | failed => failed
  else h.runCompiled a q

/-- What a connection remembers after it has made all tables and has then run some statements. -/
def afterLoad (h : Handle) (ran : List Statement) : Handle :=
  ⟨Table.all, ran ++ h.prepared, h.expired.filter (!ran.contains ·)⟩

def perform (h : Handle) (a : Access) : Action → Except Failure Unit × Handle
  | .begin => (if a.mayWrite then .ok () else .error (.ofDatabase .locked), h)
  | .prepare q => h.prepare a q
  | .run c => h.run a c.statement
  | _ => (.ok (), h)

def gate (a : Access) : Gate Handle := fun _ x h => h.perform a x

end Handle

end StoreBench.Telecom
