import StoreBench.Connection.Options
import StoreBench.Telecom.Handle
import StoreBench.Telecom.Loading
import StoreBench.Telecom.Traffic
import StoreBench.Telecom.Transaction

/-!
A database that several connections share: one that loads and inspects it, one for each client,
and one that can lock it. A lock keeps all others from writing; an exclusive one keeps them from
reading too, unless the journal is a write-ahead log.
-/
namespace StoreBench.Telecom

inductive Lock where
  | immediate
  | exclusive
  deriving DecidableEq

structure Seat where
  traffic : Traffic
  handle : Handle
  deriving DecidableEq

structure Session where
  options : Connection.Options
  store : Store
  lock : Option Lock
  /-- The connection that loads and inspects. -/
  admin : Handle
  seats : List Seat
  deriving DecidableEq

namespace Session

def start (options : Connection.Options) (traffics : List Traffic) : Session :=
  ⟨options, .bare, none, .fresh, traffics.map (⟨·, .fresh⟩)⟩

def lockedFailure : Failure := .ofDatabase .locked

def blocksReads (s : Session) : Bool :=
  s.lock == some .exclusive && s.options.journalMode != .wal

/-- What a connection meets now. -/
def access (s : Session) : Access :=
  { present := Table.all.filter s.store.has
    foreignKeys := s.options.foreignKeys
    mayRead := !s.blocksReads
    mayWrite := s.lock.isNone }

/-- The statements that a load has run: one for each table that rows came into. -/
def runBy (stats : Load.Stats) : List Statement :=
  ([(Table.subscriber, stats.subscribers), (.accessInfo, stats.accessInfos),
    (.specialFacility, stats.facilities), (.callForwarding, stats.forwardings)].filter
      (·.2 != 0)).map fun (t, _) => .insert t

def load (s : Session) (n : UInt64) (batchSize : Nat) :
    Except Abort Load.Stats × List Event × Session :=
  if s.lock.isSome then (.error (.failure (lockedFailure.during .creatingTables)), [], s)
  else
    let (result, log, store) := s.store.load s.options.foreignKeys n batchSize
    let ran :=
      match result with
      | .ok stats => runBy stats
      | .error _ => []
    (result, log, { s with store, admin := s.admin.afterLoad ran })

def createTables (s : Session) : Except Failure Unit × Session :=
  if s.lock.isSome then (.error lockedFailure, s)
  else
    match s.store.recreate s.options.foreignKeys with
    | .ok store => (.ok (), { s with store, admin := { s.admin with known := Table.all } })
    | .error e => (.error (.ofDatabase e), s)

/-- Adds rows one by one, each for good, up to the first that is refused. -/
def insertAll (s : Session) (rows : List Record) : Except Failure Unit × Session :=
  let (result, d, admin) := (Draft.ofTables s.store.tables).insertAll (Handle.gate s.access)
    s.options.foreignKeys rows s.admin
  (result, { s with store := s.store.withTables d.leave, admin })

/-- Runs a transaction on the connection of a client. -/
def executeAt (s : Session) (seat : Seat) (p : Procedure) :
    Except Failure Outcome × Seat × Session :=
  let (result, t, handle) :=
    p.run (Handle.gate s.access) s.options.foreignKeys s.store.tables seat.handle
  (result, { seat with handle }, { s with store := s.store.withTables t })

/-- Does something on the connection of client `i`, if there is one. -/
def atSeat {α : Type} (s : Session) (i : Nat)
    (f : Seat → Session → Except Failure α × Seat × Session) :
    Option (Except Failure α × Session) :=
  s.seats[i]?.map fun seat =>
    let (result, seat, s) := f seat s
    (result, { s with seats := s.seats.set i seat })

def execute (s : Session) (i : Nat) (p : Procedure) : Option (Except Failure Outcome × Session) :=
  s.atSeat i fun seat s => s.executeAt seat p

/-- Draws the next transaction of client `i` and runs it. -/
def step (s : Session) (i : Nat) : Option (Except Failure Outcome × Session) :=
  s.atSeat i fun seat s =>
    let (p, traffic) := seat.traffic.next
    let (result, seat, s) := s.executeAt { seat with traffic } p
    (during (.transaction p.kindOf) result, seat, s)

/-- At most `n` steps of client `i`, up to the first that fails. -/
def steps (s : Session) (i n : Nat) : List (Except Failure Outcome) × Session :=
  match n with
  | 0 => ([], s)
  | n + 1 =>
    match s.step i with
    | none => ([], s)
    | some (.error f, s) => ([.error f], s)
    | some (.ok outcome, s) =>
      let (rest, s) := s.steps i n
      (.ok outcome :: rest, s)

/-- Whether a statement that reads a table can run. -/
def readable (s : Session) (table : Table) : Except DatabaseError Unit :=
  if !s.store.has table then .error (.noSuchTable table.name)
  else if s.blocksReads then .error .locked
  else .ok ()

def count (s : Session) (table : Table) : Except DatabaseError Nat := do
  s.readable table
  return (s.store.tables.recordsOf table).length

/-- The part of a row's key that is its subscriber's own affair. -/
def keyWithin : Record → Nat × Nat
  | .subscriber _ => (0, 0)
  | .accessInfo r => (r.kind.toNat, 0)
  | .facility r => (r.kind.toNat, 0)
  | .forwarding r => (r.kind.toNat, r.start.toNat)

def keyLe (r q : Record) : Bool :=
  let k := keyWithin r
  let l := keyWithin q
  k.1 < l.1 || (k.1 == l.1 && k.2 ≤ l.2)

def rows (s : Session) (table : Table) (owner : UInt64) :
    Except DatabaseError (List (List Cell)) := do
  s.readable table
  let mine := (s.store.tables.recordsOf table).filter (·.owner == owner)
  return (mine.mergeSort keyLe).map Record.cells

/-- The number of rows whose parent is absent. Where no table has rows with parents, there is
nothing to read. -/
def orphans (s : Session) : Except DatabaseError Nat :=
  if s.blocksReads && Table.all.any (fun t => t.parent?.isSome && s.store.has t) then .error .locked
  else .ok s.store.tables.orphans.length

def drop (s : Session) (table : Table) : Except DatabaseError Session :=
  if !s.store.has table then .error (.noSuchTable table.name)
  else if s.lock.isSome then .error .locked
  else do
    let store ← s.store.drop s.options.foreignKeys table
    return { s with store, admin := { s.admin with known := Table.all.filter store.has } }

def takeLock (s : Session) (lock : Lock) : Except DatabaseError Session :=
  if s.lock.isSome then .error .nestedTransaction else .ok { s with lock := some lock }

def releaseLock (s : Session) : Except DatabaseError Session :=
  if s.lock.isSome then .ok { s with lock := none } else .error .noTransaction

end Session

end StoreBench.Telecom
