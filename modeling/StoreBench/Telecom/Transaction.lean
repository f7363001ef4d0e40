import StoreBench.Outcome
import StoreBench.Telecom.Procedure
import StoreBench.Telecom.Store

/-!
The plans of the seven transactions. What came of one is told by the rows that its statements found
or changed, and by the class of the error with which a new row was refused.
-/
namespace StoreBench.Telecom

open Plan (perform query attempt fail)

def Plan.idOf (number : String) : Plan (Option UInt64) := do
  perform (.prepare .selectId)
  return (← query (.selectId number)).key?

/-- What came of adding a row. Only a constraint that it violates is no failure. -/
def Plan.classify : Except Failure Answer → Plan Outcome
  | .ok _ => done .success
  | .error f => if f.isConstraint then done .conflict else fail f

def Procedure.plan : Procedure → Plan Outcome
  | getSubscriberData id => do
    perform (.prepare .selectSubscriber)
    perform (.convert id)
    let found ← query (.selectSubscriber id)
    return .ofHit !found.rows.isEmpty
  | getNewDestination id kind start stop => do
    perform (.prepare .selectDestination)
    perform (.convert id)
    let found ← query (.selectDestination id kind start stop)
    return .ofHit !found.rows.isEmpty
  | getAccessData id kind => do
    perform (.prepare .selectAccessData)
    perform (.convert id)
    let found ← query (.selectAccessData id kind)
    return .ofHit !found.rows.isEmpty
  | updateSubscriberData id kind bit dataA => do
    perform .begin
    perform (.prepare .updateBit)
    perform (.convert id)
    let _ ← query (.updateBit bit id)
    perform (.prepare .updateFacility)
    perform (.convert id)
    let written ← query (.updateFacility dataA id kind)
    perform .commit
    return .ofHit (0 < written.changed)
  | updateLocation number vlrLocation => do
    perform (.prepare .updateLocation)
    let written ← query (.updateLocation vlrLocation number)
    return .ofHit (0 < written.changed)
  | insertCallForwarding number kind start stop target => do
    perform .begin
    match ← Plan.idOf number with
    | none =>
      perform .commit
      return .missing
    | some id =>
      perform (.prepare .selectFacilityTypes)
      let _ ← query (.selectFacilityTypes id)
      perform (.prepare (.insert .callForwarding))
      let inserted ← attempt (.insert (.forwarding ⟨id, kind, start, stop, target⟩))
      let outcome ← Plan.classify inserted
      perform .commit
      return outcome
  | deleteCallForwarding number kind start => do
    perform .begin
    match ← Plan.idOf number with
    | none =>
      perform .commit
      return .missing
    | some id =>
      perform (.prepare .deleteForwarding)
      let deleted ← query (.deleteForwarding id kind start)
      perform .commit
      return .ofHit (0 < deleted.changed)

/-- Runs a transaction on tables. One that ends without a commit is rolled back. -/
def Procedure.run {σ : Type} (gate : Gate σ) (foreignKeys : Bool) (p : Procedure) (t : Tables)
    (s : σ) : Except Failure Outcome × Tables × σ :=
  let (result, d, s) := p.plan.run gate foreignKeys (.ofTables t) s
  (result, d.leave, s)

end StoreBench.Telecom
