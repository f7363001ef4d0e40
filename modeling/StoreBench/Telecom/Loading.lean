import StoreBench.Load.Batches
import StoreBench.Telecom.Store

/-! Loading the population into a database, all of it or nothing. -/
namespace StoreBench.Telecom

def Draft.loader (gate : Gate Unit) (foreignKeys : Bool) : Load.Loader Draft := fun batch d =>
  let (result, d, ()) := d.insertAll gate foreignKeys batch ()
  (result, d)

/-- Makes the tables anew and loads `n` subscribers into them in a transaction. If the load does not
come to its end the transaction is rolled back, and the tables are empty. -/
def Store.load (foreignKeys : Bool) (n : UInt64) (batchSize : Nat) (s : Store) :
    Except Abort Load.Stats × List Event × Store :=
  match s.recreate foreignKeys with
  | .error e => (.error (.failure ((Failure.ofDatabase e).during .creatingTables)), [], s)
  | .ok fresh =>
    let loader := Draft.loader (fresh.gate foreignKeys) foreignKeys
    let begun := (Draft.ofTables fresh.tables).begin
    let (result, p) := Load.load batchSize loader (.population n) begun
    match result with
    | .error a => (.error a, p.log.toList, fresh.withTables p.state.leave)
    | .ok stats =>
      (.ok stats, p.log.toList ++ [.loadedPopulation stats.subscribers stats.rows],
        fresh.withTables p.state.commit.leave)

end StoreBench.Telecom
