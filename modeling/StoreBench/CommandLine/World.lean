import StoreBench.Blob.Circumstance
import StoreBench.Blob.Client
import StoreBench.Database.Catalog
import StoreBench.Run.Rounds
import StoreBench.Telecom.Circumstance
import StoreBench.Telecom.Traffic

/-! The clients of a run and the tables that they share. -/
namespace StoreBench.CommandLine

inductive World where
  | telecom (c : Telecom.Circumstance) (clients : List Telecom.Traffic) (store : Telecom.Store)
  | blob (c : Blob.Circumstance) (clients : List Blob.Client) (store : Blob.Store)

namespace World

/-- The next request of client `i`. Where there is no client, nothing is found. -/
def step : Run.Stepper World
  | i, telecom c clients store =>
    match clients[i]? with
    | none => (.ok .missing, telecom c clients store)
    | some t =>
      let (p, t) := t.next
      let (result, tables, ()) := p.run (c.gate store) c.foreignKeys store.tables ()
      (during (.transaction p.kindOf) result,
        telecom c (clients.set i t) (store.withTables tables))
  | i, blob c clients store =>
    match clients[i]? with
    | none => (.ok .missing, blob c clients store)
    | some client =>
      let (r, requests) := client.requests.next
      match c.obstacle? store r with
      | some f =>
        (.error (f.during (.blobRequest r)),
          blob c (clients.set i { client with requests }) store)
      | none =>
        let (result, client, store) := client.step store
        (result, blob c (clients.set i client) store)

def save (d : Database) : World → Database
  | telecom _ _ store => { d with telecom := store }
  | blob _ _ store => { d with blob := store }

end World

end StoreBench.CommandLine
