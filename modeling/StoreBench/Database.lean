import StoreBench.Blob.Store
import StoreBench.StarSchema.Database
import StoreBench.Telecom.Store

/-! A database: the tables of the three workloads, of which no two have the same name. -/
namespace StoreBench

/-- What an analysis found out about a table with rows: how many keys it took as samples. -/
structure Statistic where
  table : String
  samples : Nat
  deriving DecidableEq

structure Database where
  telecom : Telecom.Store
  blob : Blob.Store
  star : StarSchema.Database
  /-- What the last analysis found out, if there was one. -/
  statistics : Option (List Statistic)
  /-- Whether what is written goes into a write-ahead log first. -/
  keepsLog : Bool
  deriving DecidableEq

namespace Database

def bare : Database := ⟨.bare, .bare, .bare, none, false⟩

/-- The database without what it has under some names outside the workload that they belong to. -/
def giveWay (d : Database) (names : List String) : Database :=
  { d with
    star := d.star.without names
    statistics := d.statistics.map (·.filter fun s => !names.any (Text.sameUpToCase s.table)) }

def withTelecom (d : Database) (telecom : Telecom.Store) : Database :=
  { d.giveWay (Telecom.Table.all.map Telecom.Table.name) with telecom }

def withBlob (d : Database) (blob : Blob.Store) : Database :=
  { d.giveWay [Blob.tableName] with blob }

end Database

end StoreBench
