import StoreBench.Decimal.Fixed
import StoreBench.Text.Json
import StoreBench.Text.Lines
import StoreBench.Run.Report

/-!
The written report of a run: totals, and a line for each worker if there are two or more.
-/
namespace StoreBench.Run

open Text

/-- A counter in a column of a given width. -/
def counter (width : Nat) (n : UInt64) : String := alignRight width (Decimal.text n.toNat)

namespace Report

def totals (r : Report) : List String :=
  [labelled "Throughput" (alignRight 12 (Decimal.fixed 1 r.throughput) ++ " ops/s"),
    labelled "Completed" (counter 12 r.completed),
    labelled "Missing" (counter 12 r.missing),
    labelled "Conflicts" (counter 12 r.conflicts),
    labelled "Measured" (alignRight 12 (Decimal.fixed 2 r.measure.seconds) ++ "s nominal, " ++
      Decimal.fixed 2 r.elapsed.seconds ++ "s actual")]

/-- The line of worker `i`: its number, all its requests, and the three kinds of them. -/
def workerLine (t : Tally) (i : Nat) : String :=
  tableLine [alignRight 8 (Decimal.text i), counter 12 t.completed, counter 12 t.successes,
    counter 10 t.missing, counter 10 t.conflicts]

def workerHeader : List String :=
  ["", "  Per-worker breakdown:",
    tableLine [alignLeft 8 "Worker", alignRight 12 "Completed", alignRight 12 "Success",
      alignRight 10 "Missing", alignRight 10 "Conflict"],
    "  " ++ rule 56 '-']

/-- A line for each worker, in their order; none if there are fewer than two. -/
def breakdown (r : Report) : List String :=
  if 1 < r.workers.length then
    workerHeader ++ r.workers.zipIdx.map fun (t, i) => workerLine t i
  else []

def lines (title : String) (r : Report) : List String :=
  headline title ++ r.totals ++ r.breakdown ++ [""]

def text (title : String) (r : Report) : String := joinLines (r.lines title)

end Report

def Tally.json (t : Tally) : Json :=
  .record [("completed", .number t.completed.toNat), ("missing", .number t.missing.toNat),
    ("conflicts", .number t.conflicts.toNat)]

def Report.json (r : Report) : Json :=
  .record [("measure", .ofDuration r.measure), ("elapsed", .ofDuration r.elapsed),
    ("workers", .list (r.workers.map Tally.json))]

end StoreBench.Run
