import StoreBench.Decimal.Fixed
import StoreBench.Text.Json
import StoreBench.Text.Lines
import StoreBench.Summary
import StoreBench.StarSchema.Timing

/-! The written report of timed queries: a line for each query and a summary. -/
namespace StoreBench.StarSchema

open Text

namespace Timing

def line (t : Timing) : String :=
  let seconds := t.elapsed.seconds
  tableLine [alignLeft 8 t.name, alignRight 14 (Decimal.fixed 2 (seconds * 1000.0)),
    alignRight 12 (Decimal.fixed 4 seconds), alignRight 10 (Decimal.text t.rows.toNat)]

def json (t : Timing) : Json :=
  .record [("name", .text t.name), ("elapsed", .ofDuration t.elapsed),
    ("rows", .number t.rows.toNat)]

end Timing

def summary (ts : List Timing) : Summary := ⟨ts.map fun t => t.elapsed.seconds * 1000000.0⟩

/-- The seconds of each query, between commas. -/
def csv (ts : List Timing) : String :=
  ",".intercalate (ts.map fun t => Decimal.fixed 6 t.elapsed.seconds)

/-- A time in microseconds, written in milliseconds. -/
def milliseconds (microseconds : Float) : String :=
  alignRight 10 (Decimal.fixed 2 (microseconds / 1000.0)) ++ "ms"

def summaryLines (s : Summary) : List String :=
  [labelled "Total" (milliseconds s.total), labelled "Mean" (milliseconds s.mean),
    labelled "p50" (milliseconds (s.percentile 50.0)),
    labelled "p95" (milliseconds (s.percentile 95.0))]

def tableHeader : String :=
  tableLine [alignLeft 8 "Query", alignRight 14 "Elapsed (ms)", alignRight 12 "Elapsed (s)",
    alignRight 10 "Rows"]

def reportLines (ts : List Timing) : List String :=
  let ruled := "  " ++ rule 48 '-'
  headline "SSB Query Report" ++ [tableHeader, ruled] ++ ts.map Timing.line ++ [ruled] ++
    summaryLines (summary ts) ++ ["", "  CSV: " ++ csv ts, ""]

def reportText (ts : List Timing) : String := joinLines (reportLines ts)

def reportJson (ts : List Timing) : Json := .list (ts.map Timing.json)

end StoreBench.StarSchema
