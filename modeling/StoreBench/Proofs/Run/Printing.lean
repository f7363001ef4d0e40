import StoreBench.Proofs.Run.Counting
import StoreBench.Proofs.Text.Lines
import StoreBench.Run.Report.Printer

/-!
The written report of a run, read back: what every worker has done stands in the report as five
numbers, and the totals are the sums of their columns.
-/
namespace StoreBench.Run

open Text

/-- The numbers in the line of worker `i`. -/
def Tally.columns (t : Tally) (i : Nat) : List Nat :=
  [i, t.completed.toNat, t.successes.toNat, t.missing.toNat, t.conflicts.toNat]

theorem Tally.columns_injective : Function.Injective fun (t, i) => Tally.columns t i := by
  rintro ⟨t, i⟩ ⟨u, j⟩ h
  simp only [columns, List.cons.injEq, UInt64.toNat_inj] at h
  obtain ⟨hi, hc, -, hm, hf, -⟩ := h
  cases t
  cases u
  simp_all

theorem words_counter (width : Nat) (n : UInt64) :
    words (counter width n).toList = [Decimal.digits n.toNat] := by
  rw [counter, words_alignRight, Decimal.text, String.toList_ofList, words_digits]

theorem oneLine_counter (width : Nat) (n : UInt64) : OneLine (counter width n) :=
  oneLine_alignRight _ (oneLine_text _)

namespace Report

variable {r s : Report} {title : String}

def linesBelow (title : String) (cs : List Char) : List (List Char) :=
  (textLines cs).drop (textLines (joinLines (headline title)).toList).length

def rows (r : Report) : List String := r.workers.zipIdx.map fun (t, i) => workerLine t i

theorem breakdown_eq (r : Report) :
    r.breakdown = if 1 < r.workers.length then workerHeader ++ r.rows else [] := rfl

/-- Numbers stay apart in their line, also where one is wider than its column. -/
theorem words_workerLine (t : Tally) (i : Nat) :
    words (workerLine t i).toList = (t.columns i).map Decimal.digits := by
  have hi : words (alignRight 8 (Decimal.text i)).toList = [Decimal.digits i] := by
    rw [words_alignRight, Decimal.text, String.toList_ofList, words_digits]
  rw [workerLine, words_tableLine]
  simp only [List.flatMap_cons, List.flatMap_nil, hi, words_counter, List.cons_append,
    List.nil_append,
    Tally.columns, List.map_cons, List.map_nil]

theorem oneLine_totals : ∀ l ∈ r.totals, OneLine l := by
  intro l hl
  simp only [totals, List.mem_cons, List.not_mem_nil, or_false] at hl
  rcases hl with rfl | rfl | rfl | rfl | rfl <;> apply oneLine_labelled (by decide)
  · exact oneLine_append (oneLine_alignRight _ (oneLine_fixed _ _)) (by decide)
  · exact oneLine_counter _ _
  · exact oneLine_counter _ _
  · exact oneLine_counter _ _
  · have hnominal : OneLine (alignRight 12 (Decimal.fixed 2 r.measure.seconds)) :=
      oneLine_alignRight _ (oneLine_fixed _ _)
    exact oneLine_append (oneLine_append (oneLine_append hnominal (by decide)) (oneLine_fixed _ _))
      (by decide)

theorem oneLine_workerLine (t : Tally) (i : Nat) : OneLine (workerLine t i) := by
  apply oneLine_tableLine
  intro s hs
  simp only [List.mem_cons, List.not_mem_nil, or_false] at hs
  rcases hs with rfl | rfl | rfl | rfl | rfl
  · exact oneLine_alignRight _ (oneLine_text _)
  all_goals exact oneLine_counter _ _

theorem oneLine_breakdown : ∀ l ∈ r.breakdown, OneLine l := by
  intro l hl
  have hheader : ∀ l ∈ workerHeader, OneLine l := by decide
  rw [breakdown_eq] at hl
  split at hl
  · rcases List.mem_append.mp hl with hl | hl
    · exact hheader l hl
    · obtain ⟨⟨t, i⟩, -, rfl⟩ := List.mem_map.mp hl
      exact oneLine_workerLine t i
  · cases hl

theorem linesBelow_text (r : Report) (title : String) :
    linesBelow title (r.text title).toList =
      (r.totals ++ r.breakdown ++ [""]).map String.toList := by
  have hlines : ∀ l ∈ r.totals ++ r.breakdown ++ [""], OneLine l := by
    intro l hl
    simp only [List.mem_append, List.mem_singleton] at hl
    rcases hl with (hl | hl) | rfl
    · exact oneLine_totals l hl
    · exact oneLine_breakdown l hl
    · decide
  have htext : r.lines title = headline title ++ (r.totals ++ r.breakdown ++ [""]) := by
    simp [lines]
  rw [linesBelow, text, htext, joinLines_append, textLines_joinLines_append,
    textLines_joinLines hlines]
  exact List.drop_left

theorem map_words_rows (r : Report) :
    (r.rows.map fun l => words l.toList) =
      r.workers.zipIdx.map fun (t, i) => (t.columns i).map Decimal.digits := by
  rw [rows, List.map_map]
  apply List.map_congr_left
  rintro ⟨t, i⟩ -
  rw [Function.comp_apply, words_workerLine]

theorem length_totals (r : Report) : r.totals.length = 5 := rfl

theorem workers_eq_of_rows_eq (h : s.rows = r.rows) : s.workers = r.workers := by
  have hwords := congrArg (List.map fun l => words l.toList) h
  have hinj : Function.Injective fun (p : Tally × Nat) => (p.1.columns p.2).map Decimal.digits :=
    (List.map_injective_iff.mpr Decimal.digits_injective).comp Tally.columns_injective
  rw [map_words_rows, map_words_rows] at hwords
  have hzip : s.workers.zipIdx = r.workers.zipIdx := List.map_injective_iff.mpr hinj hwords
  simpa using congrArg (List.map Prod.fst) hzip

/-- What stands below the headline tells all tallies if there is a table. -/
theorem workers_eq_of_text_eq (h : s.text title = r.text title) (hr : 1 < r.workers.length) :
    s.workers = r.workers := by
  have hlines : s.totals ++ s.breakdown ++ [""] = r.totals ++ r.breakdown ++ [""] := by
    apply List.map_injective_iff.mpr fun _ _ => String.toList_inj.mp
    rw [← linesBelow_text s title, ← linesBelow_text r title, h]
  have hlength : s.totals.length = r.totals.length := by rw [length_totals, length_totals]
  have hbreakdown : s.breakdown = r.breakdown :=
    (List.append_inj (List.append_cancel_right hlines) hlength).2
  rw [breakdown_eq, breakdown_eq, if_pos hr] at hbreakdown
  split at hbreakdown
  · exact workers_eq_of_rows_eq (List.append_cancel_left hbreakdown)
  · exact absurd hbreakdown.symm (by simp [workerHeader])

theorem exists_linesBelow (r : Report) (title : String) : ∃ throughput measured : List Char,
    linesBelow title (r.text title).toList =
      [throughput, (labelled "Completed" (counter 12 r.completed)).toList,
        (labelled "Missing" (counter 12 r.missing)).toList,
        (labelled "Conflicts" (counter 12 r.conflicts)).toList, measured] ++
      (if 1 < r.workers.length then
        workerHeader.map String.toList ++ r.rows.map String.toList else []) ++
      [[]] := by
  have htable : r.breakdown.map String.toList =
      if 1 < r.workers.length then workerHeader.map String.toList ++ r.rows.map String.toList
      else [] := by
    rw [breakdown_eq]
    split
    · exact List.map_append
    · rfl
  rw [linesBelow_text, List.map_append, List.map_append, htable]
  exact ⟨_, _, rfl⟩

/-- A line of the totals is its label and the number behind it. -/
theorem words_total (label : String) {n : UInt64} {m : Nat} (hl : label.toList.length < 16)
    (hw : words (label ++ ":").toList = [(label ++ ":").toList]) (hn : n.toNat = m) :
    words (labelled label (counter 12 n)).toList = [(label ++ ":").toList, Decimal.digits m] := by
  rw [words_labelled _ hl, hw, words_counter, hn]
  rfl

end Report

/-- The written report of a run tells all that was counted. Below the headline there are the
totals, which are the sums of the columns, and a table if there are two workers or more, with a
line of five numbers for each of them, in their order. -/
theorem printed_report_keeps_tallies (title : String) (r : Report)
    (hle : ∀ t ∈ r.workers, t.missing.toNat + t.conflicts.toNat ≤ t.completed.toNat)
    (hsum : (r.workers.map fun t => t.completed.toNat).sum < UInt64.size) :
    (∃ (throughput completed missing conflicts measured : List Char) (rows : List (List Char)),
      Report.linesBelow title (r.text title).toList =
        [throughput, completed, missing, conflicts, measured] ++
          (if 1 < r.workers.length then Report.workerHeader.map String.toList ++ rows else []) ++
            [[]] ∧
      rows.map words = r.workers.zipIdx.map (fun (t, i) => (t.columns i).map Decimal.digits) ∧
      words completed =
        ["Completed:".toList, Decimal.digits (r.workers.map fun t => t.completed.toNat).sum] ∧
      words missing =
        ["Missing:".toList, Decimal.digits (r.workers.map fun t => t.missing.toNat).sum] ∧
      words conflicts =
        ["Conflicts:".toList, Decimal.digits (r.workers.map fun t => t.conflicts.toNat).sum]) ∧
    (∀ t ∈ r.workers,
      t.completed.toNat = t.successes.toNat + t.missing.toNat + t.conflicts.toNat) ∧
    ∀ s : Report, 1 < r.workers.length → s.text title = r.text title → s.workers = r.workers := by
  have hmissing : (r.workers.map fun t => t.missing.toNat).sum < UInt64.size :=
    lt_of_le_of_lt (List.sum_le_sum fun t ht => by have := hle t ht; omega) hsum
  have hconflicts : (r.workers.map fun t => t.conflicts.toNat).sum < UInt64.size :=
    lt_of_le_of_lt (List.sum_le_sum fun t ht => by have := hle t ht; omega) hsum
  obtain ⟨throughput, measured, hlines⟩ := r.exists_linesBelow title
  refine ⟨⟨throughput, _, _, _, measured, r.rows.map String.toList, hlines, ?_,
    Report.words_total "Completed" (by decide) (by decide) (Report.toNat_total hsum),
    Report.words_total "Missing" (by decide) (by decide) (Report.toNat_total hmissing),
    Report.words_total "Conflicts" (by decide) (by decide) (Report.toNat_total hconflicts)⟩, ?_, ?_⟩
  · rw [List.map_map]
    exact r.map_words_rows
  · intro t ht
    have := hle t ht
    rw [Tally.toNat_successes this]
    omega
  · intro s hr h
    exact Report.workers_eq_of_text_eq h hr

/-- Two workers, the first with numbers that are wider than their columns. -/
def wideReport : Report :=
  ⟨.ofSecs 1, .ofSecs 1, [⟨12345678901234567, 12345678901, 5⟩, ⟨7, 0, 7⟩]⟩

theorem printed_report_keeps_tallies_wide :
    (∀ t ∈ wideReport.workers, t.missing.toNat + t.conflicts.toNat ≤ t.completed.toNat) ∧
      (wideReport.workers.map fun t => t.completed.toNat).sum = 12345678901234574 ∧
      ∃ rows, (Report.linesBelow "Run" (wideReport.text "Run").toList).drop 9 = rows ++ [[]] ∧
        rows.map words =
          [[0, 12345678901234567, 12345666555555661, 12345678901, 5], [1, 7, 0, 0, 7]].map
          (List.map Decimal.digits) := by
  have hle : ∀ t ∈ wideReport.workers,
      t.missing.toNat + t.conflicts.toNat ≤ t.completed.toNat := by decide
  have hsum : (wideReport.workers.map fun t => t.completed.toNat).sum = 12345678901234574 := rfl
  obtain ⟨⟨_, _, _, _, _, rows, hlines, hwords, -⟩, -⟩ :=
    printed_report_keeps_tallies "Run" wideReport hle (hsum ▸ by decide)
  refine ⟨hle, hsum, rows, ?_, hwords⟩
  rw [hlines]
  rfl

end StoreBench.Run
