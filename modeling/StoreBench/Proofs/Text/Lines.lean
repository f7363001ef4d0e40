import StoreBench.Decimal.Fixed
import StoreBench.Proofs.Decimal.Natural
import StoreBench.Text.Blank
import StoreBench.Text.Lines

/-!
Written text, read back: a text is cut at its line ends, and a line at its white space. What stands
in columns keeps apart, also where it is wider than its column.
-/
namespace StoreBench.Text

section Words

variable {c : Char} {cs ds : List Char}

/-- What stands between white space. -/
def words (cs : List Char) : List (List Char) := (cs.splitOnP isBlank).filter fun w => !w.isEmpty

theorem words_append_blank (cs ds : List Char) (hc : isBlank c) :
    words (cs ++ c :: ds) = words cs ++ words ds := by
  unfold words
  rw [List.splitOnP_append_cons cs ds hc, List.filter_append]

theorem words_blank_cons (ds : List Char) (hc : isBlank c) : words (c :: ds) = words ds :=
  words_append_blank [] ds hc

theorem words_replicate_append (n : Nat) (cs : List Char) :
    words (List.replicate n ' ' ++ cs) = words cs := by
  induction n with
  | zero => rfl
  | succ n ih => rw [List.replicate_succ, List.cons_append, words_blank_cons _ (by decide), ih]

theorem words_of_solid (hne : cs ≠ []) (hcs : ∀ c ∈ cs, isBlank c = false) : words cs = [cs] := by
  unfold words
  rw [List.splitOnP_eq_singleton hcs]
  simp [hne]

theorem isBlank_of_digit (h : '0' ≤ c ∧ c ≤ '9') : isBlank c = false := by
  obtain ⟨hlow, hhigh⟩ := Decimal.toNat_bounds h
  simp only [isBlank, blankRanges, List.any_cons, List.any_nil, Bool.or_false, Bool.or_eq_false_iff,
    Bool.and_eq_false_imp, decide_eq_true_eq, decide_eq_false_iff_not]
  omega

theorem words_digits (n : Nat) : words (Decimal.digits n) = [Decimal.digits n] :=
  words_of_solid (Decimal.digits_ne_nil n) fun c hc =>
    isBlank_of_digit (Decimal.isDigits_digits n c hc)

theorem words_alignRight (width : Nat) (s : String) :
    words (alignRight width s).toList = words s.toList := by
  rw [alignRight, String.toList_ofList]
  exact words_replicate_append _ _

/-- A label ends before its column does. -/
theorem words_labelled {label : String} (value : String) (h : label.toList.length < 16) :
    words (labelled label value).toList =
      words (label ++ ":").toList ++ words value.toList := by
  have hlen : (label ++ ":").toList.length = label.toList.length + 1 := by simp
  obtain ⟨n, hn⟩ : ∃ n, 17 - (label ++ ":").toList.length = n + 1 :=
    ⟨15 - label.toList.length, by omega⟩
  have hpad : (alignLeft 17 (label ++ ":")).toList ++ value.toList =
      (label ++ ":").toList ++ ' ' :: (List.replicate n ' ' ++ value.toList) := by
    rw [alignLeft, String.toList_ofList, List.rightpad, hn, List.replicate_succ, List.append_assoc,
      List.cons_append]
  have hfront : (labelled label value).toList =
      ' ' :: ' ' :: ((alignLeft 17 (label ++ ":")).toList ++ value.toList) := by
    simp [labelled]
  rw [hfront, words_blank_cons _ (by decide), words_blank_cons _ (by decide), hpad,
    words_append_blank _ _ (by decide), words_replicate_append]

theorem words_intercalate (cells : List String) :
    words (" ".intercalate cells).toList = cells.flatMap fun s => words s.toList := by
  induction cells with
  | nil => rfl
  | cons cell cells ih =>
    cases cells with
    | nil => simp
    | cons next cells =>
      have hsplit : (" ".intercalate (cell :: next :: cells)).toList =
          cell.toList ++ ' ' :: (" ".intercalate (next :: cells)).toList := by
        simp [String.intercalate_cons_cons]
      rw [hsplit, words_append_blank _ _ (by decide), ih]
      rfl

/-- The words of a line are those of its cells, one cell after another. -/
theorem words_tableLine (cells : List String) :
    words (tableLine cells).toList = cells.flatMap fun s => words s.toList := by
  have hfront : (tableLine cells).toList = ' ' :: ' ' :: (" ".intercalate cells).toList := by
    simp [tableLine]
  rw [hfront, words_blank_cons _ (by decide), words_blank_cons _ (by decide), words_intercalate]

end Words

section Lines

def textLines (cs : List Char) : List (List Char) := (cs.splitOn '\n').dropLast

def OneLine (s : String) : Prop := '\n' ∉ s.toList

instance (s : String) : Decidable (OneLine s) := inferInstanceAs (Decidable ('\n' ∉ s.toList))

variable {s t : String} {ls : List String}

theorem textLines_append (cs ds : List Char) :
    textLines (cs ++ '\n' :: ds) = textLines (cs ++ ['\n']) ++ textLines ds := by
  unfold textLines
  rw [List.splitOn_append_cons_self, List.splitOn_append_cons_self,
    List.dropLast_append_of_ne_nil (List.splitOn_ne_nil _ _),
    List.dropLast_append_of_ne_nil (List.splitOn_ne_nil _ _), List.splitOn_nil,
    List.dropLast_singleton,
    List.append_nil]

theorem toList_joinLines_cons (l : String) (ls : List String) :
    (joinLines (l :: ls)).toList = l.toList ++ '\n' :: (joinLines ls).toList := by
  simp [joinLines]

theorem joinLines_append (ks ls : List String) :
    (joinLines (ks ++ ls)).toList = (joinLines ks).toList ++ (joinLines ls).toList := by
  simp [joinLines]

/-- Whatever stands in the lines in front, they are cut off as a whole. -/
theorem textLines_joinLines_append (ks : List String) (cs : List Char) :
    textLines ((joinLines ks).toList ++ cs) = textLines (joinLines ks).toList ++ textLines cs := by
  induction ks with
  | nil => rfl
  | cons k ks ih =>
    rw [toList_joinLines_cons, List.append_assoc, List.cons_append, textLines_append, ih,
      textLines_append k.toList (joinLines ks).toList, List.append_assoc]

/-- Lines are read back as they were written. -/
theorem textLines_joinLines (h : ∀ l ∈ ls, OneLine l) :
    textLines (joinLines ls).toList = ls.map String.toList := by
  induction ls with
  | nil => rfl
  | cons l ls ih =>
    have hl : textLines (l.toList ++ ['\n']) = [l.toList] := by
      unfold textLines
      rw [List.splitOn_append_cons_self, List.splitOn_eq_singleton (h l List.mem_cons_self),
        List.splitOn_nil]
      rfl
    rw [toList_joinLines_cons, textLines_append, hl, ih fun k hk => h k (List.mem_cons_of_mem _ hk)]
    rfl

theorem oneLine_append (hs : OneLine s) (ht : OneLine t) : OneLine (s ++ t) := by
  simp only [OneLine, String.toList_append, List.mem_append, not_or]
  exact ⟨hs, ht⟩

theorem oneLine_alignRight (width : Nat) (h : OneLine s) : OneLine (alignRight width s) := by
  simp only [OneLine, alignRight, String.toList_ofList, List.leftpad, List.mem_append,
    List.mem_replicate, not_or, not_and]
  exact ⟨fun _ => by decide, h⟩

theorem oneLine_alignLeft (width : Nat) (h : OneLine s) : OneLine (alignLeft width s) := by
  simp only [OneLine, alignLeft, String.toList_ofList, List.rightpad, List.mem_append,
    List.mem_replicate, not_or, not_and]
  exact ⟨h, fun _ => by decide⟩

theorem oneLine_labelled {label value : String} (hl : OneLine label) (hv : OneLine value) :
    OneLine (labelled label value) := by
  have hfront : OneLine "  " := by decide
  have hcolon : OneLine ":" := by decide
  exact oneLine_append (oneLine_append hfront (oneLine_alignLeft _ (oneLine_append hl hcolon))) hv

theorem oneLine_tableLine {cells : List String} (h : ∀ s ∈ cells, OneLine s) :
    OneLine (tableLine cells) := by
  have hfront : OneLine "  " := by decide
  have hblank : OneLine " " := by decide
  apply oneLine_append hfront
  induction cells with
  | nil => decide
  | cons cell cells ih =>
    have hcell := h cell List.mem_cons_self
    have hcells := ih fun s hs => h s (List.mem_cons_of_mem _ hs)
    cases cells with
    | nil => rwa [String.intercalate_singleton]
    | cons next cells =>
      rw [String.intercalate_cons_cons]
      exact oneLine_append (oneLine_append hcell hblank) hcells

theorem newline_not_mem_digits (n : Nat) : '\n' ∉ Decimal.digits n := by
  intro hmem
  exact absurd (Decimal.isDigits_digits n _ hmem) (by decide)

theorem oneLine_text (n : Nat) : OneLine (Decimal.text n) := by
  rw [OneLine, Decimal.text, String.toList_ofList]
  exact newline_not_mem_digits n

theorem oneLine_padded (width n : Nat) : OneLine (Decimal.padded width n) := by
  simp only [OneLine, Decimal.padded, String.toList_ofList, List.leftpad, List.mem_append,
    List.mem_replicate, not_or, not_and]
  exact ⟨fun _ => by decide, newline_not_mem_digits n⟩

theorem oneLine_fixed (places : Nat) (x : Float) : OneLine (Decimal.fixed places x) := by
  have hsign (negative : Bool) : OneLine (Decimal.sign negative) := by cases negative <;> decide
  have hpoint : OneLine "." := by decide
  unfold Decimal.fixed
  split
  · decide
  · exact oneLine_append (hsign _) (by decide)
  · apply oneLine_append (hsign _)
    unfold Decimal.pointed
    split
    · exact oneLine_text _
    · exact oneLine_append (oneLine_append (oneLine_text _) hpoint) (oneLine_padded _ _)

end Lines

end StoreBench.Text
