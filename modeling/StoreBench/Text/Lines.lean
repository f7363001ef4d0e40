import StoreBench.Text.Column

/-! What the written reports have in common: whole lines and a headline between two rules. -/
namespace StoreBench.Text

def joinLines (lines : List String) : String := String.join (lines.map (· ++ "\n"))

/-- A headline with an empty line before it. -/
def headline (title : String) : List String :=
  ["", rule 80 '=', "  " ++ title, rule 80 '=']

def tableLine (cells : List String) : String := "  " ++ " ".intercalate cells

/-- A label with its value behind it; all values begin in the same column. -/
def labelled (label value : String) : String := "  " ++ alignLeft 17 (label ++ ":") ++ value

end StoreBench.Text
