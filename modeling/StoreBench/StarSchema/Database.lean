import StoreBench.Text.Case

/-! Tables of one column of whole numbers. -/
namespace StoreBench.StarSchema

structure Table where
  name : String
  values : List Int
  deriving DecidableEq

structure Database where
  tables : List Table
  deriving DecidableEq

namespace Database

def columnName : String := "k"

def bare : Database := ⟨[]⟩

def table? (d : Database) (name : String) : Option Table :=
  d.tables.find? fun t => Text.sameUpToCase t.name name

def create (d : Database) (name : String) (n : Nat) : Database :=
  ⟨d.tables ++ [⟨name, (List.range n).map fun (i : Nat) => (i : Int) + 1⟩]⟩

def append (d : Database) (name : String) (value : Int) : Database :=
  ⟨d.tables.map fun t =>
    if Text.sameUpToCase t.name name then { t with values := t.values ++ [value] } else t⟩

def without (d : Database) (names : List String) : Database :=
  ⟨d.tables.filter fun t => !names.any (Text.sameUpToCase t.name)⟩

end Database

end StoreBench.StarSchema
