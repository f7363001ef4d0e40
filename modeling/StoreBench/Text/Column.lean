/-! Text in columns of a fixed width, counted in characters. A wider text keeps all of its own. -/
namespace StoreBench.Text

def alignRight (width : Nat) (s : String) : String :=
  String.ofList (s.toList.leftpad width ' ')

def alignLeft (width : Nat) (s : String) : String :=
  String.ofList (s.toList.rightpad width ' ')

def rule (n : Nat) (c : Char) : String := String.ofList (List.replicate n c)

end StoreBench.Text
