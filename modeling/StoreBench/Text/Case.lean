/-! Texts that differ in the case of letters only. -/
namespace StoreBench.Text

def sameUpToCase (a b : String) : Bool := a.toList.map Char.toLower == b.toList.map Char.toLower

end StoreBench.Text
