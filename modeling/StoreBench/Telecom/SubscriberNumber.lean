import StoreBench.Decimal.Natural
import StoreBench.Telecom.Domain

/-! Telephone numbers of subscribers: the id in decimal, with zeros in front. -/
namespace StoreBench.Telecom.SubscriberNumber

def ofId (id : UInt64) : String := Decimal.padded numberWidth id.toNat

def dropPlus : List Char → List Char
  | '+' :: cs => cs
  | cs => cs

/-- The id that a text writes: digits after at most one plus sign, for a value of 64 bits. -/
def toId? (number : String) : Option UInt64 :=
  (Decimal.value? (dropPlus number.toList)).bind fun n =>
    if n < UInt64.size then some (UInt64.ofNat n) else none

end StoreBench.Telecom.SubscriberNumber
