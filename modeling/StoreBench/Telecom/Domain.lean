/-! The tables of the telecom workload and the sets that their values come from. -/
namespace StoreBench.Telecom

inductive Table where
  | subscriber
  | accessInfo
  | specialFacility
  | callForwarding
  deriving DecidableEq

namespace Table

def all : List Table := [subscriber, accessInfo, specialFacility, callForwarding]

def name : Table → String
  | subscriber => "subscriber"
  | accessInfo => "access_info"
  | specialFacility => "special_facility"
  | callForwarding => "call_forwarding"

end Table

def accessTypes : List UInt8 := [1, 2, 3, 4]

def facilityTypes : List UInt8 := [1, 2, 3, 4]

def startTimes : List UInt8 := [0, 8, 16]

/-- The hours that a forwarding of the initial population lasts. -/
def slotLength : UInt8 := 8

def maxEndTime : Nat := 24

/-- The least number of digits in a telephone number. -/
def numberWidth : Nat := 15

end StoreBench.Telecom
