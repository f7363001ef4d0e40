import StoreBench.Telecom.Domain

/-! The rows of the four tables. -/
namespace StoreBench.Telecom

structure Subscriber where
  id : UInt64
  number : String
  bits : Vector Bool 10
  hexes : Vector UInt8 10
  bytes : Vector UInt8 10
  mscLocation : UInt32
  vlrLocation : UInt32
  deriving DecidableEq

structure AccessInfo where
  owner : UInt64
  kind : UInt8
  data1 : UInt8
  data2 : UInt8
  data3 : String
  data4 : String
  deriving DecidableEq

structure Facility where
  owner : UInt64
  kind : UInt8
  active : Bool
  errorControl : UInt8
  dataA : UInt8
  dataB : String
  deriving DecidableEq

/-- A forwarding belongs to the facility of the same owner and kind. -/
structure Forwarding where
  owner : UInt64
  kind : UInt8
  start : UInt8
  stop : UInt8
  target : String
  deriving DecidableEq

inductive Record where
  | subscriber (row : Subscriber)
  | accessInfo (row : AccessInfo)
  | facility (row : Facility)
  | forwarding (row : Forwarding)
  deriving DecidableEq

namespace Record

def owner : Record → UInt64
  | subscriber r => r.id
  | accessInfo r => r.owner
  | facility r => r.owner
  | forwarding r => r.owner

def table : Record → Table
  | subscriber _ => .subscriber
  | accessInfo _ => .accessInfo
  | facility _ => .specialFacility
  | forwarding _ => .callForwarding

def subscriber? : Record → Option Subscriber
  | subscriber r => some r
  | _ => none

def accessInfo? : Record → Option AccessInfo
  | accessInfo r => some r
  | _ => none

def facility? : Record → Option Facility
  | facility r => some r
  | _ => none

def forwarding? : Record → Option Forwarding
  | forwarding r => some r
  | _ => none

end Record

end StoreBench.Telecom
