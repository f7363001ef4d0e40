import StoreBench.Telecom.Domain

/-! The seven transactions of the telecom workload. -/
namespace StoreBench.Telecom

inductive ProcedureKind where
  | getSubscriberData
  | getNewDestination
  | getAccessData
  | updateSubscriberData
  | updateLocation
  | insertCallForwarding
  | deleteCallForwarding
  deriving DecidableEq

namespace ProcedureKind

def all : List ProcedureKind :=
  [getSubscriberData, getNewDestination, getAccessData, updateSubscriberData, updateLocation,
    insertCallForwarding, deleteCallForwarding]

def weight : ProcedureKind → Nat
  | getSubscriberData => 35
  | getNewDestination => 10
  | getAccessData => 35
  | updateSubscriberData => 2
  | updateLocation => 14
  | insertCallForwarding => 2
  | deleteCallForwarding => 2

theorem sum_weight : (all.map weight).foldr (· + ·) 0 = 100 := rfl

def name : ProcedureKind → String
  | getSubscriberData => "GetSubscriberData"
  | getNewDestination => "GetNewDestination"
  | getAccessData => "GetAccessData"
  | updateSubscriberData => "UpdateSubscriberData"
  | updateLocation => "UpdateLocation"
  | insertCallForwarding => "InsertCallForwarding"
  | deleteCallForwarding => "DeleteCallForwarding"

/-- The first of `kinds` whose weight, added to those before it, exceeds `point`. -/
def atPoint (kinds : List ProcedureKind) (point : Nat) : ProcedureKind :=
  match kinds with
  | [] => deleteCallForwarding
  | k :: rest => if point < k.weight then k else atPoint rest (point - k.weight)

end ProcedureKind

/-- A transaction with all of its inputs. It addresses a subscriber by id or by number. -/
inductive Procedure where
  | getSubscriberData (id : UInt64)
  | getNewDestination (id : UInt64) (kind start stop : UInt8)
  | getAccessData (id : UInt64) (kind : UInt8)
  | updateSubscriberData (id : UInt64) (kind : UInt8) (bit : Bool) (dataA : UInt8)
  | updateLocation (number : String) (vlrLocation : UInt32)
  | insertCallForwarding (number : String) (kind start stop : UInt8) (target : String)
  | deleteCallForwarding (number : String) (kind start : UInt8)
  deriving DecidableEq

def Procedure.kindOf : Procedure → ProcedureKind
  | getSubscriberData .. => .getSubscriberData
  | getNewDestination .. => .getNewDestination
  | getAccessData .. => .getAccessData
  | updateSubscriberData .. => .updateSubscriberData
  | updateLocation .. => .updateLocation
  | insertCallForwarding .. => .insertCallForwarding
  | deleteCallForwarding .. => .deleteCallForwarding

end StoreBench.Telecom
