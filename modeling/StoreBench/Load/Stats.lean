import StoreBench.Telecom.Record

/-! Counts of what was loaded. The counters are words: they wrap around. -/
namespace StoreBench.Load

open Telecom

structure Stats where
  subscribers : UInt64
  accessInfos : UInt64
  facilities : UInt64
  forwardings : UInt64
  batches : UInt64
  deriving DecidableEq

namespace Stats

def zero : Stats := ⟨0, 0, 0, 0, 0⟩

def count (s : Stats) : Record → Stats
  | .subscriber _ => { s with subscribers := s.subscribers + 1 }
  | .accessInfo _ => { s with accessInfos := s.accessInfos + 1 }
  | .facility _ => { s with facilities := s.facilities + 1 }
  | .forwarding _ => { s with forwardings := s.forwardings + 1 }

def countAll (s : Stats) (batch : List Record) : Stats := batch.foldl count s

def rows (s : Stats) : UInt64 := s.subscribers + s.accessInfos + s.facilities + s.forwardings

end Stats

end StoreBench.Load
