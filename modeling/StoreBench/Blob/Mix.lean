import StoreBench.Blob.Request
import StoreBench.Failure
import StoreBench.Random.Bytes

/-! The mix of reads and writes, and the requests that it makes. -/
namespace StoreBench.Blob

open StoreBench.Random

/-- The share of reads among all requests, and the size of the blob. -/
structure Mix where
  readFraction : Float
  payloadSize : Nat
  deriving DecidableEq

/-- The share lies between 0 and 1, and the blob is not empty. -/
def Mix.validate (m : Mix) : Except Failure Unit :=
  if 0.0 ≤ m.readFraction && m.readFraction ≤ 1.0 then
    if m.payloadSize = 0 then .error (.ofCause .emptyPayload) else .ok ()
  else .error (.ofCause (.fractionOutside m.readFraction))

/-- How many of the `2 ^ 64` long words make a read. -/
def Mix.threshold (m : Mix) : Nat := (Decimal.Binary64.ofFloat m.readFraction).scaledFloor 64

structure Requests where
  threshold : Nat
  stream : Stream
  deriving DecidableEq

namespace Requests

def ofStream (m : Mix) (stream : Stream) : Except Failure Requests := do
  m.validate
  return ⟨m.threshold, stream⟩

def ofSeed (m : Mix) (seed : UInt64) : Except Failure Requests := ofStream m (Stream.ofSeed seed)

def next (r : Requests) : Request × Requests :=
  let result := chance r.threshold r.stream
  (if result.1 then .read else .write, { r with stream := result.2 })

def payload (r : Requests) (size : Nat) : Except Abort (List UInt8 × Requests) :=
  if maxAllocation < size then .error .capacityOverflow
  else
    let result := drawBytes size r.stream
    .ok (result.1, { r with stream := result.2 })

end Requests

end StoreBench.Blob
