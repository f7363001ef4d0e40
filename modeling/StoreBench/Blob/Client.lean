import StoreBench.Blob.Mix
import StoreBench.Blob.Store

/-! A client of the blob workload: it writes the same payload whenever it writes. -/
namespace StoreBench.Blob

structure Client where
  requests : Requests
  payload : List UInt8
  deriving DecidableEq

namespace Client

def ofRequests (m : Mix) (r : Requests) : Except Abort Client := do
  let (payload, requests) ← r.payload m.payloadSize
  return ⟨requests, payload⟩

def execute (c : Client) (r : Request) (s : Store) : Except Failure Outcome × Store :=
  match r with
  | .read => (s.read, s)
  | .write => s.write c.payload

/-- Draws the next request and runs it. The request is used up even if it fails. -/
def step (c : Client) (s : Store) : Except Failure Outcome × Client × Store :=
  let (r, requests) := c.requests.next
  let (result, s) := c.execute r s
  (during (.blobRequest r) result, { c with requests }, s)

/-- At most `n` steps, up to the first that fails. -/
def steps (c : Client) (n : Nat) (s : Store) : List (Except Failure Outcome) × Client × Store :=
  match n with
  | 0 => ([], c, s)
  | n + 1 =>
    match c.step s with
    | (.error f, c, s) => ([.error f], c, s)
    | (.ok outcome, c, s) =>
      let (rest, c, s) := c.steps n s
      (.ok outcome :: rest, c, s)

end Client

end StoreBench.Blob
