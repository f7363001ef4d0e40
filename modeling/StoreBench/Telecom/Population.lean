import StoreBench.Random.Choice
import StoreBench.Telecom.Record
import StoreBench.Telecom.SubscriberNumber

/-!
The initial population. The rows of one subscriber form a block, drawn from a stream of the
subscriber's own, so that a block depends on nothing but the id.
-/
namespace StoreBench.Telecom

open StoreBench.Random

/-- The double nearest to 0.85, in units of `2 ^ -64`. -/
def activeChance : Nat := 0xd999999999999800

def drawSubscriber (id : UInt64) : Draw Subscriber := do
  let bits ← (chance evenChance).vector 10
  let hexes ← Draw.vector (return UInt8.ofNat (← fair32 16)) 10
  let bytes ← drawByte.vector 10
  let msc ← quick32 (UInt32.size - 1)
  let vlr ← quick32 (UInt32.size - 1)
  return ⟨id, SubscriberNumber.ofId id, bits, hexes, bytes, UInt32.ofNat (1 + msc),
    UInt32.ofNat (1 + vlr)⟩

def drawAccessInfo (owner : UInt64) (kind : UInt8) : Draw AccessInfo := do
  let data1 ← drawByte
  let data2 ← drawByte
  let data3 ← drawLetters 3
  let data4 ← drawLetters 5
  return ⟨owner, kind, data1, data2, data3, data4⟩

def drawFacility (owner : UInt64) (kind : UInt8) : Draw Facility := do
  let active ← chance activeChance
  let errorControl ← drawByte
  let dataA ← drawByte
  let dataB ← drawLetters 5
  return ⟨owner, kind, active, errorControl, dataA, dataB⟩

/-- A forwarding fills one slot of the day. -/
def drawForwarding (owner : UInt64) (kind start : UInt8) : Draw Forwarding := do
  let target ← drawDigits numberWidth
  return ⟨owner, kind, start, start + slotLength, target⟩

/-- How many slots of one facility are forwarded: none in one of three cases. -/
def drawSlotCount : Draw Nat := do
  let third ← quick32 3
  if third = 0 then return 0 else (· + 1) <$> quick64 startTimes.length

def drawSlots : Draw (List UInt8) := do
  let count ← drawSlotCount
  let order ← shuffle startTimes.length
  return select startTimes (order.take count)

def drawFacilityGroup (owner : UInt64) (kind : UInt8) : Draw (List Record) := do
  let facility ← drawFacility owner kind
  let forwardings ← (← drawSlots).mapM (drawForwarding owner kind)
  return .facility facility :: forwardings.map .forwarding

def drawBlock (id : UInt64) : Draw (List Record) := do
  let subscriber ← drawSubscriber id
  let infos ← (← choose accessTypes).mapM (drawAccessInfo id)
  let groups ← (← choose facilityTypes).mapM (drawFacilityGroup id)
  return .subscriber subscriber :: infos.map .accessInfo ++ groups.flatten

def blockSeed (id : UInt64) : UInt64 := 0x7a7b5eed00000001 ^^^ (id * 0x9e3779b97f4a7c15)

def block (id : UInt64) : List Record := (drawBlock id).value (Stream.ofSeed (blockSeed id))

/-- A block begins with its subscriber. -/
theorem block_ne_nil (id : UInt64) : block id ≠ [] := by
  simp [block, drawBlock]

def blocks (first last : Nat) : List Record :=
  (List.range' first (last + 1 - first)).flatMap fun id => block (UInt64.ofNat id)

theorem blocks_of_lt {first last : Nat} (h : last < first) : blocks first last = [] := by
  have : last + 1 - first = 0 := by omega
  simp [blocks, this]

theorem blocks_of_le {first last : Nat} (h : first ≤ last) :
    blocks first last = block (UInt64.ofNat first) ++ blocks (first + 1) last := by
  have : last + 1 - first = (last + 1 - (first + 1)) + 1 := by omega
  simp [blocks, this, List.range'_succ]

def population (n : UInt64) : List Record := blocks 1 n.toNat

end StoreBench.Telecom
