import StoreBench.Proofs.Telecom.Calls

/-! What a transaction does to the keys of the forwardings, as its outcome tells it. -/
namespace StoreBench.Telecom

/-- What tells a forwarding from all others: its owner, its kind and its start. -/
abbrev ForwardingKey := UInt64 × UInt8 × UInt8

def Forwarding.key (r : Forwarding) : ForwardingKey := (r.owner, r.kind, r.start)

namespace Tables

def forwardingKeys (t : Tables) : List ForwardingKey := t.forwardings.map Forwarding.key

theorem hasForwarding_iff (t : Tables) (owner : UInt64) (kind start : UInt8) :
    t.hasForwarding owner kind start = true ↔ (owner, kind, start) ∈ t.forwardingKeys := by
  simp [hasForwarding, forwardingKeys, Forwarding.key, and_assoc]

theorem forwardingKeys_add (t : Tables) (row : Forwarding) :
    (t.add (.forwarding row)).forwardingKeys = row.key :: t.forwardingKeys := rfl

theorem forwardingKeys_removeForwarding (t : Tables) (owner : UInt64) (kind start : UInt8) :
    (t.removeForwarding owner kind start).forwardingKeys =
      t.forwardingKeys.filter (· != (owner, kind, start)) := by
  have h (r : Forwarding) : (!(r.owner == owner && r.kind == kind && r.start == start)) =
      (r.key != (owner, kind, start)) := by
    rw [Bool.and_assoc]
    rfl
  simp only [forwardingKeys, removeForwarding, List.filter_map, Function.comp_def, h]

end Tables

inductive Change where
  | added
  | removed
  deriving DecidableEq

/-- The change that a procedure asks for, and the key of the forwarding. -/
def Procedure.change? (t : Tables) : Procedure → Option (Change × ForwardingKey)
  | insertCallForwarding number kind start _ _ =>
    (t.idOf? number).map fun id => (.added, id, kind, start)
  | deleteCallForwarding number kind start =>
    (t.idOf? number).map fun id => (.removed, id, kind, start)
  | _ => none

/-- The change that was made, going by the result. -/
def Procedure.made? (t : Tables) (p : Procedure) :
    Except Failure Outcome → Option (Change × ForwardingKey)
  | .ok .success => p.change? t
  | _ => none

theorem Procedure.made?_eq_none {t : Tables} {p : Procedure} (h : p.change? t = none)
    (result : Except Failure Outcome) : p.made? t result = none := by
  unfold made?
  split
  · exact h
  · rfl

theorem Procedure.made?_of_skeleton {t u : Tables} (h : u.skeleton = t.skeleton) (p : Procedure) :
    p.made? u = p.made? t := by
  unfold made? change?
  rw [Tables.idOf?_of_skeleton h]

/-- What a change makes of some keys. Only a new key is added, and only one that is there
removed. -/
inductive Effect (keys : List ForwardingKey) :
    Option (Change × ForwardingKey) → List ForwardingKey → Prop where
  | unchanged : Effect keys none keys
  | added {key : ForwardingKey} (h : key ∉ keys) : Effect keys (some (.added, key)) (key :: keys)
  | removed {key : ForwardingKey} (h : key ∈ keys) :
      Effect keys (some (.removed, key)) (keys.filter (· != key))

namespace Tables

theorem effect_run (t : Tables) (foreignKeys : Bool) (p : Procedure) :
    Effect t.forwardingKeys (p.made? t (.ok (t.run foreignKeys p).1))
      (t.run foreignKeys p).2.forwardingKeys := by
  cases p with
  | insertCallForwarding number kind start stop target =>
    rcases t.run_insert foreignKeys number kind start stop target with
      ⟨-, h⟩ | ⟨id, hid, ⟨-, h⟩ | ⟨hr, h⟩⟩
    · rw [h]
      exact .unchanged
    · rw [h]
      exact .unchanged
    · have hnew := ((t.refusal?_forwarding foreignKeys _).mp hr).1
      rw [← Bool.not_eq_true, hasForwarding_iff] at hnew
      simp only [h, Procedure.made?, Procedure.change?, hid, Option.map_some, forwardingKeys_add]
      exact .added hnew
  | deleteCallForwarding number kind start =>
    rcases t.run_delete foreignKeys number kind start with ⟨-, h⟩ | ⟨id, hid, h⟩
    · rw [h]
      exact .unchanged
    · have hiff := t.hasForwarding_iff id kind start
      rw [h]
      dsimp only
      rw [forwardingKeys_removeForwarding]
      cases hf : t.hasForwarding id kind start with
      | true =>
        simp only [Outcome.ofHit, Procedure.made?, Procedure.change?, hid, Option.map_some]
        exact .removed (hiff.mp hf)
      | false =>
        -- There is nothing to take out.
        have hself : t.forwardingKeys.filter (· != (id, kind, start)) = t.forwardingKeys := by
          rw [List.filter_eq_self]
          intro key hkey
          rw [bne_iff_ne]
          rintro rfl
          simp [hiff.mpr hkey] at hf
        rw [hself]
        exact .unchanged
  | _ =>
    rw [Procedure.made?_eq_none rfl]
    exact .unchanged

theorem effect_execute (t : Tables) (foreignKeys : Bool) (p : Procedure) :
    Effect t.forwardingKeys (p.made? t (t.execute foreignKeys p).1)
      (t.execute foreignKeys p).2.forwardingKeys := by
  rw [execute_eq]
  cases p.stop? t with
  | some f => exact .unchanged
  | none => exact t.effect_run foreignKeys p

end Tables

end StoreBench.Telecom
