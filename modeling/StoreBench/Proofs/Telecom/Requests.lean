import StoreBench.Proofs.Random.Choice
import StoreBench.Proofs.Telecom.SubscriberNumber
import StoreBench.Telecom.Traffic

/-!
Every request is about a subscriber that there is, and its inputs are from the domains of the
population.
-/
namespace StoreBench.Telecom

open StoreBench.Random

/-- The procedure addresses one of the subscribers from 1 to `n`, by id or by number. -/
def Procedure.About (n : UInt64) : Procedure → Prop
  | getSubscriberData id => 1 ≤ id ∧ id ≤ n
  | getNewDestination id _ _ _ => 1 ≤ id ∧ id ≤ n
  | getAccessData id _ => 1 ≤ id ∧ id ≤ n
  | updateSubscriberData id _ _ _ => 1 ≤ id ∧ id ≤ n
  | updateLocation number _ => ∃ id, 1 ≤ id ∧ id ≤ n ∧ number = SubscriberNumber.ofId id
  | insertCallForwarding number _ _ _ _ =>
    ∃ id, 1 ≤ id ∧ id ≤ n ∧ number = SubscriberNumber.ofId id
  | deleteCallForwarding number _ _ => ∃ id, 1 ≤ id ∧ id ≤ n ∧ number = SubscriberNumber.ofId id

theorem Procedure.About.mono {m n : UInt64} (h : m ≤ n) {p : Procedure} (hp : p.About m) :
    p.About n := by
  cases p with
  | updateLocation | insertCallForwarding | deleteCallForwarding =>
    obtain ⟨id, h1, hm, he⟩ := hp
    exact ⟨id, h1, UInt64.le_trans hm h, he⟩
  | _ => exact ⟨hp.1, UInt64.le_trans hp.2 h⟩

/-- The number of one of the subscribers from 1 to `n`, from which the id is read back. -/
def SubscriberNumber.Within (n : UInt64) (number : String) : Prop :=
  ∃ id, 1 ≤ id ∧ id ≤ n ∧ number = ofId id ∧ toId? number = some id

theorem SubscriberNumber.within_ofId {n id : UInt64} (h : 1 ≤ id ∧ id ≤ n) : Within n (ofId id) :=
  ⟨id, h.1, h.2, rfl, toId?_ofId id⟩

/-- The procedure addresses one of the subscribers from 1 to `n`, and its other inputs have values
of their domains. -/
def Procedure.InSpace (n : UInt64) : Procedure → Prop
  | getSubscriberData id => 1 ≤ id ∧ id ≤ n
  | getNewDestination id kind start stop =>
    (1 ≤ id ∧ id ≤ n) ∧ kind ∈ facilityTypes ∧ start ∈ startTimes ∧ 1 ≤ stop ∧ stop ≤ 24
  | getAccessData id kind => (1 ≤ id ∧ id ≤ n) ∧ kind ∈ accessTypes
  | updateSubscriberData id kind _ _ => (1 ≤ id ∧ id ≤ n) ∧ kind ∈ facilityTypes
  | updateLocation number vlrLocation => SubscriberNumber.Within n number ∧ 1 ≤ vlrLocation
  | insertCallForwarding number kind start stop target =>
    SubscriberNumber.Within n number ∧ kind ∈ facilityTypes ∧ start ∈ startTimes ∧
      (1 ≤ stop ∧ stop ≤ 24) ∧ IsText '0' '9' 15 target
  | deleteCallForwarding number kind start =>
    SubscriberNumber.Within n number ∧ kind ∈ facilityTypes ∧ start ∈ startTimes

theorem Procedure.InSpace.about {n : UInt64} {p : Procedure} (h : p.InSpace n) : p.About n := by
  cases p with
  | getSubscriberData => exact h
  | getNewDestination | getAccessData | updateSubscriberData => exact h.1
  | updateLocation | insertCallForwarding | deleteCallForwarding =>
    obtain ⟨id, h1, hle, he, -⟩ := h.1
    exact ⟨id, h1, hle, he⟩

theorem drawId_always {n : UInt64} (hn : 1 ≤ n) :
    (drawId n).Always fun id => 1 ≤ id ∧ id ≤ n := by
  rw [UInt64.le_iff_toNat_le] at hn
  have hlt := n.toNat_lt_size
  refine .bind (fair64_lt hn) fun k hk => .pure ?_
  have ht : (UInt64.ofNat (1 + k)).toNat = 1 + k := UInt64.toNat_ofNat_of_lt' (by omega)
  constructor
  · rw [UInt64.le_iff_toNat_le, ht]
    exact Nat.le_add_right 1 k
  · rw [UInt64.le_iff_toNat_le, ht]
    omega

theorem drawEndTime_always : drawEndTime.Always fun stop => 1 ≤ stop ∧ stop ≤ 24 := by
  have hrange : ∀ k : Fin 24, 1 ≤ UInt8.ofNat (1 + k) ∧ UInt8.ofNat (1 + k) ≤ 24 := by decide
  exact .bind (fair32_lt (by decide)) fun k hk => .pure (hrange ⟨k, hk⟩)

theorem drawProcedure_inSpace {n : UInt64} (hn : 1 ≤ n) (kind : ProcedureKind) :
    (drawProcedure n kind).Always fun p => p.kindOf = kind ∧ p.InSpace n := by
  have hid := drawId_always hn
  have hfacility : (pick facilityTypes).Always (· ∈ facilityTypes) := pick_mem (by decide)
  have haccess : (pick accessTypes).Always (· ∈ accessTypes) := pick_mem (by decide)
  have hstart : (pick startTimes).Always (· ∈ startTimes) := pick_mem (by decide)
  cases kind with
  | getSubscriberData => exact .bind hid fun id h => .pure ⟨rfl, h⟩
  | getNewDestination =>
    refine .bind hid fun id h => ?_
    refine .bind hfacility fun kind hk => ?_
    refine .bind hstart fun start hs => ?_
    refine .bind drawEndTime_always fun stop he => ?_
    exact .pure ⟨rfl, h, hk, hs, he⟩
  | getAccessData =>
    refine .bind hid fun id h => ?_
    refine .bind haccess fun kind hk => ?_
    exact .pure ⟨rfl, h, hk⟩
  | updateSubscriberData =>
    refine .bind hid fun id h => ?_
    refine .bind hfacility fun kind hk => ?_
    refine .after fun bit => .after fun dataA => ?_
    exact .pure ⟨rfl, h, hk⟩
  | updateLocation =>
    refine .bind hid fun id h => ?_
    refine .bind (quick32_lt (by decide)) fun vlr hv => ?_
    exact .pure ⟨rfl, SubscriberNumber.within_ofId h, one_le_ofNat hv⟩
  | insertCallForwarding =>
    refine .bind hid fun id h => ?_
    refine .bind hfacility fun kind hk => ?_
    refine .bind hstart fun start hs => ?_
    refine .bind drawEndTime_always fun stop he => ?_
    refine .bind (drawDigits_always numberWidth) fun target ht => ?_
    exact .pure ⟨rfl, SubscriberNumber.within_ofId h, hk, hs, he, ht⟩
  | deleteCallForwarding =>
    refine .bind hid fun id h => ?_
    refine .bind hfacility fun kind hk => ?_
    refine .bind hstart fun start hs => ?_
    exact .pure ⟨rfl, SubscriberNumber.within_ofId h, hk, hs⟩

namespace Traffic

theorem next_inSpace {t : Traffic} (h : 1 ≤ t.subscribers) : t.next.1.InSpace t.subscribers :=
  (drawProcedure_inSpace h t.nextKind.1 t.nextKind.2.stream).2

theorem subscribers_next (t : Traffic) : t.next.2.subscribers = t.subscribers := rfl

end Traffic

end StoreBench.Telecom
