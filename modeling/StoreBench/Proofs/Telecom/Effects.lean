import StoreBench.Proofs.Telecom.Columns
import StoreBench.Proofs.Telecom.Reference
import StoreBench.Proofs.Telecom.Traces

/-!
What a transaction writes, column by column, and what it leaves alone. One that does not succeed
leaves all tables as they were, but for the bit of a subscriber without the facility.
-/
namespace StoreBench.Telecom

section Hitting

variable {α β : Type} {wrap : α → Record} {hit : Record → Prop} {p : α → Prop} {rows : List α}

variable (key : α → β) (hkey : ∀ a b, p a → p b → key a = key b)
include hkey

variable (hhit : ∀ a, hit (wrap a) ↔ p a)
include hhit

end Hitting

namespace Tables

variable (t : Tables)

end Tables

namespace Procedure

end Procedure

namespace Tables

variable {t : Tables} {foreignKeys : Bool} {p : Procedure}

end Tables

namespace Procedure.Leaves

variable {p : Procedure} {t : Tables}

end Procedure.Leaves

namespace Tables

def Stored (t : Tables) : Prop := ∀ r ∈ t.records, r.length ≤ maxLength

variable {t : Tables}

theorem stored_iff : t.Stored ↔
    (∀ r ∈ t.subscribers, (Record.subscriber r).length ≤ maxLength) ∧
    (∀ r ∈ t.accessInfos, (Record.accessInfo r).length ≤ maxLength) ∧
    (∀ r ∈ t.facilities, (Record.facility r).length ≤ maxLength) ∧
    ∀ r ∈ t.forwardings, (Record.forwarding r).length ≤ maxLength := by
  simp [Stored, records, or_imp, forall_and]

theorem Stored.add (h : t.Stored) {foreignKeys : Bool} {r : Record}
    (hr : t.refusal? foreignKeys r = none) : (t.add r).Stored := by
  intro q hq
  rcases List.mem_append.mp ((t.records_add r).mem_iff.mp hq) with hq | hq
  · exact h q hq
  · rw [List.mem_singleton.mp hq]
    exact ((refusal?_eq_none_iff foreignKeys).mp hr).2.2.1

theorem length_le_of_mem_map_if {α : Type} {wrap : α → Record} {hit : α → Prop} [DecidablePred hit]
    {f : α → α} {rows : List α} (h : ∀ a ∈ rows, (wrap a).length ≤ maxLength)
    (hf : ∀ a ∈ rows, hit a → (wrap (f a)).length ≤ maxLength) :
    ∀ a ∈ rows.map (fun a => if hit a then f a else a), (wrap a).length ≤ maxLength := by
  simp only [List.forall_mem_map]
  intro a ha
  split
  · next hp => exact hf a ha hp
  · exact h a ha

/-- What a transaction writes is not too long, or it is stopped. -/
theorem Stored.execute (h : t.Stored) (hn : (t.subscribers.map (·.number)).Nodup)
    (foreignKeys : Bool) (p : Procedure) : (t.execute foreignKeys p).2.Stored := by
  rw [execute_eq]
  cases hs : p.stop? t with
  | some f => exact h
  | none =>
    obtain ⟨-, hl⟩ := (Procedure.stop?_eq_none_iff_rows hn).mp hs
    obtain ⟨hsubscribers, hinfos, hfacilities, hforwardings⟩ := stored_iff.mp h
    cases p with
    | getSubscriberData | getNewDestination | getAccessData => exact h
    | updateSubscriberData id kind bit dataA =>
      simp only [Procedure.TooLong, not_or, not_exists, not_and, not_lt] at hl
      refine stored_iff.mpr ⟨?_, hinfos, ?_, hforwardings⟩
      · exact length_le_of_mem_map_if hsubscribers fun r hr hid => hl.1 r hr hid
      · exact length_le_of_mem_map_if hfacilities fun r hr hkey => hl.2 r hr hkey
    | updateLocation number vlrLocation =>
      simp only [Procedure.TooLong, not_or, not_exists, not_and, not_lt] at hl
      refine stored_iff.mpr ⟨?_, hinfos, hfacilities, hforwardings⟩
      exact length_le_of_mem_map_if hsubscribers fun r hr hnumber => hl.2 r hr hnumber
    | insertCallForwarding number kind start stop target =>
      rcases t.run_insert foreignKeys number kind start stop target with
        ⟨-, hrun⟩ | ⟨id, -, ⟨-, hrun⟩ | ⟨hnone, hrun⟩⟩
      · rwa [hrun]
      · rwa [hrun]
      · rw [hrun]
        exact h.add hnone
    | deleteCallForwarding number kind start =>
      rcases t.run_delete foreignKeys number kind start with ⟨-, hrun⟩ | ⟨id, -, hrun⟩
      · rwa [hrun]
      · rw [hrun]
        exact stored_iff.mpr ⟨hsubscribers, hinfos, hfacilities,
          fun r hr => hforwardings r (List.mem_of_mem_filter hr)⟩

end Tables

end StoreBench.Telecom
