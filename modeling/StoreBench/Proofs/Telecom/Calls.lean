import StoreBench.Proofs.Telecom.Invariance

/-! Calls of several clients, one after another, and what is known of all of them. -/
namespace StoreBench.Telecom

/-- A client, by its place, and the transaction that it asks for. -/
abbrev Call := Nat × Procedure

namespace Session

/-- The results of some calls, and the session after them, if there are such clients. -/
def executeAll (s : Session) : List Call → Option (List (Except Failure Outcome) × Session)
  | [] => some ([], s)
  | (i, p) :: calls => do
    let (result, s) ← s.execute i p
    let (results, s) ← s.executeAll calls
    return (result :: results, s)

end Session

namespace Tables

/-- The results of some transactions on tables that are all there, and the tables after them. -/
def executeAll (t : Tables) (foreignKeys : Bool) :
    List Procedure → List (Except Failure Outcome) × Tables
  | [] => ([], t)
  | p :: rest =>
    let (result, t) := t.execute foreignKeys p
    let (results, t) := t.executeAll foreignKeys rest
    (result :: results, t)

theorem executeAll_cons (t : Tables) (foreignKeys : Bool) (p : Procedure) (rest : List Procedure) :
    t.executeAll foreignKeys (p :: rest) =
      ((t.execute foreignKeys p).1 :: ((t.execute foreignKeys p).2.executeAll foreignKeys rest).1,
        ((t.execute foreignKeys p).2.executeAll foreignKeys rest).2) := rfl

theorem skeleton_executeAll (t : Tables) (foreignKeys : Bool) (ps : List Procedure) :
    (t.executeAll foreignKeys ps).2.skeleton = t.skeleton := by
  induction ps generalizing t with
  | nil => rfl
  | cons p ps ih => exact (ih _).trans (t.skeleton_execute foreignKeys p)

theorem idOf?_eq (t : Tables) (number : String) :
    t.idOf? number = (t.skeleton.1.find? (·.2 == number)).map (·.1) := by
  simp [idOf?, skeleton, List.find?_map, Function.comp_def]

theorem map_id_of_skeleton {t u : Tables} (h : u.skeleton = t.skeleton) :
    u.subscribers.map (·.id) = t.subscribers.map (·.id) := by
  simpa [skeleton, Function.comp_def] using congrArg (fun k => k.1.map Prod.fst) h

theorem map_number_of_skeleton {t u : Tables} (h : u.skeleton = t.skeleton) :
    u.subscribers.map (·.number) = t.subscribers.map (·.number) := by
  simpa [skeleton, Function.comp_def] using congrArg (fun k => k.1.map Prod.snd) h

/-- How numbers resolve is part of the skeleton. -/
theorem idOf?_of_skeleton {t u : Tables} (h : u.skeleton = t.skeleton) : u.idOf? = t.idOf? := by
  funext number
  rw [idOf?_eq, h, ← idOf?_eq]

end Tables

namespace Session

variable {s : Session} {t : Tables}

theorem Ready.execute (h : s.Ready t) {i : Nat} (hi : i < s.seats.length) (p : Procedure) :
    ∃ u, s.execute i p = some ((t.execute s.options.foreignKeys p).1, u) ∧
      u.Ready (t.execute s.options.foreignKeys p).2 ∧ u.options = s.options ∧
      u.seats.length = s.seats.length := by
  obtain ⟨handle, he⟩ := h.executeAt s.seats[i] p
  have hx : s.execute i p = some ((t.execute s.options.foreignKeys p).1,
      { s with
        store := .ofTables (t.execute s.options.foreignKeys p).2
        seats := s.seats.set i { s.seats[i] with handle } }) := by
    rw [Session.execute, atSeat, List.getElem?_eq_getElem hi, Option.map_some, he]
  exact ⟨_, hx, ⟨rfl, h.lock⟩, rfl, List.length_set⟩

/-- Calls come out as if their transactions were run on the tables alone, whoever makes them. -/
theorem Ready.executeAll (h : s.Ready t) {calls : List Call}
    (hc : ∀ c ∈ calls, c.1 < s.seats.length) :
    ∃ u, s.executeAll calls =
        some ((t.executeAll s.options.foreignKeys (calls.map (·.2))).1, u) ∧
      u.Ready (t.executeAll s.options.foreignKeys (calls.map (·.2))).2 ∧
      u.options = s.options ∧ u.seats.length = s.seats.length := by
  induction calls generalizing s t with
  | nil => exact ⟨s, rfl, h, rfl, rfl⟩
  | cons c calls ih =>
    obtain ⟨u, hu, hready, hoptions, hlen⟩ := h.execute (hc c List.mem_cons_self) c.2
    have hrest : ∀ d ∈ calls, d.1 < u.seats.length := fun d hd =>
      hlen ▸ hc d (List.mem_cons_of_mem c hd)
    obtain ⟨v, hv, hvready, hvoptions, hvlen⟩ := ih hready hrest
    rw [hoptions] at hv hvready
    refine ⟨v, ?_, hvready, hvoptions.trans hoptions, hvlen.trans hlen⟩
    rw [Session.executeAll, hu]
    simp [hv, Tables.executeAll_cons]

def on (clients : Nat) (foreignKeys : Bool) (store : Store) : Session :=
  { start { Connection.Options.standard with foreignKeys }
      (List.replicate clients ⟨1, Random.Stream.ofSeed 0⟩) with store }

theorem ready_on (clients : Nat) (foreignKeys : Bool) (t : Tables) :
    (on clients foreignKeys (.ofTables t)).Ready t := ⟨rfl, rfl⟩

@[simp] theorem length_seats_on (clients : Nat) (foreignKeys : Bool) (store : Store) :
    (on clients foreignKeys store).seats.length = clients := by
  simp [on, start]

end Session

end StoreBench.Telecom
