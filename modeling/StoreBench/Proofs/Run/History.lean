import StoreBench.Proofs.Run.Moves
import StoreBench.Run.Script

/-!
What the actions of a run say about each worker: how its steps ended, in their order, and which of
them it looked at before measuring began.
-/
namespace StoreBench.Run

def Action.worker? : Action → Option Nat
  | poll i => some i
  | perform i _ => some i
  | sample i => some i
  | record i => some i
  | _ => none

/-- How a step of worker `i` ended, if the action is that end. -/
def Action.end? (i : Nat) : Action → Option StepResult
  | perform j r => if j = i then some r else none
  | _ => none

def actionsOf (i : Nat) (actions : List Action) : List Action := actions.filter (·.worker? = some i)

def ends (i : Nat) (actions : List Action) : List StepResult := actions.filterMap (Action.end? i)

def Completes (actions : List Action) (i : Nat) : Prop :=
  ∀ r, .perform i r ∈ actions → ∃ o, r = .completed o

/-- How often worker `i` looked whether measuring had begun, before it began. -/
def warmLooks (i : Nat) (actions : List Action) : Nat :=
  (actions.takeWhile (· ≠ .arm)).count (.sample i)

def recordedEnds (i : Nat) (actions : List Action) : List StepResult :=
  (ends i actions).take (actions.count (.record i))

/-- The phase in which worker `i` looked at the end of its step number `k`. -/
def phaseAt (i : Nat) (actions : List Action) (k : Nat) : Phase :=
  if k < warmLooks i actions then .warmup else .measurement

def StepResult.outcome? : StepResult → Option Outcome
  | completed o => some o
  | _ => none

def outcomes (rs : List StepResult) : List Outcome := rs.filterMap StepResult.outcome?

/-- The outcomes of the steps that worker `i` has completed and recorded. -/
def completedBy (i : Nat) (actions : List Action) : List Outcome :=
  outcomes (recordedEnds i actions)

/-- Those of them that the worker looked at before measuring began. -/
def warmOutcomes (i : Nat) (actions : List Action) : List Outcome :=
  outcomes ((recordedEnds i actions).take (warmLooks i actions))

/-- Those of them that the worker looked at once measuring had begun. -/
def measuredOutcomes (i : Nat) (actions : List Action) : List Outcome :=
  outcomes ((recordedEnds i actions).drop (warmLooks i actions))

theorem warm_append_measured (i : Nat) (actions : List Action) :
    warmOutcomes i actions ++ measuredOutcomes i actions = completedBy i actions := by
  rw [warmOutcomes, measuredOutcomes, outcomes, outcomes, ← List.filterMap_append,
    List.take_append_drop]
  rfl

def Tally.of (os : List Outcome) : Tally :=
  ⟨.ofNat os.length, .ofNat (os.count .missing), .ofNat (os.count .conflict)⟩

@[simp] theorem Tally.of_nil : Tally.of [] = .zero := rfl

theorem Tally.of_concat (os : List Outcome) (o : Outcome) :
    Tally.of (os ++ [o]) = (Tally.of os).record o := by
  cases o <;> simp [Tally.of, Tally.record, UInt64.ofNat_add, List.count_append]

theorem StepResult.verdict_eq_ok {r : StepResult} {o : Outcome} :
    r.verdict = .ok o ↔ r = .completed o := by
  cases r <;> simp [verdict]

theorem actionsOf_concat (i : Nat) (done : List Action) (a : Action) :
    actionsOf i (done ++ [a]) = actionsOf i done ++ if a.worker? = some i then [a] else [] := by
  by_cases h : a.worker? = some i <;> simp [actionsOf, h]

theorem ends_actionsOf (i : Nat) (actions : List Action) :
    ends i actions = ends i (actionsOf i actions) := by
  have h (a : Action) : (if a.worker? = some i then a.end? i else none) = a.end? i := by
    cases a <;> simp [Action.worker?, Action.end?]
  simp [ends, actionsOf, List.filterMap_filter, h]

theorem count_actionsOf {i : Nat} {a : Action} (ha : a.worker? = some i) (actions : List Action) :
    actions.count a = (actionsOf i actions).count a := by
  rw [actionsOf, List.count_filter (by simpa using ha)]

theorem ends_steps (i : Nat) (rs : List StepResult) : ends i (steps i rs) = rs := by
  induction rs with
  | nil => rfl
  | cons r rs ih => simpa [ends, steps, complete, Action.end?, List.filterMap_cons] using ih

theorem count_sample_steps (i : Nat) (rs : List StepResult) :
    (steps i rs).count (.sample i) = rs.length := by
  induction rs with
  | nil => rfl
  | cons r rs ih => simpa [steps, complete] using ih

theorem count_record_steps (i : Nat) (rs : List StepResult) :
    (steps i rs).count (.record i) = rs.length := by
  induction rs with
  | nil => rfl
  | cons r rs ih => simpa [steps, complete] using ih

theorem warmLooks_le (i : Nat) (actions : List Action) :
    warmLooks i actions ≤ actions.count (.sample i) :=
  (List.takeWhile_sublist _).count_le _

theorem takeWhile_append_of_not_mem {before : List Action} (h : .arm ∉ before)
    (after : List Action) :
    (before ++ after).takeWhile (· ≠ .arm) = before ++ after.takeWhile (· ≠ .arm) :=
  List.takeWhile_append_of_pos fun a ha => by simpa using fun e : a = .arm => h (e ▸ ha)

theorem warmLooks_of_not_mem {actions : List Action} (h : .arm ∉ actions) (i : Nat) :
    warmLooks i actions = actions.count (.sample i) := by
  have hw : actions.takeWhile (· ≠ .arm) = actions := by
    simpa using takeWhile_append_of_not_mem h []
  rw [warmLooks, hw]

theorem warmLooks_append_of_mem {before : List Action} (h : .arm ∈ before) (i : Nat)
    (after : List Action) : warmLooks i (before ++ after) = warmLooks i before := by
  have : (before ++ after).takeWhile (· ≠ .arm) = before.takeWhile (· ≠ .arm) := by
    induction before with
    | nil => cases h
    | cons b before ih =>
      by_cases hb : b = .arm
      · simp [hb]
      · have ih := ih ((List.mem_cons.mp h).resolve_left (Ne.symm hb))
        simpa [hb] using ih
  rw [warmLooks, this, warmLooks]

theorem warmLooks_concat_arm (i : Nat) (done : List Action) :
    warmLooks i (done ++ [.arm]) = warmLooks i done := by
  by_cases hd : .arm ∈ done
  · exact warmLooks_append_of_mem hd i [.arm]
  · have hw : (done ++ [Action.arm]).takeWhile (· ≠ .arm) = done := by
      rw [takeWhile_append_of_not_mem hd]
      simp
    rw [warmLooks, hw, warmLooks_of_not_mem hd]

/-- Only a look that comes before measuring is one more of them. -/
theorem warmLooks_concat {i : Nat} {done : List Action} {a : Action}
    (h : a = .sample i → .arm ∈ done) : warmLooks i (done ++ [a]) = warmLooks i done := by
  by_cases hd : .arm ∈ done
  · exact warmLooks_append_of_mem hd i [a]
  by_cases he : a = .arm
  · exact he ▸ warmLooks_concat_arm i done
  · have ha : a ≠ .sample i := fun e => hd (h e)
    have hs : .arm ∉ done ++ [a] := by simp [hd, Ne.symm he]
    rw [warmLooks_of_not_mem hs, warmLooks_of_not_mem hd, List.count_append,
      List.count_singleton, if_neg (by simpa using ha), Nat.add_zero]

theorem phaseAt_concat {i k : Nat} {done : List Action} (h : k < done.count (.sample i))
    (a : Action) : phaseAt i (done ++ [a]) k = phaseAt i done k := by
  by_cases hd : .arm ∈ done
  · rw [phaseAt, phaseAt, warmLooks_append_of_mem hd]
  by_cases ha : a = .sample i
  · have hs : .arm ∉ done ++ [a] := by simp [hd, ha]
    have hk : k < (done ++ [a]).count (.sample i) := by
      rw [List.count_append]
      omega
    rw [phaseAt, phaseAt, warmLooks_of_not_mem hd, warmLooks_of_not_mem hs, if_pos h, if_pos hk]
  · rw [phaseAt, phaseAt, warmLooks_concat fun e => absurd e ha]

/-- The phase of a step is that of the time at which the worker looked at it. -/
theorem phaseAt_append {i k : Nat} {before : List Action} (h : before.count (.sample i) = k)
    (after : List Action) : phaseAt i (before ++ .sample i :: after) k =
      if .arm ∈ before then .measurement else .warmup := by
  by_cases hd : .arm ∈ before
  · have hle := warmLooks_le i before
    rw [phaseAt, warmLooks_append_of_mem hd, if_neg (by omega), if_pos hd]
  · have hw : k < warmLooks i (before ++ .sample i :: after) := by
      rw [warmLooks, takeWhile_append_of_not_mem hd, List.count_append, h]
      simp
    rw [phaseAt, if_pos hw, if_neg hd]

end StoreBench.Run
