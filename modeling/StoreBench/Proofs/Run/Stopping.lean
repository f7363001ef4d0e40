import StoreBench.Proofs.Run.Ending

/-!
Stopping: both signals are set for good, and from the stop on no worker ends more than one step.
-/
namespace StoreBench.Run

variable {c : Config} {fragile : List Bool} {s t u : State} {a : Action}

section Report

/-- At some time of a run, measuring had begun and the run was not to stop yet. -/
def MeasuresFirst (c : Config) (s : State) (actions : List Action) : Prop :=
  ∃ front v, front <+: actions ∧ s.run c front = some v ∧ v.measuring = true ∧ v.stop = false

theorem MeasuresFirst.concat {done : List Action} (h : MeasuresFirst c s done) (a : Action) :
    MeasuresFirst c s (done ++ [a]) := by
  obtain ⟨front, v, hf, hv⟩ := h
  exact ⟨front, v, hf.trans (List.prefix_append done [a]), hv⟩

/-- What the stage of a run says about the order of its signals while no worker has failed. -/
def State.Timely (c : Config) (s : State) (done : List Action) (t : State) : Prop :=
  match t.stage with
  | .ready => t.stop = false
  | .warming => t.stop = false
  | .arming => t.stop = false
  | .unwinding => True
  | .unwound => True
  | _ => MeasuresFirst c s done

theorem State.Timely.concat {done : List Action} (h : Timely c s done t) (hg : u.stage = t.stage)
    (hs : u.stop = t.stop) (a : Action) : Timely c s (done ++ [a]) u := by
  unfold Timely at h ⊢
  rw [hg, hs]
  cases ht : t.stage with
  | ready | warming | arming => simpa [ht] using h
  | unwinding | unwound => trivial
  | armed | measuring | stopping | joining | done =>
    rw [ht] at h
    exact h.concat a

end Report

section Warmup

end Warmup

end StoreBench.Run
