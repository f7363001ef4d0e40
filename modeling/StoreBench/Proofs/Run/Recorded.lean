import StoreBench.Proofs.Run.History

/-! What each worker has recorded at any time of a run, whatever the order of the actions. -/
namespace StoreBench.Run

def Place.begun (i : Nat) : Place → List Action
  | polling => []
  | working => [.poll i]
  | sampling r => [.poll i, .perform i r]
  | recording r _ => [.poll i, .perform i r, .sample i]
  | finished => [.poll i]
  | failed _ => []

/-- A step that has ended and is not recorded yet. -/
def Place.pending : Place → List StepResult
  | sampling r => [r]
  | recording r _ => [r]
  | _ => []

def AllCompleted (rs : List StepResult) : Prop := ∀ r ∈ rs, ∃ o, r = .completed o

/-- What the steps `rs` that worker `i` has recorded say about its place. -/
def Place.Agrees (i : Nat) (actions : List Action) (rs : List StepResult) : Place → Prop
  | recording _ p => p = phaseAt i actions rs.length ∧ AllCompleted rs
  | failed f => ∃ before r g, rs = before ++ [r] ∧ AllCompleted before ∧ r.verdict = .error g ∧
      f = g.during (.working i (phaseAt i actions before.length))
  | _ => AllCompleted rs

/-- After some actions, worker `i` is `w` and has recorded the steps `rs`. -/
structure Worker.Recorded (i : Nat) (actions : List Action) (rs : List StepResult) (w : Worker) :
    Prop where
  loop : actionsOf i actions = steps i rs ++ w.place.begun i
  tally : w.tally = .of (outcomes (rs.drop (warmLooks i actions)))
  agrees : w.place.Agrees i actions rs

theorem AllCompleted.concat {rs : List StepResult} (h : AllCompleted rs) (o : Outcome) :
    AllCompleted (rs ++ [.completed o]) := by
  intro r hr
  rcases List.mem_append.mp hr with hr | hr
  · exact h r hr
  · exact ⟨o, List.mem_singleton.mp hr⟩

theorem AllCompleted.map_outcomes {rs : List StepResult} (h : AllCompleted rs) :
    (outcomes rs).map .completed = rs := by
  induction rs with
  | nil => rfl
  | cons r rs ih =>
    obtain ⟨o, rfl⟩ := h r List.mem_cons_self
    have ih := ih fun q hq => h q (List.mem_cons_of_mem _ hq)
    simpa [outcomes, StepResult.outcome?] using ih

theorem outcomes_concat_failed {r : StepResult} {g : Failure} (h : r.verdict = .error g)
    (rs : List StepResult) (k : Nat) :
    outcomes ((rs ++ [r]).drop k) = outcomes (rs.drop k) := by
  have hr : r.outcome? = none := by cases r <;> simp_all [StepResult.verdict, StepResult.outcome?]
  have hd : outcomes ([r].drop (k - rs.length)) = [] := by
    cases k - rs.length <;> simp [outcomes, hr]
  rw [List.drop_append, outcomes, List.filterMap_append, ← outcomes, ← outcomes, hd,
    List.append_nil]

namespace Worker.Recorded

variable {i : Nat} {actions : List Action} {rs : List StepResult} {w : Worker}

theorem initial (i : Nat) (fragile : Bool) : Recorded i [] [] (.initial fragile) :=
  ⟨rfl, rfl, by simp [Worker.initial, Place.Agrees, AllCompleted]⟩

theorem ends_eq (h : w.Recorded i actions rs) : ends i actions = rs ++ w.place.pending := by
  have hp : ends i (w.place.begun i) = w.place.pending := by
    cases w.place <;> simp [Place.begun, Place.pending, ends, Action.end?, List.filterMap_cons]
  calc ends i actions
      = ends i (steps i rs ++ w.place.begun i) := by rw [ends_actionsOf, h.loop]
    _ = ends i (steps i rs) ++ ends i (w.place.begun i) := by simp [ends]
    _ = rs ++ w.place.pending := by rw [ends_steps, hp]

theorem count_sample (h : w.Recorded i actions rs) :
    actions.count (.sample i) = rs.length + (w.place.begun i).count (.sample i) := by
  rw [count_actionsOf (by rfl), h.loop, List.count_append, count_sample_steps]

theorem count_record (h : w.Recorded i actions rs) : actions.count (.record i) = rs.length := by
  have hp : (w.place.begun i).count (.record i) = 0 := by cases w.place <;> simp [Place.begun]
  rw [count_actionsOf (by rfl), h.loop, List.count_append, count_record_steps, hp, Nat.add_zero]

theorem recordedEnds_eq (h : w.Recorded i actions rs) : recordedEnds i actions = rs := by
  rw [recordedEnds, h.count_record, h.ends_eq, List.take_left]

theorem tally_eq (h : w.Recorded i actions rs) : w.tally = .of (measuredOutcomes i actions) := by
  rw [h.tally, measuredOutcomes, h.recordedEnds_eq]

/-- What is recorded stays as it is while others act. -/
theorem other (h : w.Recorded i actions rs) {a : Action} (ha : a.worker? ≠ some i) :
    w.Recorded i (actions ++ [a]) rs := by
  have hn : a ≠ .sample i := fun e => ha (e ▸ rfl)
  have hc := h.count_sample
  refine ⟨by simp [actionsOf_concat, ha, h.loop], ?_, ?_⟩
  · rw [warmLooks_concat fun e => absurd e hn]
    exact h.tally
  · have hg := h.agrees
    cases hp : w.place with
    | recording r p =>
      rw [hp] at hg hc
      have hk : rs.length < actions.count (.sample i) := by simp [Place.begun] at hc; omega
      exact ⟨by rw [phaseAt_concat hk]; exact hg.1, hg.2⟩
    | failed f =>
      rw [hp] at hg
      obtain ⟨before, r, g, rfl, hb, hr, rfl⟩ := hg
      have hk : before.length < actions.count (.sample i) := by
        rw [List.length_append, List.length_singleton] at hc
        omega
      exact ⟨before, r, g, rfl, hb, hr, by rw [phaseAt_concat hk]⟩
    | _ =>
      rw [hp] at hg
      exact hg

/-- The parts of a record that an action of worker `i` leaves alone, unless it is its look. -/
theorem move (h : w.Recorded i actions rs) {a : Action} (ha : a.worker? = some i)
    (hn : a ≠ .sample i) {place : Place}
    (hb : w.place.begun i ++ [a] = place.begun i)
    (hg : place.Agrees i (actions ++ [a]) rs) :
    Recorded i (actions ++ [a]) rs { w with place } := by
  refine ⟨by simp [actionsOf_concat, ha, h.loop, hb], ?_, hg⟩
  rw [warmLooks_concat fun e => absurd e hn]
  exact h.tally

theorem poll (h : w.Recorded i actions rs) (hp : w.place = .polling) (stop : Bool) :
    Recorded i (actions ++ [.poll i]) rs
      { w with place := if stop then .finished else .working } := by
  have hg : AllCompleted rs := by simpa [hp, Place.Agrees] using h.agrees
  apply h.move rfl (by simp)
  · cases stop <;> simp [hp, Place.begun]
  · cases stop <;> exact hg

theorem perform (h : w.Recorded i actions rs) (hp : w.place = .working) (r : StepResult) :
    Recorded i (actions ++ [.perform i r]) rs { w with place := .sampling r } := by
  have hg : AllCompleted rs := by simpa [hp, Place.Agrees] using h.agrees
  exact h.move rfl (by simp) (by simp [hp, Place.begun]) hg

/-- A look finds measuring begun if and only if the phase of the step is the measurement. -/
theorem sample (h : w.Recorded i actions rs) {r : StepResult} (hp : w.place = .sampling r)
    {measuring : Bool} (hm : measuring = true ↔ .arm ∈ actions) :
    Recorded i (actions ++ [.sample i]) rs
      { w with place := .recording r (if measuring then .measurement else .warmup) } := by
  have hg : AllCompleted rs := by simpa [hp, Place.Agrees] using h.agrees
  have hc : actions.count (.sample i) = rs.length := by simpa [hp, Place.begun] using h.count_sample
  have hle := warmLooks_le i actions
  have ho : actionsOf i (actions ++ [.sample i]) =
      steps i rs ++ (Place.recording r (if measuring then .measurement else .warmup)).begun i := by
    simp [actionsOf_concat, Action.worker?, h.loop, hp, Place.begun]
  by_cases hd : .arm ∈ actions
  · have hw := warmLooks_append_of_mem hd i [.sample i]
    have hph : phaseAt i (actions ++ [.sample i]) rs.length = .measurement := by
      rw [phaseAt, hw, if_neg (by omega)]
    exact ⟨ho, by rw [hw]; exact h.tally, by simp [hm.mpr hd, hph], hg⟩
  · have hs : .arm ∉ actions ++ [.sample i] := by simp [hd]
    -- Until measuring begins, every look is a warm one.
    have hw : warmLooks i (actions ++ [.sample i]) = rs.length + 1 := by
      rw [warmLooks_of_not_mem hs, List.count_append, hc]
      simp
    have hph : phaseAt i (actions ++ [.sample i]) rs.length = .warmup := by
      rw [phaseAt, hw, if_pos (by omega)]
    have ht : w.tally = .of [] := by
      rw [h.tally, warmLooks_of_not_mem hd, hc, List.drop_length]
      rfl
    refine ⟨ho, ?_, by simp [mt hm.mp hd, hph], hg⟩
    rw [hw, List.drop_eq_nil_of_le (by omega)]
    exact ht

private theorem drop_concat (h : w.Recorded i actions rs) {r : StepResult} {p : Phase}
    (hp : w.place = .recording r p) (o : Outcome) :
    Tally.of (outcomes ((rs ++ [StepResult.completed o]).drop (warmLooks i actions))) =
      if p = .measurement then w.tally.record o else w.tally := by
  have hg := h.agrees
  have hc := h.count_sample
  have hle := warmLooks_le i actions
  simp only [hp, Place.Agrees, Place.begun] at hg hc
  have hc : actions.count (.sample i) = rs.length + 1 := by simpa using hc
  rw [h.tally, hg.1, phaseAt]
  -- If this look was a warm one, then so were all before it, and nothing is counted yet.
  by_cases hk : rs.length < warmLooks i actions
  · rw [if_pos hk, if_neg (by simp), List.drop_eq_nil_of_le (by simp; omega),
      List.drop_eq_nil_of_le (by omega)]
  · rw [if_neg hk, if_pos rfl, List.drop_append_of_le_length (by omega), outcomes,
      List.filterMap_append, ← outcomes, ← Tally.of_concat]
    rfl

theorem count (h : w.Recorded i actions rs) {r : StepResult} {p : Phase} {o : Outcome}
    (hp : w.place = .recording r p) (hr : r.verdict = .ok o) :
    Recorded i (actions ++ [.record i]) (rs ++ [r])
      { w with
        place := .polling
        tally := if p = .measurement then w.tally.record o else w.tally } := by
  have hr := StepResult.verdict_eq_ok.mp hr
  have hg : AllCompleted rs := by
    have := h.agrees
    rw [hp] at this
    exact this.2
  refine ⟨?_, ?_, hr ▸ hg.concat o⟩
  · simp [actionsOf_concat, Action.worker?, h.loop, hp, Place.begun, steps, complete]
  · rw [warmLooks_concat (by simp), hr, h.drop_concat hp o]

theorem fail (h : w.Recorded i actions rs) {r : StepResult} {p : Phase} {f : Failure}
    (hp : w.place = .recording r p) (hr : r.verdict = .error f) :
    Recorded i (actions ++ [.record i]) (rs ++ [r])
      { w with place := .failed (f.during (.working i p)) } := by
  have hg := h.agrees
  have hc := h.count_sample
  rw [hp] at hg hc
  have hk : rs.length < actions.count (.sample i) := by simp [Place.begun] at hc; omega
  refine ⟨?_, ?_, rs, r, f, rfl, hg.2, hr, ?_⟩
  · simp [actionsOf_concat, Action.worker?, h.loop, hp, Place.begun, steps, complete]
  · rw [warmLooks_concat (by simp), outcomes_concat_failed hr]
    exact h.tally
  · rw [phaseAt_concat hk, ← hg.1]

end Worker.Recorded

end StoreBench.Run
