import StoreBench.Proofs.Run.Invariant

/-!
Deadlines: a wait whose end the clock cannot tell is a panic of the coordinator, which does not stop
the workers. After it, only a worker that fails stops the run.
-/
namespace StoreBench.Run

/-- The coordinator begins a wait that ends later than the clock can tell. -/
def Overflows (c : Config) (actions : List Action) : Prop :=
  ∃ before now, before ++ [.wait now] <+: actions ∧
    clockLimit * 1000000000 ≤ now.inNanos + (if .arm ∈ before then c.measure else c.warmup).inNanos

def Stage.panics : Stage → Bool
  | unwinding => true
  | unwound => true
  | _ => false

/-- A worker has left its loop because of a failure. -/
def State.HasFailed (s : State) : Prop := ∃ (i : Nat) (w : Worker) (f : Failure),
  s.workers[i]? = some w ∧ w.place = .failed f

variable {c : Config} {fragile : List Bool} {s t : State} {a : Action} {actions : List Action}

theorem hasDeadline_eq_true {now timeout : Duration} : hasDeadline now timeout = true ↔
    now.inNanos + timeout.inNanos < clockLimit * 1000000000 := by
  have hn := now.nanos.isLt
  have ht := timeout.nanos.isLt
  rw [hasDeadline, decide_eq_true_eq]
  simp only [Duration.inNanos, clockLimit]
  omega

theorem hasDeadline_eq_false {now timeout : Duration} : hasDeadline now timeout = false ↔
    clockLimit * 1000000000 ≤ now.inNanos + timeout.inNanos := by
  rw [← Bool.not_eq_true, hasDeadline_eq_true, Nat.not_lt]

theorem not_overflows_nil : ¬ Overflows c [] := by
  rintro ⟨before, now, hp, -⟩
  simp at hp

theorem overflows_concat {done : List Action} : Overflows c (done ++ [a]) ↔
    Overflows c done ∨ ∃ now, a = .wait now ∧ clockLimit * 1000000000 ≤
      now.inNanos + (if .arm ∈ done then c.measure else c.warmup).inNanos := by
  constructor
  · rintro ⟨before, now, hp, hle⟩
    rcases List.prefix_concat_iff.mp hp with heq | hp
    · obtain ⟨rfl, ha⟩ := List.append_inj' heq rfl
      exact .inr ⟨now, (List.cons.inj ha).1.symm, hle⟩
    · exact .inl ⟨before, now, hp, hle⟩
  · rintro (⟨before, now, hp, hle⟩ | ⟨now, rfl, hle⟩)
    · exact ⟨before, now, hp.trans (List.prefix_append done [a]), hle⟩
    · exact ⟨done, now, List.prefix_rfl, hle⟩

/-- Whether a wait is a panic is for the phase to say in which it begins. -/
theorem overflows_concat_wait {done : List Action} (h : s.Invariant c fragile done)
    (now : Duration) : Overflows c (done ++ [.wait now]) ↔ Overflows c done ∨
      hasDeadline now (if s.measuring then c.measure else c.warmup) = false := by
  rw [overflows_concat, hasDeadline_eq_false]
  by_cases hm : s.measuring = true
  · simp [hm, h.measuring.mp hm]
  · simp [hm, mt h.measuring.mpr hm]

theorem Moves.panics_iff {done : List Action} (hm : Moves c s a t)
    (h : s.Invariant c fragile done) (hp : s.stage.panics = true ↔ Overflows c done) :
    t.stage.panics = true ↔ Overflows c (done ++ [a]) := by
  have hst := h.staged
  cases hm with
  | beginWarming hs hd | panicBefore hs hd | beginMeasuring hs hd | panicAfter hs hd =>
    rw [overflows_concat_wait h, ← hp]
    simp only [State.Staged, hs] at hst
    simp [hs, hst, hd, Stage.panics]
  | endWarming hs =>
    rw [overflows_concat, ← hp]
    cases hstop : s.stop <;> simp [hs, Stage.panics]
  | join hs =>
    rw [overflows_concat, ← hp]
    unfold State.collect
    split <;> simp [hs, Stage.panics]
  | poll | perform | sample | count | fail =>
    rw [overflows_concat, ← hp]
    simp [State.setWorker]
  | endMeasuring hs | arm hs | stop hs | unwind hs =>
    rw [overflows_concat, ← hp]
    simp [hs, Stage.panics]

theorem panics_iff_overflows (hs : startWith c fragile = .ok s) (hr : s.run c actions = some t) :
    t.stage.panics = true ↔ Overflows c actions := by
  have hstart : s.stage.panics = true ↔ Overflows c [] := by
    obtain ⟨-, -, rfl⟩ := startWith_eq_ok hs
    simp [Stage.panics, not_overflows_nil]
  exact (State.run_induction (P := fun done u => u.Invariant c fragile done ∧
    (u.stage.panics = true ↔ Overflows c done)) ⟨.ofStart hs, hstart⟩
    (fun h hm => ⟨h.1.move hm, hm.panics_iff h.1 h.2⟩) hr).2

namespace Moves

variable {i : Nat}

end Moves

def Stage.hasStopped : Stage → Bool
  | joining => true
  | done _ => true
  | _ => false

/-- Who lets a run stop: the coordinator, or a worker that fails. Only then do workers finish. -/
structure State.StopCaused (s : State) : Prop where
  cause : s.stop = true → s.stage.hasStopped = true ∨ s.HasFailed
  finished : ∀ w ∈ s.workers, w.place = .finished → s.stop = true

namespace State.StopCaused

theorem ofStart (h : startWith c fragile = .ok s) : s.StopCaused := by
  obtain ⟨-, -, rfl⟩ := startWith_eq_ok h
  refine ⟨by simp, ?_⟩
  intro w hw hp
  obtain ⟨b, -, rfl⟩ := List.mem_map.mp hw
  cases hp

/-- A worker that goes on without a failure finishes only if the run is to stop. -/
theorem setWorker (h : s.StopCaused) {i : Nat} {w v : Worker} (hw : s.workers[i]? = some w)
    (hr : w.result? = none) (hv : v.place = .finished → s.stop = true) :
    (s.setWorker i v).StopCaused := by
  refine ⟨?_, ?_⟩
  · intro hs
    refine (h.cause hs).imp_right ?_
    rintro ⟨j, u, f, hu, hp⟩
    have hne : i ≠ j := by
      rintro rfl
      obtain rfl := Option.some.inj (hw.symm.trans hu)
      simp [Worker.result?, hp] at hr
    exact ⟨j, u, f, (List.getElem?_set_ne hne).trans hu, hp⟩
  · intro u hu hp
    rcases List.mem_or_eq_of_mem_set hu with hu | rfl
    · exact h.finished u hu hp
    · exact hv hp

end State.StopCaused

theorem Moves.stopCaused (hm : Moves c s a t) (h : s.StopCaused) : t.StopCaused := by
  cases hm with
  | poll hw hp =>
    refine h.setWorker hw (by simp [Worker.result?, hp]) ?_
    cases s.stop <;> simp
  | perform hw hp | sample hw hp | count hw hp =>
    exact h.setWorker hw (by simp [Worker.result?, hp]) (by simp)
  | fail hw hp hv =>
    have hlt := (List.getElem?_eq_some_iff.mp hw).1
    exact ⟨fun _ => .inr ⟨_, _, _, List.getElem?_set_self hlt, rfl⟩, fun _ _ _ => rfl⟩
  | stop => exact ⟨fun _ => .inl rfl, fun _ _ _ => rfl⟩
  | join =>
    unfold State.collect
    split <;> exact ⟨fun _ => .inl rfl, h.finished⟩
  | beginWarming hs | beginMeasuring hs | panicBefore hs | panicAfter hs | endWarming hs
  | endMeasuring hs | arm hs | unwind hs =>
    have hc := h.cause
    simp only [hs, Stage.hasStopped, Bool.false_eq_true, false_or] at hc
    exact ⟨fun hstop => .inr (hc hstop), h.finished⟩

/-- A panic of the coordinator comes to its end only after a failure of a worker. -/
theorem hasFailed_of_unwound (hs : startWith c fragile = .ok s) (hr : s.run c actions = some t)
    (ht : t.stage = .unwound) : t.HasFailed := by
  have hi := State.Invariant.ofRun hs hr
  have hc : t.StopCaused := State.run_induction (.ofStart hs) (fun h hm => hm.stopCaused h) hr
  have hst := hi.staged
  simp only [State.Staged, ht] at hst
  obtain ⟨results, hres⟩ := hst
  have hpos : 0 < t.workers.length := hi.length ▸ List.length_pos_iff.mpr (startWith_eq_ok hs).1
  have hw : t.workers[0]? = some t.workers[0] := List.getElem?_eq_getElem hpos
  obtain ⟨r, -, hh⟩ := State.exists_handIn hres hw
  -- The first worker has left its loop: it failed, or it found that the run is to stop.
  cases hp : t.workers[0].place with
  | failed f => exact ⟨0, _, f, hw, hp⟩
  | finished =>
    have hcause := hc.cause (hc.finished _ (List.getElem_mem hpos) hp)
    simpa [ht, Stage.hasStopped] using hcause
  | _ => simp [Worker.handIn?, Worker.result?, hp] at hh

end StoreBench.Run
