import Mathlib.Data.List.Induction
import StoreBench.Run.Schedule

/-! Every way in which a run goes on, one for each action and what it meets. -/
namespace StoreBench.Run

/-- What an action does to a run, with the conditions under which it is possible. -/
inductive Moves (c : Config) (s : State) : Action → State → Prop where
  | poll {i : Nat} {w : Worker} (hw : s.workers[i]? = some w) (hp : w.place = .polling) :
      Moves c s (.poll i)
        (s.setWorker i { w with place := if s.stop then .finished else .working })
  | perform {i : Nat} {w : Worker} (hw : s.workers[i]? = some w) (hp : w.place = .working)
      (r : StepResult) :
      Moves c s (.perform i r) (s.setWorker i { w with place := .sampling r })
  | sample {i : Nat} {w : Worker} {r : StepResult} (hw : s.workers[i]? = some w)
      (hp : w.place = .sampling r) :
      Moves c s (.sample i) (s.setWorker i
        { w with place := .recording r (if s.measuring then .measurement else .warmup) })
  | count {i : Nat} {w : Worker} {r : StepResult} {p : Phase} {o : Outcome}
      (hw : s.workers[i]? = some w) (hp : w.place = .recording r p) (hr : r.verdict = .ok o) :
      Moves c s (.record i)
        (s.setWorker i { w with
          place := .polling
          tally := if p = .measurement then w.tally.record o else w.tally })
  | fail {i : Nat} {w : Worker} {r : StepResult} {p : Phase} {f : Failure}
      (hw : s.workers[i]? = some w) (hp : w.place = .recording r p) (hr : r.verdict = .error f) :
      Moves c s (.record i)
        { s.setWorker i { w with place := .failed (f.during (.working i p)) } with stop := true }
  | beginWarming {now : Duration} (hs : s.stage = .ready) (hd : hasDeadline now c.warmup = true) :
      Moves c s (.wait now) { s with stage := .warming }
  | beginMeasuring {now : Duration} (hs : s.stage = .armed)
      (hd : hasDeadline now c.measure = true) :
      Moves c s (.wait now) { s with stage := .measuring }
  | panicBefore {now : Duration} (hs : s.stage = .ready)
      (hd : hasDeadline now c.warmup = false) :
      Moves c s (.wait now) { s with stage := .unwinding }
  | panicAfter {now : Duration} (hs : s.stage = .armed)
      (hd : hasDeadline now c.measure = false) :
      Moves c s (.wait now) { s with stage := .unwinding }
  | endWarming (hs : s.stage = .warming) :
      Moves c s .wake { s with stage := if s.stop then .stopping else .arming }
  | endMeasuring (hs : s.stage = .measuring) : Moves c s .wake { s with stage := .stopping }
  | arm (hs : s.stage = .arming) :
      Moves c s .arm
        { s with measuring := true, stage := .armed, log := s.log ++ [.measuring c.measure] }
  | stop (hs : s.stage = .stopping) :
      Moves c s .stop { s with stop := true, stage := .joining, log := s.log ++ [.stopping] }
  | join {results : List (Except Failure Tally)} (hs : s.stage = .joining)
      (hr : s.results? = some results) : Moves c s .join (s.collect results)
  | unwind {results : List (Except Failure Tally)} (hs : s.stage = .unwinding)
      (hr : s.results? = some results) : Moves c s .unwind { s with stage := .unwound }

theorem Moves.of_next {c : Config} {s t : State} {a : Action} (h : s.next c a = some t) :
    Moves c s a t := by
  cases a with
  | poll i =>
    obtain ⟨w, hw, h⟩ := Option.bind_eq_some_iff.mp h
    simp only [State.work] at h
    split at h
    · next hp => exact Option.some.inj h ▸ .poll hw hp
    · cases h
  | perform i r =>
    obtain ⟨w, hw, h⟩ := Option.bind_eq_some_iff.mp h
    simp only [State.work] at h
    split at h
    · next hp => exact Option.some.inj h ▸ .perform hw hp r
    · cases h
  | sample i =>
    obtain ⟨w, hw, h⟩ := Option.bind_eq_some_iff.mp h
    simp only [State.work] at h
    split at h
    · next r hp => exact Option.some.inj h ▸ .sample hw hp
    · cases h
  | record i =>
    obtain ⟨w, hw, h⟩ := Option.bind_eq_some_iff.mp h
    simp only [State.work] at h
    split at h
    · next r p hp =>
      split at h
      · next o hr => exact Option.some.inj h ▸ .count hw hp hr
      · next f hr => exact Option.some.inj h ▸ .fail hw hp hr
    · cases h
  | wait now =>
    simp only [State.next] at h
    split at h
    · next hs =>
      cases hd : hasDeadline now c.warmup
      · exact Option.some.inj (by simpa [hd] using h) ▸ .panicBefore hs hd
      · exact Option.some.inj (by simpa [hd] using h) ▸ .beginWarming hs hd
    · next hs =>
      cases hd : hasDeadline now c.measure
      · exact Option.some.inj (by simpa [hd] using h) ▸ .panicAfter hs hd
      · exact Option.some.inj (by simpa [hd] using h) ▸ .beginMeasuring hs hd
    · cases h
  | wake =>
    simp only [State.next] at h
    split at h
    · next hs => exact Option.some.inj h ▸ .endWarming hs
    · next hs => exact Option.some.inj h ▸ .endMeasuring hs
    · cases h
  | arm =>
    simp only [State.next] at h
    split at h
    · next hs => exact Option.some.inj h ▸ .arm hs
    · cases h
  | stop =>
    simp only [State.next] at h
    split at h
    · next hs => exact Option.some.inj h ▸ .stop hs
    · cases h
  | join =>
    simp only [State.next] at h
    split at h
    · next hs =>
      obtain ⟨results, hr, rfl⟩ := Option.map_eq_some_iff.mp h
      exact .join hs hr
    · cases h
  | unwind =>
    simp only [State.next] at h
    split at h
    · next hs =>
      obtain ⟨results, hr, rfl⟩ := Option.map_eq_some_iff.mp h
      exact .unwind hs hr
    · cases h

theorem Moves.next_eq {c : Config} {s t : State} {a : Action} (h : Moves c s a t) :
    s.next c a = some t := by
  cases h with
  | poll hw hp => simp [State.next, State.work, hw, hp]
  | perform hw hp r => simp [State.next, State.work, hw, hp]
  | sample hw hp => simp [State.next, State.work, hw, hp]
  | count hw hp hr => simp [State.next, State.work, hw, hp, hr]
  | fail hw hp hr => simp [State.next, State.work, hw, hp, hr]
  | beginWarming hs hd => simp [State.next, hs, hd]
  | beginMeasuring hs hd => simp [State.next, hs, hd]
  | panicBefore hs hd => simp [State.next, hs, hd]
  | panicAfter hs hd => simp [State.next, hs, hd]
  | endWarming hs => simp [State.next, hs]
  | endMeasuring hs => simp [State.next, hs]
  | arm hs => simp [State.next, hs]
  | stop hs => simp [State.next, hs]
  | join hs hr => simp [State.next, hs, hr]
  | unwind hs hr => simp [State.next, hs, hr]

namespace State

theorem run_cons (c : Config) (s : State) (a : Action) (rest : List Action) :
    s.run c (a :: rest) = (s.next c a).bind fun t => t.run c rest := by
  simp [run]

theorem run_append (c : Config) (s : State) (before after : List Action) :
    s.run c (before ++ after) = (s.run c before).bind fun t => t.run c after := by
  simp [run]

section Joining

variable {c : Config} {s t u : State} {actions more : List Action} {a : Action}

theorem run_trans (hr : s.run c actions = some t) (hm : t.run c more = some u) :
    s.run c (actions ++ more) = some u := by
  rw [run_append, hr]
  exact hm

end Joining

/-- What holds at the start and is kept by every action holds after every run. -/
theorem run_induction {c : Config} {s : State} {P : List Action → State → Prop} (start : P [] s)
    (step : ∀ {done t a u}, P done t → Moves c t a u → P (done ++ [a]) u)
    {actions : List Action} {t : State} (h : s.run c actions = some t) : P actions t := by
  induction actions using List.reverseRecOn generalizing t with
  | nil => exact Option.some.inj h ▸ start
  | append_singleton done a ih =>
    rw [run_append] at h
    obtain ⟨u, hu, h⟩ := Option.bind_eq_some_iff.mp h
    rw [run_cons] at h
    obtain ⟨v, hv, h⟩ := Option.bind_eq_some_iff.mp h
    have : v = t := Option.some.inj h
    exact this ▸ step (ih hu) (.of_next hv)

end State

end StoreBench.Run
