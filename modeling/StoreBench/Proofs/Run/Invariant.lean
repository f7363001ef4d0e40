import StoreBench.Proofs.Run.Recorded

/-! What holds at any time of a run: of the workers, of the coordinator and of the log. -/
namespace StoreBench.Run

def opening (c : Config) (workers : Nat) (measuring : Bool) : List Event :=
  .warmingUp workers c.warmup :: if measuring then [.measuring c.measure] else []

/-- The records of the end of a run, once it has been stopped. -/
def Stage.closing : Stage → List Event
  | joining => [.stopping]
  | done (.ok tallies) => .stopping :: State.tallied tallies
  | done (.error f) => [.stopping, .failed f]
  | _ => []

/-- What the stage of a run says about its signals and its workers. -/
def State.Staged (s : State) : Prop :=
  match s.stage with
  | .ready => s.measuring = false
  | .warming => s.measuring = false
  | .arming => s.measuring = false
  | .armed => s.measuring = true
  | .joining => s.stop = true
  | .done result => ∃ results, s.results? = some results ∧ results.mapM id = result
  | .unwound => ∃ results, s.results? = some results
  | _ => True

structure State.Invariant (c : Config) (fragile : List Bool) (actions : List Action) (s : State) :
    Prop where
  workers : s.workers.map Worker.fragile = fragile
  bounded : ∀ a ∈ actions, ∀ i, a.worker? = some i → i < fragile.length
  recorded : ∀ i (w : Worker), s.workers[i]? = some w → ∃ rs, w.Recorded i actions rs
  measuring : s.measuring = true ↔ .arm ∈ actions
  staged : s.Staged
  log : s.log = opening c fragile.length s.measuring ++ s.stage.closing

theorem mapM_eq_some_iff {α β : Type} {f : α → Option β} {xs : List α} {ys : List β} :
    xs.mapM f = some ys ↔ xs.map f = ys.map some := by
  induction xs generalizing ys with
  | nil => cases ys <;> simp
  | cons x xs ih =>
    cases hx : f x with
    | none => cases ys <;> simp [hx]
    | some y =>
      cases ys with
      | nil => cases h : xs.mapM f <;> simp [hx, h]
      | cons z zs => cases h : xs.mapM f <;> simp [hx, h, ← ih]

theorem map_set_of_eq {α β : Type} (f : α → β) {xs : List α} {i : Nat} {x y : α}
    (hx : xs[i]? = some x) (h : f y = f x) : (xs.set i y).map f = xs.map f := by
  obtain ⟨hi, rfl⟩ := List.getElem?_eq_some_iff.mp hx
  have hj : i < (xs.map f).length := by simpa using hi
  have : f xs[i] = (xs.map f)[i] := (List.getElem_map f).symm
  rw [List.map_set, h, this, List.set_getElem_self hj]

theorem State.results?_eq_some {s : State} {results : List (Except Failure Tally)} :
    s.results? = some results ↔
      s.workers.zipIdx.map (fun (w, i) => w.handIn? i) = results.map some :=
  mapM_eq_some_iff

theorem State.handIn?_eq {s : State} {results : List (Except Failure Tally)}
    (h : s.results? = some results) (i : Nat) :
    (s.workers[i]?).map (Worker.handIn? i) = results[i]?.map some := by
  simpa [Option.map_map, Function.comp_def] using congrArg (·[i]?) (results?_eq_some.mp h)

theorem State.exists_handIn {s : State} {results : List (Except Failure Tally)}
    (h : s.results? = some results) {i : Nat} {w : Worker} (hw : s.workers[i]? = some w) :
    ∃ r, results[i]? = some r ∧ w.handIn? i = some r := by
  have he := handIn?_eq h i
  rw [hw] at he
  obtain ⟨r, hr, he⟩ := Option.map_eq_some_iff.mp he.symm
  exact ⟨r, hr, he.symm⟩

theorem startWith_eq_ok {c : Config} {fragile : List Bool} {s : State}
    (h : startWith c fragile = .ok s) : fragile ≠ [] ∧ c.measure ≠ .zero ∧
      s = ⟨false, false, .ready, fragile.map .initial, [.warmingUp fragile.length c.warmup]⟩ := by
  unfold startWith at h
  split at h
  · cases h
  · next hn =>
    by_cases hm : c.measure = .zero
    · simp [Config.validate, hm, bind, Except.bind] at h
    · simp only [Config.validate, hm, if_false, bind, Except.bind, pure, Except.pure,
        List.length_map] at h
      exact ⟨hn, hm, (Except.ok.inj h).symm⟩

namespace State.Invariant

variable {c : Config} {fragile : List Bool} {actions : List Action} {s : State}

theorem length (h : s.Invariant c fragile actions) : s.workers.length = fragile.length := by
  simpa using congrArg List.length h.workers

theorem fragile_eq (h : s.Invariant c fragile actions) {i : Nat} {w : Worker}
    (hw : s.workers[i]? = some w) : fragile[i]? = some w.fragile := by
  simpa [hw] using (congrArg (·[i]?) h.workers).symm

theorem ofStart (h : startWith c fragile = .ok s) : s.Invariant c fragile [] := by
  obtain ⟨-, -, rfl⟩ := startWith_eq_ok h
  refine ⟨by simp [Function.comp_def, Worker.initial], by simp, ?_, by simp, rfl, rfl⟩
  intro i w hw
  obtain ⟨b, -, rfl⟩ : ∃ b, fragile[i]? = some b ∧ Worker.initial b = w := by simpa using hw
  exact ⟨[], .initial i b⟩

theorem results?_eq_none {i : Nat} {w : Worker} (hw : s.workers[i]? = some w)
    (hr : w.result? = none) : s.results? = none := by
  rw [Option.eq_none_iff_forall_ne_some]
  intro results hres
  obtain ⟨r, -, hh⟩ := exists_handIn hres hw
  simp [Worker.handIn?, hr] at hh

/-- A worker that is still in its loop keeps the run from its end. -/
theorem stage_ne_done (h : s.Invariant c fragile actions) {i : Nat} {w : Worker}
    (hw : s.workers[i]? = some w) (hr : w.result? = none) (result : Except Failure (List Tally)) :
    s.stage ≠ .done result := by
  intro hs
  have hst := h.staged
  simp [Staged, hs, results?_eq_none hw hr] at hst

theorem stage_ne_unwound (h : s.Invariant c fragile actions) {i : Nat} {w : Worker}
    (hw : s.workers[i]? = some w) (hr : w.result? = none) : s.stage ≠ .unwound := by
  intro hs
  have hst := h.staged
  simp [Staged, hs, results?_eq_none hw hr] at hst

/-- An action of a worker that leaves the coordinator alone. -/
theorem work (h : s.Invariant c fragile actions) {a : Action} {i : Nat} {w v : Worker}
    (hw : s.workers[i]? = some w) (hr : w.result? = none) (ha : a.worker? = some i)
    (hv : ∀ {rs}, w.Recorded i actions rs → ∃ rs, v.Recorded i (actions ++ [a]) rs)
    (hf : v.fragile = w.fragile) {stop : Bool} (hs : s.stop = true → stop = true) :
    State.Invariant c fragile (actions ++ [a]) { s.setWorker i v with stop } := by
  have hi : i < fragile.length := h.length ▸ (List.getElem?_eq_some_iff.mp hw).1
  refine ⟨?_, ?_, ?_, ?_, ?_, h.log⟩
  · rw [← h.workers]
    exact map_set_of_eq Worker.fragile hw hf
  · intro b hb j hj
    rcases List.mem_append.mp hb with hb | hb
    · exact h.bounded b hb j hj
    · rw [List.mem_singleton.mp hb, ha] at hj
      exact Option.some.inj hj ▸ hi
  · intro j u hu
    by_cases hj : j = i
    · subst hj
      obtain ⟨rs, hrs⟩ := h.recorded j w hw
      have hlt : j < s.workers.length := (List.getElem?_eq_some_iff.mp hw).1
      have : v = u := by simpa [setWorker, List.getElem?_set_self hlt] using hu
      exact this ▸ hv hrs
    · have hu : s.workers[j]? = some u := by
        simpa [setWorker, List.getElem?_set_ne (Ne.symm hj)] using hu
      obtain ⟨rs, hrs⟩ := h.recorded j u hu
      exact ⟨rs, hrs.other (by rw [ha]; simpa using Ne.symm hj)⟩
  · have : a ≠ .arm := by rintro rfl; cases ha
    simpa [setWorker, Ne.symm this] using h.measuring
  · have hst := h.staged
    unfold Staged at hst ⊢
    cases hg : s.stage with
    | done result => exact absurd hg (h.stage_ne_done hw hr result)
    | unwound => exact absurd hg (h.stage_ne_unwound hw hr)
    | joining => simp only [hg, setWorker] at hst ⊢; exact hs hst
    | ready | warming | arming | armed => simpa only [hg, setWorker] using hst
    | _ => simp only [hg, setWorker]

/-- An action of the coordinator, which leaves the workers alone. -/
theorem coordinate (h : s.Invariant c fragile actions) {a : Action} (ha : a.worker? = none)
    {t : State} (hw : t.workers = s.workers)
    (hm : t.measuring = true ↔ s.measuring = true ∨ a = .arm) (hs : t.Staged)
    (hl : t.log = opening c fragile.length t.measuring ++ t.stage.closing) :
    t.Invariant c fragile (actions ++ [a]) := by
  refine ⟨hw ▸ h.workers, ?_, ?_, ?_, hs, hl⟩
  · intro b hb j hj
    rcases List.mem_append.mp hb with hb | hb
    · exact h.bounded b hb j hj
    · rw [List.mem_singleton.mp hb, ha] at hj
      cases hj
  · intro j u hu
    obtain ⟨rs, hrs⟩ := h.recorded j u (hw ▸ hu)
    exact ⟨rs, hrs.other (by simp [ha])⟩
  · rw [hm, h.measuring, List.mem_append, List.mem_singleton, eq_comm (a := a)]

theorem move (h : s.Invariant c fragile actions) {a : Action} {t : State} (hm : Moves c s a t) :
    t.Invariant c fragile (actions ++ [a]) := by
  have hst := h.staged
  have hlog := h.log
  cases hm with
  | poll hw hp =>
    exact h.work hw (by simp [Worker.result?, hp]) rfl (fun hr => ⟨_, hr.poll hp s.stop⟩) rfl
      id
  | perform hw hp r =>
    exact h.work hw (by simp [Worker.result?, hp]) rfl (fun hr => ⟨_, hr.perform hp r⟩) rfl id
  | sample hw hp =>
    exact h.work hw (by simp [Worker.result?, hp]) rfl
      (fun hr => ⟨_, hr.sample hp h.measuring⟩) rfl id
  | count hw hp hv =>
    exact h.work hw (by simp [Worker.result?, hp]) rfl (fun hr => ⟨_, hr.count hp hv⟩) rfl
      id
  | fail hw hp hv =>
    exact h.work hw (by simp [Worker.result?, hp]) rfl (fun hr => ⟨_, hr.fail hp hv⟩) rfl
      (fun _ => rfl)
  | beginWarming hs =>
    simp only [Staged, hs] at hst
    simp only [hs, Stage.closing] at hlog
    exact h.coordinate rfl rfl (by simp) hst hlog
  | beginMeasuring hs | panicBefore hs | panicAfter hs =>
    simp only [hs, Stage.closing] at hlog
    exact h.coordinate rfl rfl (by simp) trivial hlog
  | endWarming hs =>
    simp only [Staged, hs] at hst
    simp only [hs, Stage.closing] at hlog
    cases hstop : s.stop
    · exact h.coordinate rfl rfl (by simp) hst hlog
    · exact h.coordinate rfl rfl (by simp) trivial hlog
  | endMeasuring hs =>
    simp only [hs, Stage.closing] at hlog
    exact h.coordinate rfl rfl (by simp) trivial hlog
  | arm hs =>
    simp only [Staged, hs] at hst
    simp only [hs, hst, Stage.closing] at hlog
    exact h.coordinate rfl rfl (by simp) rfl (by simp [hlog, opening, Stage.closing])
  | stop hs =>
    simp only [hs, Stage.closing] at hlog
    exact h.coordinate rfl rfl (by simp) rfl (by simp [hlog, Stage.closing])
  | @join results hs hr =>
    simp only [hs, Stage.closing] at hlog
    unfold collect
    split
    · next tallies ht =>
      exact h.coordinate rfl rfl (by simp) ⟨results, hr, ht⟩ (by simp [hlog, Stage.closing])
    · next f hf =>
      exact h.coordinate rfl rfl (by simp) ⟨results, hr, hf⟩ (by simp [hlog, Stage.closing])
  | unwind hs hr =>
    simp only [hs, Stage.closing] at hlog
    exact h.coordinate rfl rfl (by simp) ⟨_, hr⟩ hlog

theorem ofRun (h : startWith c fragile = .ok s) {t : State} (hr : s.run c actions = some t) :
    t.Invariant c fragile actions :=
  run_induction (ofStart h) (fun hi hm => hi.move hm) hr

end State.Invariant

end StoreBench.Run
