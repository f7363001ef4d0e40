import Mathlib.Algebra.Group.Action.Defs
import Mathlib.Algebra.GroupWithZero.Nat
import Mathlib.Algebra.Order.BigOperators.Group.Finset
import StoreBench.Proofs.Run.Deadlines

/-! A run is never stuck before its end, and once it is stopped it cannot go on for long. -/
namespace StoreBench.Run

/-- The number of actions that a worker is from its end, once the run is stopped. -/
def Place.distance : Place → Nat
  | polling => 1
  | working => 4
  | sampling _ => 3
  | recording _ _ => 2
  | finished => 0
  | failed _ => 0

/-- The number of actions that the coordinator is from its end, at most. -/
def Stage.distance : Stage → Nat
  | ready => 7
  | warming => 6
  | arming => 5
  | armed => 4
  | measuring => 3
  | stopping => 2
  | joining => 1
  | done _ => 0
  | unwinding => 1
  | unwound => 0

def State.distance (s : State) : Nat :=
  s.stage.distance + (s.workers.map fun w => w.place.distance).sum

theorem sum_map_set_lt {α : Type} (d : α → Nat) {xs : List α} {i : Nat} {x y : α}
    (hx : xs[i]? = some x) (h : d y < d x) : ((xs.set i y).map d).sum < (xs.map d).sum := by
  induction xs generalizing i with
  | nil => cases hx
  | cons z zs ih =>
    cases i with
    | zero =>
      obtain rfl : z = x := by simpa using hx
      simpa using h
    | succ i => simpa using ih (by simpa using hx)

theorem State.distance_setWorker_lt {s : State} {i : Nat} {w v : Worker}
    (hw : s.workers[i]? = some w) (h : v.place.distance < w.place.distance) (stop : Bool) :
    ({ s.setWorker i v with stop } : State).distance < s.distance :=
  Nat.add_lt_add_left (sum_map_set_lt (fun w : Worker => w.place.distance) hw h) _

theorem State.distance_le (s : State) : s.distance ≤ 4 * s.workers.length + 7 := by
  have hs : s.stage.distance ≤ 7 := by cases s.stage <;> simp [Stage.distance]
  have hp (p : Place) : p.distance ≤ 4 := by cases p <;> simp [Place.distance]
  have hw := List.sum_le_card_nsmul (s.workers.map fun w => w.place.distance) 4
    (List.forall_mem_map.mpr fun w _ => hp w.place)
  rw [List.length_map, smul_eq_mul] at hw
  unfold distance
  omega

/-- Every action of a run that is stopped brings it nearer to its end. -/
theorem Moves.distance_lt {c : Config} {s t : State} {a : Action} (h : Moves c s a t)
    (hs : s.stop = true) : t.distance < s.distance ∧ t.stop = true := by
  cases h with
  | poll hw hp => exact ⟨s.distance_setWorker_lt hw (by simp [hs, hp, Place.distance]) s.stop, hs⟩
  | perform hw hp r => exact ⟨s.distance_setWorker_lt hw (by simp [hp, Place.distance]) s.stop, hs⟩
  | sample hw hp => exact ⟨s.distance_setWorker_lt hw (by simp [hp, Place.distance]) s.stop, hs⟩
  | count hw hp hv => exact ⟨s.distance_setWorker_lt hw (by simp [hp, Place.distance]) s.stop, hs⟩
  | fail hw hp hv => exact ⟨s.distance_setWorker_lt hw (by simp [hp, Place.distance]) true, rfl⟩
  | endWarming h => exact ⟨by simp [State.distance, Stage.distance, h, hs], hs⟩
  | beginWarming h | beginMeasuring h | panicBefore h | panicAfter h | endMeasuring h | arm h
  | unwind h => exact ⟨by simp [State.distance, Stage.distance, h], hs⟩
  | stop h => exact ⟨by simp [State.distance, Stage.distance, h], rfl⟩
  | join h hr =>
    unfold State.collect
    split <;> exact ⟨by simp [State.distance, Stage.distance, h], hs⟩

theorem State.length_add_distance_le {c : Config} {s t : State} {more : List Action}
    (hs : s.stop = true) (hr : s.run c more = some t) : more.length + t.distance ≤ s.distance := by
  induction more generalizing s with
  | nil =>
    obtain rfl : s = t := Option.some.inj hr
    simp
  | cons a more ih =>
    rw [run_cons] at hr
    obtain ⟨u, hu, hr⟩ := Option.bind_eq_some_iff.mp hr
    obtain ⟨hd, hstop⟩ := (Moves.of_next hu).distance_lt hs
    have := ih hstop hr
    rw [List.length_cons]
    omega

theorem exists_of_mapM_eq_none {α β : Type} {f : α → Option β} {xs : List α}
    (h : xs.mapM f = none) : ∃ x ∈ xs, f x = none := by
  induction xs with
  | nil => cases h
  | cons x xs ih =>
    cases hx : f x with
    | none => exact ⟨x, List.mem_cons_self, hx⟩
    | some y =>
      have hn : xs.mapM f = none := by
        cases hm : xs.mapM f with
        | none => rfl
        | some ys => simp [hx, hm] at h
      obtain ⟨z, hz, hfz⟩ := ih hn
      exact ⟨z, List.mem_cons_of_mem _ hz, hfz⟩

theorem State.exists_running {s : State} (h : s.results? = none) :
    ∃ (i : Nat) (w : Worker), s.workers[i]? = some w ∧ w.result? = none := by
  obtain ⟨⟨w, i⟩, hw, hn⟩ := exists_of_mapM_eq_none h
  exact ⟨i, w, List.mk_mem_zipIdx_iff_getElem?.mp hw, by simpa [Worker.handIn?] using hn⟩

variable {c : Config} {fragile : List Bool} {actions : List Action} {s : State}

/-- One action of a run that is no failure of a step. -/
def GoesOn (c : Config) (s : State) (t : State) : Prop :=
  ∃ a, Moves c s a t ∧ ∀ i r, a = .perform i r → ∃ o, r = .completed o

theorem GoesOn.of_end? {t : State} {a : Action} (hm : Moves c s a t) (ha : ∀ i, a.end? i = none) :
    GoesOn c s t := by
  refine ⟨a, hm, ?_⟩
  rintro i r rfl
  simpa [Action.end?] using ha i

/-- A worker in its loop can always go on. -/
theorem State.exists_of_running {i : Nat} {w : Worker} (hw : s.workers[i]? = some w)
    (hr : w.result? = none) : ∃ t, GoesOn c s t ∧ t.stage = s.stage := by
  cases hp : w.place with
  | polling => exact ⟨_, .of_end? (.poll hw hp) fun _ => rfl, rfl⟩
  | working =>
    refine ⟨_, ⟨_, .perform hw hp (.completed .success), ?_⟩, rfl⟩
    rintro j r ⟨⟩
    exact ⟨.success, rfl⟩
  | sampling r => exact ⟨_, .of_end? (.sample hw hp) fun _ => rfl, rfl⟩
  | recording r p =>
    cases hv : r.verdict with
    | ok o => exact ⟨_, .of_end? (.count hw hp hv) fun _ => rfl, rfl⟩
    | error f => exact ⟨_, .of_end? (.fail hw hp hv) fun _ => rfl, rfl⟩
  | finished => simp [Worker.result?, hp] at hr
  | failed f => simp [Worker.result?, hp] at hr

/-- A coordinator that waits for the workers goes on, or one of them does. -/
theorem State.exists_of_waiting (hs : s.stage = .joining ∨ s.stage = .unwinding) :
    ∃ t, GoesOn c s t ∧ t.stage.panics = s.stage.panics := by
  cases hr : s.results? with
  | none =>
    obtain ⟨i, w, hw, hn⟩ := exists_running hr
    obtain ⟨t, hg, ht⟩ := exists_of_running (c := c) hw hn
    exact ⟨t, hg, congrArg Stage.panics ht⟩
  | some results =>
    rcases hs with hs | hs
    · refine ⟨_, .of_end? (.join hs hr) fun _ => rfl, ?_⟩
      unfold collect
      split <;> simp [hs, Stage.panics]
    · exact ⟨_, .of_end? (.unwind hs hr) fun _ => rfl, by simp [hs, Stage.panics]⟩

/-- Before its end, a run can always go on. -/
theorem State.exists_next (hd : s.outcome? = none) : ∃ t, GoesOn c s t := by
  cases hs : s.stage with
  | ready =>
    cases hd : hasDeadline .zero c.warmup with
    | true => exact ⟨_, .of_end? (.beginWarming hs hd) fun _ => rfl⟩
    | false => exact ⟨_, .of_end? (.panicBefore hs hd) fun _ => rfl⟩
  | warming => exact ⟨_, .of_end? (.endWarming hs) fun _ => rfl⟩
  | arming => exact ⟨_, .of_end? (.arm hs) fun _ => rfl⟩
  | armed =>
    cases hd : hasDeadline .zero c.measure with
    | true => exact ⟨_, .of_end? (.beginMeasuring hs hd) fun _ => rfl⟩
    | false => exact ⟨_, .of_end? (.panicAfter hs hd) fun _ => rfl⟩
  | measuring => exact ⟨_, .of_end? (.endMeasuring hs) fun _ => rfl⟩
  | stopping => exact ⟨_, .of_end? (.stop hs) fun _ => rfl⟩
  | joining =>
    obtain ⟨t, hg, -⟩ := exists_of_waiting (c := c) (.inl hs)
    exact ⟨t, hg⟩
  | unwinding =>
    obtain ⟨t, hg, -⟩ := exists_of_waiting (c := c) (.inr hs)
    exact ⟨t, hg⟩
  | done result => cases result <;> simp [outcome?, hs] at hd
  | unwound => simp [outcome?, hs] at hd

/-- Before its end, a run whose waits have deadlines goes on, and nearer to its end. -/
theorem State.Invariant.exists_of_deadlines (h : s.Invariant c fragile actions)
    (hd : s.outcome? = none) {now : Duration} (hw : hasDeadline now c.warmup = true)
    (hm : hasDeadline now c.measure = true) (hp : s.stage.panics = false) :
    ∃ t, GoesOn c s t ∧ t.distance < s.distance ∧ t.stage.panics = false := by
  have hst := h.staged
  cases hs : s.stage with
  | ready =>
    refine ⟨_, .of_end? (.beginWarming hs hw) fun _ => rfl, ?_, rfl⟩
    simp [State.distance, Stage.distance, hs]
  | warming =>
    refine ⟨_, .of_end? (.endWarming hs) fun _ => rfl, ?_, ?_⟩ <;>
      cases s.stop <;> simp [State.distance, Stage.distance, Stage.panics, hs]
  | arming =>
    refine ⟨_, .of_end? (.arm hs) fun _ => rfl, ?_, rfl⟩
    simp [State.distance, Stage.distance, hs]
  | armed =>
    refine ⟨_, .of_end? (.beginMeasuring hs hm) fun _ => rfl, ?_, rfl⟩
    simp [State.distance, Stage.distance, hs]
  | measuring =>
    refine ⟨_, .of_end? (.endMeasuring hs) fun _ => rfl, ?_, rfl⟩
    simp [State.distance, Stage.distance, hs]
  | stopping =>
    refine ⟨_, .of_end? (.stop hs) fun _ => rfl, ?_, rfl⟩
    simp [State.distance, Stage.distance, hs]
  | joining =>
    simp only [Staged, hs] at hst
    obtain ⟨t, ⟨a, hm, ha⟩, ht⟩ := exists_of_waiting (c := c) (.inl hs)
    exact ⟨t, ⟨a, hm, ha⟩, (hm.distance_lt hst).1, ht.trans hp⟩
  | unwinding => simp [hs, Stage.panics] at hp
  | done result => cases result <;> simp [outcome?, hs] at hd
  | unwound => simp [outcome?, hs] at hd

/-- A run that always goes on nearer to its end can be brought to it, and no step need fail. -/
theorem State.Invariant.exists_end {P : State → Prop}
    (step : ∀ {done u}, u.Invariant c fragile done → P u → u.outcome? = none →
      ∃ v, GoesOn c u v ∧ v.distance < u.distance ∧ P v)
    (h : s.Invariant c fragile actions) (hp : P s) :
    ∃ more t outcome, s.run c more = some t ∧ t.outcome? = some outcome ∧ P t ∧
      ∀ i, Completes more i := by
  -- The chosen action need not be the only one, but it makes the distance smaller.
  generalize hk : s.distance = k
  induction k using Nat.strongRecOn generalizing s actions with
  | ind k ih =>
    cases hd : s.outcome? with
    | some outcome => exact ⟨[], s, outcome, rfl, hd, hp, by simp [Completes]⟩
    | none =>
      obtain ⟨t, ⟨a, hm, ha⟩, hlt, hp⟩ := step h hp hd
      obtain ⟨more, u, outcome, hr, hu, hp, hc⟩ := ih _ (hk ▸ hlt) (h.move hm) hp rfl
      refine ⟨a :: more, u, outcome, by rw [run_cons, hm.next_eq]; exact hr, hu, hp, ?_⟩
      intro i r hr
      rcases List.mem_cons.mp hr with hr | hr
      · exact ha i r hr.symm
      · exact hc i r hr

theorem State.Invariant.exists_end_of_stop (h : s.Invariant c fragile actions)
    (hstop : s.stop = true) :
    ∃ more t outcome, s.run c more = some t ∧ t.outcome? = some outcome ∧
      ∀ i, Completes more i := by
  obtain ⟨more, t, outcome, hr, ho, -, hc⟩ := h.exists_end (P := fun u => u.stop = true)
    (fun _ hstop hd => by
      obtain ⟨v, a, hm, ha⟩ := exists_next (c := c) hd
      exact ⟨v, ⟨a, hm, ha⟩, hm.distance_lt hstop⟩) hstop
  exact ⟨more, t, outcome, hr, ho, hc⟩

theorem State.Invariant.exists_end_of_deadlines (h : s.Invariant c fragile actions)
    {now : Duration} (hw : hasDeadline now c.warmup = true)
    (hm : hasDeadline now c.measure = true) (hp : s.stage.panics = false) :
    ∃ more t outcome, s.run c more = some t ∧ t.outcome? = some outcome ∧
      t.stage.panics = false ∧ ∀ i, Completes more i :=
  h.exists_end (P := fun u => u.stage.panics = false)
    (fun hi hp hd => hi.exists_of_deadlines hd hw hm hp) hp

end StoreBench.Run
