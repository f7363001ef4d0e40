import StoreBench.Proofs.Run.Counting
import StoreBench.Proofs.Run.Progress

/-!
Endings: a run whose waits have deadlines fails if and only if a step of it does or a worker panics
when it is dropped, and then it names the first such worker in the order of the workers.
-/
namespace StoreBench.Run

/-- A run from its beginning to its end: the actions, the outcome and the log. -/
inductive Whole (c : Config) (fragile : List Bool) :
    List Action → Except Abort (List Tally) → List Event → Prop where
  | refused {f : Failure} (h : startWith c fragile = .error f) :
      Whole c fragile [] (.error (.failure f)) []
  | ended {actions : List Action} {s t : State} {outcome : Except Abort (List Tally)}
      (hs : startWith c fragile = .ok s) (hr : s.run c actions = some t)
      (ho : t.outcome? = some outcome) : Whole c fragile actions outcome t.log

/-- What is wrong with a step that was not completed, from the outside in. -/
def StepResult.complaint : StepResult → List String
  | completed _ => []
  | failed f => f.chain
  | panicked (.text message) => ["panicked: " ++ message]
  | panicked .other => ["panicked: non-string panic payload"]

/-- Worker `i` performs a step that is not completed, and finds that it is in `phase`. -/
def Fails (actions : List Action) (i : Nat) (r : StepResult) (phase : Phase) : Prop :=
  (∀ o, r ≠ .completed o) ∧ ∃ before between after,
    actions = before ++ .perform i r :: (between ++ .sample i :: after) ∧
    (∀ a ∈ between, a.worker? ≠ some i) ∧
    phase = if .arm ∈ before ++ between then .measurement else .warmup

/-- Worker `i` fails with `f`: it panics when it is dropped, or else a step of it was not
completed. -/
def FailsWith (fragile : List Bool) (actions : List Action) (i : Nat) (f : Failure) : Prop :=
  if fragile[i]? = some true then f.chain = [s!"worker {i} panicked"]
  else ∃ r phase, Fails actions i r phase ∧
    f.chain = s!"worker {i} failed during {phase.name}" :: r.complaint

def Succeeds (fragile : List Bool) (actions : List Action) (i : Nat) : Prop :=
  fragile[i]? ≠ some true ∧ Completes actions i

theorem FailsWith.not_succeeds {fragile : List Bool} {actions : List Action} {i : Nat}
    {f : Failure} (h : FailsWith fragile actions i f) : ¬ Succeeds fragile actions i := by
  rintro ⟨hn, hc⟩
  rw [FailsWith, if_neg hn] at h
  obtain ⟨r, _, ⟨hr, before, between, after, rfl, -⟩, -⟩ := h
  obtain ⟨o, ho⟩ := hc r (by simp)
  exact hr o ho

theorem StepResult.chain_of_verdict {r : StepResult} {f : Failure} (h : r.verdict = .error f) :
    f.chain = r.complaint ∧ ∀ o, r ≠ .completed o := by
  cases r with
  | completed o => cases h
  | failed g =>
    obtain rfl := Except.error.inj h
    exact ⟨rfl, by simp⟩
  | panicked p =>
    obtain rfl := Except.error.inj h
    refine ⟨?_, by simp⟩
    cases p <;> rfl

theorem mem_ends {i : Nat} {r : StepResult} {actions : List Action} :
    r ∈ ends i actions ↔ .perform i r ∈ actions := by
  have h (a : Action) : a.end? i = some r ↔ a = .perform i r := by
    cases a with
    | perform j q =>
      by_cases hj : j = i <;> simp [Action.end?, hj]
    | _ => simp [Action.end?]
  simp [ends, h]

theorem mapM_id_eq_error {ε α : Type} {rs : List (Except ε α)} {e : ε}
    (h : rs.mapM id = .error e) :
    ∃ (xs : List α) (rest : List (Except ε α)), rs = xs.map .ok ++ .error e :: rest := by
  induction rs with
  | nil => cases h
  | cons r rs ih =>
    cases r with
    | error d =>
      have : d = e := by simpa [bind, Except.bind] using h
      exact ⟨[], rs, by simp [this]⟩
    | ok x =>
      have hrs : rs.mapM id = .error e := by
        cases hm : rs.mapM id <;> simp_all [bind, Except.bind, pure, Except.pure]
      obtain ⟨xs, rest, rfl⟩ := ih hrs
      exact ⟨x :: xs, rest, rfl⟩

theorem split_of_filter {α : Type} {p : α → Bool} {xs before after : List α} {x y : α}
    (h : xs.filter p = before ++ x :: y :: after) :
    ∃ ys between zs, xs = ys ++ x :: (between ++ y :: zs) ∧ ys.filter p = before ∧
      ∀ a ∈ between, ¬ p a = true := by
  obtain ⟨front, back, rfl, rfl, hb⟩ := List.filter_eq_append_iff.mp h
  obtain ⟨gap, back, rfl, hg, -, hb⟩ := List.filter_eq_cons_iff.mp hb
  obtain ⟨between, zs, rfl, hn, -, -⟩ := List.filter_eq_cons_iff.mp hb
  refine ⟨front ++ gap, between, zs, by simp, ?_, hn⟩
  simpa [List.filter_append] using hg

namespace State.Invariant

variable {c : Config} {fragile : List Bool} {actions : List Action} {t : State} {i : Nat}
  {w : Worker}

/-- A worker goes on to its next round, or leaves its loop for the stop, only if all its steps were
completed. -/
theorem completes (h : t.Invariant c fragile actions) (hw : t.workers[i]? = some w)
    (hp : w.place = .polling ∨ w.place = .working ∨ w.place = .finished) : Completes actions i := by
  intro r hr
  obtain ⟨rs, hrs⟩ := h.recorded i w hw
  have he := hrs.ends_eq
  have hg := hrs.agrees
  rcases hp with hp | hp | hp <;>
    simp only [hp, Place.pending, Place.Agrees, List.append_nil] at he hg <;>
    exact hg r (he ▸ mem_ends.mpr hr)

/-- A worker that left its loop because of a failure hands in that of its last step, with the phase
that it found. -/
theorem fails (h : t.Invariant c fragile actions) (hw : t.workers[i]? = some w) {f : Failure}
    (hp : w.place = .failed f) : ∃ r phase, Fails actions i r phase ∧
      f.chain = s!"worker {i} failed during {phase.name}" :: r.complaint := by
  obtain ⟨rs, hrs⟩ := h.recorded i w hw
  have hl := hrs.loop
  have hg := hrs.agrees
  rw [hp] at hl hg
  obtain ⟨before, r, g, rfl, -, hv, rfl⟩ := hg
  obtain ⟨hc, hn⟩ := StepResult.chain_of_verdict hv
  -- The last round splits what the worker did, and with it all actions, at the step and the look.
  have hl : actionsOf i actions =
      (steps i before ++ [.poll i]) ++ .perform i r :: .sample i :: [.record i] := by
    simpa [steps, complete, Place.begun] using hl
  obtain ⟨ys, between, zs, rfl, hys, hb⟩ := split_of_filter hl
  have hb : ∀ a ∈ between, a.worker? ≠ some i := by simpa using hb
  have hk : (ys ++ .perform i r :: between).count (.sample i) = before.length := by
    have h0 : between.count (.sample i) = 0 :=
      List.count_eq_zero.mpr fun hm => hb _ hm rfl
    have hy : ys.count (.sample i) = before.length := by
      rw [count_actionsOf (by rfl), actionsOf, hys, List.count_append, count_sample_steps]
      simp
    simp [h0, hy]
  have hph := phaseAt_append hk zs
  rw [List.append_assoc, List.cons_append] at hph
  refine ⟨r, _, ⟨hn, ys, between, zs, rfl, hb, ?_⟩, by rw [Failure.chain_during, hc]; rfl⟩
  rw [hph]
  simp

theorem failsWith (h : t.Invariant c fragile actions) (hw : t.workers[i]? = some w) {f : Failure}
    (hf : w.handIn? i = some (.error f)) : FailsWith fragile actions i f := by
  obtain ⟨result, hr, he⟩ := Option.map_eq_some_iff.mp hf
  unfold FailsWith
  rw [h.fragile_eq hw]
  cases hb : w.fragile with
  | true =>
    rw [hb, if_pos rfl] at he
    obtain rfl := Except.error.inj he
    rfl
  | false =>
    rw [hb] at he
    obtain rfl : result = .error f := he
    simpa using h.fails hw (Worker.result?_eq_error.mp hr)

theorem succeeds (h : t.Invariant c fragile actions) (hw : t.workers[i]? = some w) {tally : Tally}
    (ho : w.handIn? i = some (.ok tally)) : Succeeds fragile actions i := by
  obtain rfl := Worker.handIn?_eq_ok.mp ho
  exact ⟨by simp [h.fragile_eq hw], h.completes hw (.inr (.inr rfl))⟩

/-- The failure of a run is that of a worker; all workers before it succeed. -/
theorem first_failure (h : t.Invariant c fragile actions) {f : Failure}
    (hd : t.result? = some (.error f)) :
    ∃ i < fragile.length, FailsWith fragile actions i f ∧ ∀ j < i, Succeeds fragile actions j := by
  have hst := h.staged
  simp only [Staged, result?_eq_some.mp hd] at hst
  obtain ⟨results, hr, hm⟩ := hst
  -- The workers before the first failure have handed in tallies.
  obtain ⟨tallies, rest, rfl⟩ := mapM_id_eq_error hm
  have handed {i : Nat} {r : Except Failure Tally}
      (hi : (tallies.map Except.ok ++ .error f :: rest)[i]? = some r) :
      ∃ w, t.workers[i]? = some w ∧ w.handIn? i = some r := by
    have he := handIn?_eq hr i
    rw [hi] at he
    exact Option.map_eq_some_iff.mp he
  obtain ⟨w, hw, hf⟩ := handed (i := tallies.length) (r := .error f) (by simp)
  have hlt : tallies.length < fragile.length := h.length ▸ (List.getElem?_eq_some_iff.mp hw).1
  refine ⟨_, hlt, h.failsWith hw hf, ?_⟩
  intro j hj
  obtain ⟨v, hv, ho⟩ := handed (i := j) (r := .ok tallies[j]) (by
    rw [List.getElem?_append_left (by simpa using hj)]
    simp [hj])
  exact h.succeeds hv ho

theorem succeeds_of_ok (h : t.Invariant c fragile actions) {tallies : List Tally}
    (hd : t.result? = some (.ok tallies)) (i : Nat) : Succeeds fragile actions i := by
  have hlen : t.workers.length = fragile.length := h.length
  by_cases hi : i < t.workers.length
  · have hw : t.workers[i]? = some t.workers[i] := List.getElem?_eq_getElem hi
    have hj : i < tallies.length := by simpa [h.finished hd] using hi
    have hp : t.workers[i] = ⟨.finished, tallies[i], false⟩ := by simp [h.finished hd]
    exact h.succeeds hw (Worker.handIn?_eq_ok.mpr hp)
  · refine ⟨by simp [List.getElem?_eq_none (hlen ▸ Nat.le_of_not_lt hi)], ?_⟩
    intro r hr
    exact absurd (hlen ▸ h.bounded _ hr i rfl) hi

theorem log_eq (h : t.Invariant c fragile actions) :
    t.log = opening c fragile.length (decide (.arm ∈ actions)) ++ t.stage.closing := by
  have hm : t.measuring = decide (.arm ∈ actions) := by
    rw [Bool.eq_iff_iff, h.measuring, decide_eq_true_iff]
  rw [h.log, hm]

theorem log_of_result (h : t.Invariant c fragile actions) {result : Except Failure (List Tally)}
    (hd : t.result? = some result) :
    t.log = opening c fragile.length (decide (.arm ∈ actions)) ++
      (Stage.done result).closing := by
  rw [h.log_eq, result?_eq_some.mp hd]

end State.Invariant

theorem startWith_eq_error {c : Config} {fragile : List Bool}
    (h : fragile = [] ∨ c.measure = .zero) : ∃ f, startWith c fragile = .error f := by
  unfold startWith
  by_cases hn : fragile = []
  · exact ⟨_, if_pos hn⟩
  · have hm := h.resolve_left hn
    exact ⟨.ofCause .zeroMeasurement, by simp [hn, Config.validate, hm, bind, Except.bind]⟩

theorem exists_start {c : Config} {fragile : List Bool} (hn : fragile ≠ [])
    (hm : c.measure ≠ .zero) : ∃ s, startWith c fragile = .ok s :=
  ⟨_, by simp [startWith, hn, Config.validate, hm, bind, Except.bind]; rfl⟩

theorem State.outcome?_cases {t : State} {outcome : Except Abort (List Tally)}
    (h : t.outcome? = some outcome) :
    (∃ tallies, outcome = .ok tallies ∧ t.result? = some (.ok tallies)) ∨
    (∃ f, outcome = .error (.failure f) ∧ t.result? = some (.error f)) ∨
    outcome = .error .deadlineOverflow ∧ t.stage = .unwound := by
  unfold outcome? at h
  split at h
  · next tallies hs => exact .inl ⟨tallies, (Option.some.inj h).symm, result?_eq_some.mpr hs⟩
  · next f hs => exact .inr (.inl ⟨f, (Option.some.inj h).symm, result?_eq_some.mpr hs⟩)
  · next hs => exact .inr (.inr ⟨(Option.some.inj h).symm, hs⟩)
  · cases h

section Whole

variable {c : Config} {fragile : List Bool} {actions : List Action}
  {outcome : Except Abort (List Tally)} {log : List Event}

/-- A run with a wait that has no deadline does not return. It panics once its workers have come to
their end, and they do so only if one of them fails. -/
theorem Whole.of_overflows (h : Whole c fragile actions outcome log) (ho : Overflows c actions) :
    outcome = .error (.panic "overflow when adding duration to instant") ∧
      log = opening c fragile.length (decide (.arm ∈ actions)) ∧
      ∃ i r phase, Fails actions i r phase := by
  cases h with
  | refused => exact absurd ho not_overflows_nil
  | @ended _ s t _ hs hr hout =>
    have hi := State.Invariant.ofRun hs hr
    have hp := (panics_iff_overflows hs hr).mpr ho
    rcases State.outcome?_cases hout with ⟨_, -, hd⟩ | ⟨_, -, hd⟩ | ⟨rfl, hu⟩
    · simp [State.result?_eq_some.mp hd, Stage.panics] at hp
    · simp [State.result?_eq_some.mp hd, Stage.panics] at hp
    · obtain ⟨i, w, f, hw, hf⟩ := hasFailed_of_unwound hs hr hu
      obtain ⟨r, phase, hfails, -⟩ := hi.fails hw hf
      refine ⟨rfl, ?_, i, r, phase, hfails⟩
      rw [hi.log_eq, hu]
      exact List.append_nil _

/-- A run whose waits have deadlines returns. -/
theorem Whole.of_not_overflows (h : Whole c fragile actions outcome log)
    (hn : fragile ≠ []) (hm : c.measure ≠ .zero) (ho : ¬ Overflows c actions) :
    ((∃ tallies, outcome = .ok tallies) ↔ ∀ i, Succeeds fragile actions i) ∧
    (∀ tallies, outcome = .ok tallies → tallies.length = fragile.length ∧
      log = opening c fragile.length (decide (.arm ∈ actions)) ++ .stopping ::
        tallies.zipIdx.map fun (t, i) => .tallied i t.completed t.missing t.conflicts) ∧
    ∀ a, outcome = .error a → ∃ f i, a = .failure f ∧ i < fragile.length ∧
      FailsWith fragile actions i f ∧ (∀ j < i, Succeeds fragile actions j) ∧
      log = opening c fragile.length (decide (.arm ∈ actions)) ++ [.stopping, .failed f] := by
  cases h with
  | refused hf =>
    obtain ⟨s, hs⟩ := exists_start hn hm
    simp [hs] at hf
  | @ended _ s t _ hs hr hout =>
    have hi := State.Invariant.ofRun hs hr
    rcases State.outcome?_cases hout with ⟨tallies, rfl, hd⟩ | ⟨f, rfl, hd⟩ | ⟨-, hu⟩
    · refine ⟨iff_of_true ⟨tallies, rfl⟩ (hi.succeeds_of_ok hd), ?_, by simp⟩
      rintro _ ⟨⟩
      refine ⟨?_, hi.log_of_result hd⟩
      rw [hi.tallies_eq hd, List.length_map, List.length_range]
    · obtain ⟨i, hlt, hf, hbefore⟩ := hi.first_failure hd
      refine ⟨iff_of_false (by simp) fun hall => hf.not_succeeds (hall i), by simp, ?_⟩
      rintro _ ⟨⟩
      exact ⟨f, i, rfl, hlt, hf, hbefore, hi.log_of_result hd⟩
    · refine absurd ((panics_iff_overflows hs hr).mp ?_) ho
      rw [hu]
      rfl

end Whole

/-- Without workers, or without time to be measured, a run is refused before it does anything. A
run whose waits have deadlines can be brought to its end, and then returns. It fails if and only if
a step is not completed or a worker panics when it is dropped; it names the first such worker, and
the phase in which the worker of a step found itself. A wait without a deadline is a panic, which
goes on once a step fails and all workers have come to their end. -/
theorem reports_first_failure (c : Config) (fragile : List Bool) :
    (fragile = [] ∨ c.measure = .zero → ∃ f, ∀ actions outcome log,
      Whole c fragile actions outcome log ↔
        actions = [] ∧ outcome = .error (.failure f) ∧ log = []) ∧
    (fragile ≠ [] → c.measure ≠ .zero →
      (∃ s, startWith c fragile = .ok s ∧ ∀ actions t, s.run c actions = some t →
        (∀ now : Duration, now.inNanos + c.warmup.inNanos < clockLimit * 1000000000 →
          now.inNanos + c.measure.inNanos < clockLimit * 1000000000 → ¬ Overflows c actions →
          ∃ more outcome log, Whole c fragile (actions ++ more) outcome log ∧
            ¬ Overflows c (actions ++ more) ∧ ∀ i, Completes more i) ∧
        (t.stop = true → (∃ more outcome log, Whole c fragile (actions ++ more) outcome log) ∧
          ∀ more u, t.run c more = some u → more.length ≤ 4 * fragile.length + 7)) ∧
      ∀ actions outcome log, Whole c fragile actions outcome log →
        (Overflows c actions →
          outcome = .error (.panic "overflow when adding duration to instant") ∧
          log = opening c fragile.length (decide (.arm ∈ actions)) ∧
          ∃ i r phase, Fails actions i r phase) ∧
        (¬ Overflows c actions →
          ((∃ tallies, outcome = .ok tallies) ↔ ∀ i, Succeeds fragile actions i) ∧
          (∀ tallies, outcome = .ok tallies → tallies.length = fragile.length ∧
            log = opening c fragile.length (decide (.arm ∈ actions)) ++ .stopping ::
              tallies.zipIdx.map fun (t, i) => .tallied i t.completed t.missing t.conflicts) ∧
          ∀ a, outcome = .error a → ∃ f i, a = .failure f ∧ i < fragile.length ∧
            FailsWith fragile actions i f ∧ (∀ j < i, Succeeds fragile actions j) ∧
            log = opening c fragile.length (decide (.arm ∈ actions)) ++
              [.stopping, .failed f])) := by
  refine ⟨?_, ?_⟩
  · intro h
    obtain ⟨f, hf⟩ := startWith_eq_error h
    refine ⟨f, fun actions outcome log => ⟨?_, ?_⟩⟩
    · intro hw
      cases hw with
      | refused hg =>
        obtain rfl := Except.error.inj (hg.symm.trans hf)
        exact ⟨rfl, rfl, rfl⟩
      | ended hs => simp [hf] at hs
    · rintro ⟨rfl, rfl, rfl⟩
      exact .refused hf
  · intro hn hm
    obtain ⟨s, hs⟩ := exists_start hn hm
    refine ⟨⟨s, hs, ?_⟩, ?_⟩
    · intro actions t hr
      have hi := State.Invariant.ofRun hs hr
      refine ⟨?_, ?_⟩
      · intro now hwarm hmeasure ho
        have hp : t.stage.panics = false :=
          Bool.eq_false_iff.mpr (mt (panics_iff_overflows hs hr).mp ho)
        obtain ⟨more, u, outcome, hu, hout, hp, hc⟩ := hi.exists_end_of_deadlines
          (hasDeadline_eq_true.mpr hwarm) (hasDeadline_eq_true.mpr hmeasure) hp
        have hrun := State.run_trans hr hu
        refine ⟨more, outcome, u.log, .ended hs hrun hout, ?_, hc⟩
        rw [← panics_iff_overflows hs hrun, hp]
        exact Bool.false_ne_true
      · intro hstop
        refine ⟨?_, ?_⟩
        · obtain ⟨more, u, outcome, hu, hout, -⟩ := hi.exists_end_of_stop hstop
          exact ⟨more, outcome, u.log, .ended hs (State.run_trans hr hu) hout⟩
        · intro more u hu
          have := State.length_add_distance_le hstop hu
          have := t.distance_le
          rw [hi.length] at this
          omega
    · intro actions outcome log hw
      exact ⟨hw.of_overflows, hw.of_not_overflows hn hm⟩

/-- Two workers: one fails while measuring is about to begin, then the other one panics. -/
def racing : List Action :=
  [.poll 0, .poll 1, .wait .zero, .wake, .perform 1 (.failed (.ofCause .notText)), .sample 1,
    .record 1, .arm, .perform 0 (.panicked (.text "boom")), .sample 0, .record 0, .wait .zero,
    .wake, .stop, .join]

theorem reports_first_failure_racing :
    ∃ f log, Whole ⟨.ofSecs 1, .ofSecs 2⟩ [false, true] racing (.error (.failure f)) log ∧
      f.chain = ["worker 0 failed during measurement", "panicked: boom"] ∧
      log = [.warmingUp 2 (.ofSecs 1), .measuring (.ofSecs 2), .stopping, .failed f] ∧
      ¬ Succeeds [false, true] racing 0 := by
  have hs : startWith ⟨.ofSecs 1, .ofSecs 2⟩ [false, true] = .ok ⟨false, false, .ready,
      [.initial false, .initial true], [.warmingUp 2 (.ofSecs 1)]⟩ := rfl
  have hr (t : State) (outcome : Except Abort (List Tally))
      (h : State.run ⟨.ofSecs 1, .ofSecs 2⟩ _ racing = some t) (hp : t.stage.panics = false)
      (ho : t.outcome? = some outcome) :
      Whole ⟨.ofSecs 1, .ofSecs 2⟩ [false, true] racing outcome t.log ∧
        ¬ Overflows ⟨.ofSecs 1, .ofSecs 2⟩ racing :=
    ⟨.ended hs h ho, by rw [← panics_iff_overflows hs h, hp]; exact Bool.false_ne_true⟩
  obtain ⟨hw, ho⟩ := hr _ _ rfl rfl rfl
  have h := (reports_first_failure ⟨.ofSecs 1, .ofSecs 2⟩ [false, true]).2 (by decide) (by decide)
  obtain ⟨hok, -, hlog⟩ := (h.2 _ _ _ hw).2 ho
  obtain ⟨f, i, ⟨⟩, -, -, hbefore, hlog⟩ := hlog _ rfl
  refine ⟨_, _, hw, rfl, hlog, ?_⟩
  rintro ⟨-, hc⟩
  obtain ⟨o, ho⟩ := hc (.panicked (.text "boom")) (by decide)
  cases ho

/-- The only worker fails, but the coordinator panics before its first wait. -/
def unwaited : List Action :=
  [.wait .zero, .poll 0, .perform 0 (.failed (.ofCause (.reported "boom"))), .sample 0, .record 0,
    .unwind]

def idle : List Action :=
  [.wait .zero, .wake, .arm, .wait .zero, .wake, .stop, .poll 0, .join]

/-- A worker fails, but its failure is not what the run returns; all workers complete their steps,
but the run fails. -/
theorem reports_first_failure_unreturned :
    Whole ⟨.ofSecs 18446744073709551615, .ofSecs 30⟩ [false] unwaited
        (.error (.panic "overflow when adding duration to instant"))
        [.warmingUp 1 (.ofSecs 18446744073709551615)] ∧
      Fails unwaited 0 (.failed (.ofCause (.reported "boom"))) .warmup ∧
      ∃ f log, Whole ⟨.ofSecs 1, .ofSecs 2⟩ [true] idle (.error (.failure f)) log ∧
        f.chain = ["worker 0 panicked"] ∧ ∀ i, Completes idle i := by
  refine ⟨?_, ⟨by simp, [.wait .zero, .poll 0], [], [.record 0, .unwind], rfl, by simp, rfl⟩, ?_⟩
  · have hs : startWith ⟨.ofSecs 18446744073709551615, .ofSecs 30⟩ [false] =
        .ok ⟨false, false, .ready, [.initial false], [.warmingUp 1 _]⟩ := rfl
    have hw {t : State} {outcome : Except Abort (List Tally)}
        (hr : State.run _ _ unwaited = some t) (ho : t.outcome? = some outcome) :=
      Whole.ended hs hr ho
    exact hw rfl rfl
  · have hs : startWith ⟨.ofSecs 1, .ofSecs 2⟩ [true] =
        .ok ⟨false, false, .ready, [.initial true], [.warmingUp 1 _]⟩ := rfl
    exact ⟨_, _, .ended hs rfl rfl, rfl, by simp [Completes, idle]⟩

end StoreBench.Run
