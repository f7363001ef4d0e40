import Mathlib.Algebra.GroupWithZero.Nat
import Mathlib.Algebra.Order.BigOperators.Group.Finset
import StoreBench.Proofs.Run.Invariant

/-!
Counting: a run counts the steps that workers look at once measuring has begun, each of them once.
-/
namespace StoreBench.Run

structure Tally.Counts (t : Tally) (os : List Outcome) : Prop where
  completed : t.completed.toNat = os.length
  missing : t.missing.toNat = os.count .missing
  conflicts : t.conflicts.toNat = os.count .conflict
  successes : t.successes.toNat = os.count .success
  le_completed : t.missing.toNat + t.conflicts.toNat ≤ t.completed.toNat

theorem length_eq_counts (os : List Outcome) :
    os.length = os.count .success + os.count .missing + os.count .conflict := by
  induction os with
  | nil => rfl
  | cons o os ih => cases o <;> simp [ih] <;> omega

theorem Tally.toNat_successes {t : Tally}
    (h : t.missing.toNat + t.conflicts.toNat ≤ t.completed.toNat) :
    t.successes.toNat = t.completed.toNat - t.missing.toNat - t.conflicts.toNat := by
  have hm : t.missing ≤ t.completed := UInt64.le_iff_toNat_le.mpr (by omega)
  have hd : (t.completed - t.missing).toNat = t.completed.toNat - t.missing.toNat :=
    UInt64.toNat_sub_of_le _ _ hm
  have hf : t.conflicts ≤ t.completed - t.missing := UInt64.le_iff_toNat_le.mpr (by omega)
  rw [Tally.successes, UInt64.toNat_sub_of_le _ _ hf, hd]

theorem Tally.counts_of {os : List Outcome} (h : os.length < UInt64.size) :
    (Tally.of os).Counts os := by
  have hl := length_eq_counts os
  have hc : (Tally.of os).completed.toNat = os.length := UInt64.toNat_ofNat_of_lt' h
  have hm : (Tally.of os).missing.toNat = os.count .missing :=
    UInt64.toNat_ofNat_of_lt' (by omega)
  have hf : (Tally.of os).conflicts.toNat = os.count .conflict :=
    UInt64.toNat_ofNat_of_lt' (by omega)
  refine ⟨hc, hm, hf, ?_, by omega⟩
  rw [toNat_successes (by omega), hc, hm, hf]
  omega

theorem Worker.result?_eq_error {w : Worker} {f : Failure} :
    w.result? = some (.error f) ↔ w.place = .failed f := by
  cases hp : w.place <;> simp [Worker.result?, hp]

theorem Worker.handIn?_eq_ok {i : Nat} {w : Worker} {t : Tally} :
    w.handIn? i = some (.ok t) ↔ w = ⟨.finished, t, false⟩ := by
  obtain ⟨place, tally, fragile⟩ := w
  cases fragile <;> cases place <;> simp [handIn?, result?]

theorem mapM_id_eq_ok {ε α : Type} {rs : List (Except ε α)} {xs : List α} :
    rs.mapM id = .ok xs ↔ rs = xs.map .ok := by
  induction rs generalizing xs with
  | nil => cases xs <;> simp [pure, Except.pure]
  | cons r rs ih =>
    cases r with
    | error e => cases xs <;> simp [bind, Except.bind]
    | ok x =>
      cases xs with
      | nil => cases h : rs.mapM id <;> simp [h, bind, Except.bind, pure, Except.pure]
      | cons y ys =>
        cases h : rs.mapM id <;> simp [h, bind, Except.bind, pure, Except.pure, ← ih]

theorem State.result?_eq_some {t : State} {result : Except Failure (List Tally)} :
    t.result? = some result ↔ t.stage = .done result := by
  cases h : t.stage <;> simp [State.result?, h]

theorem State.Invariant.finished {c : Config} {fragile : List Bool} {actions : List Action}
    {t : State} (h : t.Invariant c fragile actions) {tallies : List Tally}
    (hd : t.result? = some (.ok tallies)) :
    t.workers = tallies.map (⟨.finished, ·, false⟩) := by
  have hst := h.staged
  simp only [Staged, result?_eq_some.mp hd] at hst
  obtain ⟨results, hr, ht⟩ := hst
  rw [mapM_id_eq_ok] at ht
  subst ht
  apply List.ext_getElem
  · simpa using congrArg List.length (results?_eq_some.mp hr)
  · intro i hi hj
    have hj : i < tallies.length := by simpa using hj
    have : t.workers[i].handIn? i = some (.ok tallies[i]) := by
      simpa [hi, hj] using handIn?_eq hr i
    rw [List.getElem_map]
    exact Worker.handIn?_eq_ok.mp this

/-- The tally of each worker is that of the steps it looked at once measuring had begun. -/
theorem State.Invariant.tallies_eq {c : Config} {fragile : List Bool} {actions : List Action}
    {t : State} (h : t.Invariant c fragile actions) {tallies : List Tally}
    (hd : t.result? = some (.ok tallies)) : tallies =
      (List.range fragile.length).map fun i => Tally.of (measuredOutcomes i actions) := by
  have hw := h.finished hd
  have hl : tallies.length = fragile.length := by simpa [hw] using h.length
  apply List.ext_getElem
  · simpa using hl
  · intro i hi hj
    have hwi : t.workers[i]? = some ⟨.finished, tallies[i], false⟩ := by simp [hw, hi]
    obtain ⟨rs, hrs⟩ := h.recorded i _ hwi
    simpa using hrs.tally_eq

theorem toNat_foldr_add {xs : List UInt64} (h : (xs.map UInt64.toNat).sum < UInt64.size) :
    (xs.foldr (· + ·) 0).toNat = (xs.map UInt64.toNat).sum := by
  induction xs with
  | nil => rfl
  | cons x xs ih =>
    rw [List.map_cons, List.sum_cons] at h ⊢
    rw [List.foldr_cons, UInt64.toNat_add, ih (by omega)]
    exact Nat.mod_eq_of_lt h

theorem Report.toNat_total {r : Report} {counter : Tally → UInt64}
    (h : (r.workers.map fun t => (counter t).toNat).sum < UInt64.size) :
    (r.sumOf counter).toNat = (r.workers.map fun t => (counter t).toNat).sum := by
  have hmap : (r.workers.map counter).map UInt64.toNat = r.workers.map fun t => (counter t).toNat :=
    List.map_map
  rw [sumOf, toNat_foldr_add (hmap ▸ h), hmap]

theorem toNat_sumOf {n : Nat} {f : Nat → List Outcome} {counter : Tally → UInt64}
    {g : List Outcome → Nat} (hg : ∀ i < n, (counter (.of (f i))).toNat = g (f i))
    (h : ∑ i ∈ Finset.range n, g (f i) < UInt64.size) (measure elapsed : Duration) :
    (Report.sumOf counter ⟨measure, elapsed, (List.range n).map fun i => .of (f i)⟩).toNat =
      ∑ i ∈ Finset.range n, g (f i) := by
  have hs : (((List.range n).map fun i => Tally.of (f i)).map fun t => (counter t).toNat).sum =
      ∑ i ∈ Finset.range n, g (f i) := by
    have hr : (List.range n).toFinset = Finset.range n := by
      ext i
      simp
    rw [List.map_map, ← List.sum_toFinset _ List.nodup_range, hr]
    exact Finset.sum_congr rfl fun i hi => hg i (Finset.mem_range.mp hi)
  exact (Report.toNat_total (hs ▸ h)).trans hs

theorem State.Invariant.completed_of_finished {c : Config} {fragile : List Bool}
    {actions : List Action} {t : State} (h : t.Invariant c fragile actions) {i : Nat} {w : Worker}
    (hw : t.workers[i]? = some w) (hp : w.place = .finished) :
    actionsOf i actions =
      steps i ((completedBy i actions).map .completed) ++ [.poll i] := by
  obtain ⟨rs, hrs⟩ := h.recorded i w hw
  have hg : AllCompleted rs := by simpa [hp, Place.Agrees] using hrs.agrees
  rw [completedBy, hrs.recordedEnds_eq, hg.map_outcomes, hrs.loop, hp]
  rfl

/-- At any time of a run, a worker's steps are whole rounds of its loop, of which those before
measuring come first, and its tally counts the others. The report of a run counts every step that a
worker has taken since measuring began, also those that were under way when it began or when the
run was stopped. -/
theorem counts_measured_steps {c : Config} {n : Nat} {s t : State} {actions : List Action}
    (hs : start c n = .ok s) (hr : s.run c actions = some t)
    (hf : ∑ i ∈ Finset.range n, (measuredOutcomes i actions).length < UInt64.size) :
    (∀ i w, t.workers[i]? = some w →
      actionsOf i actions = steps i (recordedEnds i actions) ++ w.place.begun i ∧
      completedBy i actions = warmOutcomes i actions ++ measuredOutcomes i actions ∧
      w.tally.Counts (measuredOutcomes i actions)) ∧
    ∀ tallies, t.result? = some (.ok tallies) →
      (∀ i < n, actionsOf i actions =
        steps i ((completedBy i actions).map .completed) ++ [.poll i]) ∧
      tallies = (List.range n).map (fun i => Tally.of (measuredOutcomes i actions)) ∧
      ∀ elapsed, let report : Report := ⟨c.measure, elapsed, tallies⟩
        report.completed.toNat = ∑ i ∈ Finset.range n, (measuredOutcomes i actions).length ∧
        report.missing.toNat =
          ∑ i ∈ Finset.range n, (measuredOutcomes i actions).count .missing ∧
        report.conflicts.toNat =
          ∑ i ∈ Finset.range n, (measuredOutcomes i actions).count .conflict := by
  have hi := State.Invariant.ofRun hs hr
  have hlen : t.workers.length = n := by simpa using hi.length
  have hcounts (i : Nat) (h : i < n) :
      (Tally.of (measuredOutcomes i actions)).Counts (measuredOutcomes i actions) := by
    apply Tally.counts_of
    have := Finset.single_le_sum (f := fun j => (measuredOutcomes j actions).length)
      (fun _ _ => Nat.zero_le _) (Finset.mem_range.mpr h)
    exact lt_of_le_of_lt this hf
  have hle (o : Outcome) : ∑ i ∈ Finset.range n, (measuredOutcomes i actions).count o <
      UInt64.size :=
    lt_of_le_of_lt (Finset.sum_le_sum fun i _ => List.count_le_length) hf
  refine ⟨?_, ?_⟩
  · intro i w hw
    obtain ⟨rs, hrs⟩ := hi.recorded i w hw
    have hin : i < n := hlen ▸ (List.getElem?_eq_some_iff.mp hw).1
    refine ⟨?_, (warm_append_measured i actions).symm, hrs.tally_eq ▸ hcounts i hin⟩
    rw [hrs.recordedEnds_eq, hrs.loop]
  · intro tallies hd
    have ht := hi.tallies_eq hd
    rw [List.length_replicate] at ht
    refine ⟨?_, ht, ?_⟩
    · intro i hin
      have hw : t.workers[i]? = some t.workers[i] := List.getElem?_eq_getElem (hlen ▸ hin)
      have hp : t.workers[i].place = .finished := by simp [hi.finished hd]
      exact hi.completed_of_finished hw hp
    · intro elapsed
      subst ht
      exact ⟨toNat_sumOf (fun i h => (hcounts i h).completed) hf _ _,
        toNat_sumOf (fun i h => (hcounts i h).missing) (hle .missing) _ _,
        toNat_sumOf (fun i h => (hcounts i h).conflicts) (hle .conflict) _ _⟩

/-- Two workers: one is in a step when measuring begins, both are when the run is stopped. -/
def straddling : List Action :=
  [.poll 0, .wait .zero, .poll 1, .perform 0 (.completed .missing), .sample 0, .record 0, .poll 0,
    .wake, .perform 0 (.completed .success), .arm, .sample 0, .record 0, .wait .zero, .poll 0,
    .wake, .stop,
    .perform 1 (.completed .success), .sample 1, .record 1, .poll 1,
    .perform 0 (.completed .conflict), .sample 0, .record 0, .poll 0, .join]

theorem counts_measured_steps_straddling :
    ∃ s t, start ⟨.ofSecs 1, .ofSecs 2⟩ 2 = .ok s ∧
      s.run ⟨.ofSecs 1, .ofSecs 2⟩ straddling = some t ∧
      t.result? = some (.ok [⟨2, 0, 1⟩, ⟨1, 0, 0⟩]) ∧
      ∑ i ∈ Finset.range 2, (measuredOutcomes i straddling).length = 3 ∧
      (Report.completed ⟨.ofSecs 2, .zero, [⟨2, 0, 1⟩, ⟨1, 0, 0⟩]⟩).toNat = 3 := by
  have hs : start ⟨.ofSecs 1, .ofSecs 2⟩ 2 = .ok ⟨false, false, .ready,
      [.initial false, .initial false], [.warmingUp 2 (.ofSecs 1)]⟩ := rfl
  have hf : ∑ i ∈ Finset.range 2, (measuredOutcomes i straddling).length = 3 := by decide
  refine ⟨_, _, hs, rfl, rfl, hf, ?_⟩
  have hr (t : State) (h : State.run ⟨.ofSecs 1, .ofSecs 2⟩ _ straddling = some t) :=
    counts_measured_steps hs h (by rw [hf]; decide)
  obtain ⟨-, -, hc⟩ := (hr _ rfl).2 _ rfl
  exact (hc .zero).1.trans hf

end StoreBench.Run
