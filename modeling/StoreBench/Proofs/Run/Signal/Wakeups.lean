import StoreBench.Proofs.Run.Progress
import StoreBench.Proofs.Run.Signal.Invariant

/-!
A signal fires once and loses no wakeup: of all calls that fire, the first to take the lock is
answered that it was the first; once the flag is set, whoever looks at it finds it set, and nobody
sleeps on.
-/
namespace StoreBench.Run.Signal

/-- Whether a thread at this place has still to look at the flag. -/
def Place.looksLater : Place → Bool
  | .poll => true
  | .await => true
  | .check => true
  | .asleep => true
  | _ => false

/-- Whether a thread at this place will be answered that the flag is set, if it is. -/
def Place.Told : Place → Prop
  | .release answer => answer = true
  | .done answer => answer = true
  | p => p.looksLater = true

theorem Place.told_of_looksLater {p : Place} (h : p.looksLater = true) : p.Told := by
  cases p with
  | poll | await | check | asleep => exact h
  | fire | set | wakeAll | clock | release | done => cases h

section Telling

variable {s t : State} {i j : Nat} {p q r : Place}

theorem told_move (hp : s.threads[j]? = some p) (hr : p.Told → r.Told)
    (hi : s.threads[i]? = some q) (hq : q.Told) :
    ∃ r', (s.move j r).threads[i]? = some r' ∧ r'.Told := by
  by_cases h : i = j
  · subst h
    obtain rfl : p = q := Option.some.inj (hp.symm.trans hi)
    exact ⟨r, State.threads_move_self hp r, hr hq⟩
  · exact ⟨q, (State.threads_move_ne h r).trans hi, hq⟩

theorem told_wakeSleepers (hi : s.threads[i]? = some q) (hq : q.Told) :
    ∃ r, s.wakeSleepers.threads[i]? = some r ∧ r.Told := by
  refine ⟨if q = .asleep then .await else q, by simp [State.threads_wakeSleepers, hi], ?_⟩
  by_cases h : q = .asleep
  · rw [if_pos h]
    rfl
  · rwa [if_neg h]

theorem Moves.told {a : Action} (hm : Moves s a t) (hf : s.flag = true)
    (hi : s.threads[i]? = some q)
    (hq : q.Told) : ∃ r, t.threads[i]? = some r ∧ r.Told := by
  cases hm with
  | poll hp => exact told_move hp (fun _ => hf) hi hq
  | take hp => exact told_move hp (fun h => by cases h) hi hq
  | set hp => exact told_move hp (fun h => by cases h) hi hq
  | @wakeAll j first hp =>
    obtain ⟨r, hr, htold⟩ := told_wakeSleepers hi hq
    have hp' : s.wakeSleepers.threads[j]? = some (.wakeAll first) := by
      simp [State.threads_wakeSleepers, hp]
    exact told_move hp' (fun h => by cases h) hr htold
  | enter hp => exact told_move hp (fun _ => rfl) hi hq
  | find hp => exact told_move hp (fun _ => rfl) hi hq
  | miss hp hf' => cases hf.symm.trans hf'
  | leave hp => exact told_move hp id hi hq
  | expire hp => exact told_move hp (fun h => by cases h) hi hq
  | sleep hp => exact told_move hp (fun _ => rfl) hi hq
  | wake hp => exact told_move hp (fun _ => rfl) hi hq

theorem Moves.flag {a : Action} (hm : Moves s a t) (hf : s.flag = true) : t.flag = true := by
  cases hm with
  | set => rfl
  | poll | take | wakeAll | enter | find | miss | leave | expire | sleep | wake => exact hf

/-- Once the flag is set it stays set, and whoever looks at it later is told so. -/
theorem told_of_run (hf : s.flag = true) (more : List Action) :
    (s.run more).flag = true ∧
      ∀ (i : Nat) (p : Place), s.threads[i]? = some p → p.looksLater = true →
        ∃ r, (s.run more).threads[i]? = some r ∧ r.Told := by
  induction more using State.run_induction (s := s) with
  | start => exact ⟨hf, fun i p hp hl => ⟨p, hp, p.told_of_looksLater hl⟩⟩
  | step ih hm =>
    refine ⟨hm.flag ih.1, fun i p hp hl => ?_⟩
    obtain ⟨q, hq, htold⟩ := ih.2 i p hp hl
    exact hm.told ih.1 hq htold
  | skip ih => exact ih

end Telling

/-- The number of steps that a thread is from its end, if it is late when it looks at the clock. -/
def Place.distance : Place → Nat
  | .poll => 1
  | .fire => 4
  | .set => 3
  | .wakeAll _ => 2
  | .await => 4
  | .check => 3
  | .clock => 2
  | .asleep => 5
  | .release _ => 1
  | .done _ => 0

def State.distance (s : State) : Nat := (s.threads.map Place.distance).sum

section Ending

variable {s : State} {i : Nat} {p q : Place}

theorem distance_move_lt (hp : s.threads[i]? = some p) (h : q.distance < p.distance) :
    (s.move i q).distance < s.distance := sum_map_set_lt Place.distance hp h

theorem distance_wakeSleepers_le (s : State) : s.wakeSleepers.distance ≤ s.distance := by
  unfold State.distance State.wakeSleepers
  rw [List.map_map]
  apply List.sum_le_sum
  intro p _
  show (if p = .asleep then Place.await else p).distance ≤ p.distance
  by_cases h : p = .asleep
  · rw [if_pos h, h]
    decide
  · rw [if_neg h]

/-- While a thread is not at its end, some thread can come nearer to its own. -/
theorem Invariant.exists_move {calls : List Place} {takers : List Nat} {seen : Nat → List Glance}
    (h : Invariant calls takers seen s) (hp : s.threads[i]? = some p)
    (hd : ∀ answer, p ≠ .done answer) :
    ∃ a t, Moves s a t ∧ t.distance < s.distance := by
  cases hh : s.holder with
  | none =>
    have hfree : p.holds ≠ true := by
      intro hholds
      cases hh.symm.trans (h.exclusive.holds i p hp hholds)
    cases p with
    | poll => exact ⟨_, _, .poll hp, distance_move_lt hp (by simp [Place.distance])⟩
    | fire => exact ⟨_, _, .take hp hh, distance_move_lt hp (by decide)⟩
    | await => exact ⟨_, _, .enter hp hh, distance_move_lt hp (by decide)⟩
    | asleep => exact ⟨_, _, .wake hp, distance_move_lt hp (by decide)⟩
    | done answer => exact absurd rfl (hd answer)
    | set | wakeAll | check | clock | release => exact absurd rfl hfree
  | some j =>
    obtain ⟨q, hq, hholds⟩ := h.exclusive.held j hh
    cases q with
    | set => exact ⟨_, _, .set hq, distance_move_lt hq (by simp [Place.distance])⟩
    | wakeAll first =>
      have hq' : s.wakeSleepers.threads[j]? = some (.wakeAll first) := by
        simp [State.threads_wakeSleepers, hq]
      refine ⟨_, _, .wakeAll hq, ?_⟩
      exact Nat.lt_of_lt_of_le (distance_move_lt hq' (by simp [Place.distance]))
        (distance_wakeSleepers_le s)
    | check =>
      cases hf : s.flag with
      | true => exact ⟨_, _, .find hq hf, distance_move_lt hq (by decide)⟩
      | false => exact ⟨_, _, .miss hq hf, distance_move_lt hq (by decide)⟩
    | clock => exact ⟨_, _, .expire hq, distance_move_lt hq (by decide)⟩
    | release => exact ⟨_, _, .leave hq, distance_move_lt hq (by simp [Place.distance])⟩
    | poll | fire | await | asleep | done => cases hholds

/-- All threads can come to their end. -/
theorem Invariant.exists_end {calls : List Place} {takers : List Nat} {seen : Nat → List Glance}
    (h : Invariant calls takers seen s) :
    ∃ more, ∀ p ∈ (s.run more).threads, ∃ answer, p = .done answer := by
  induction hn : s.distance using Nat.strong_induction_on generalizing s takers seen with
  | h n ih =>
    by_cases hdone : ∀ p ∈ s.threads, ∃ answer, p = .done answer
    · exact ⟨[], hdone⟩
    · push Not at hdone
      obtain ⟨p, hmem, hp⟩ := hdone
      obtain ⟨i, hi⟩ := List.getElem?_of_mem hmem
      obtain ⟨a, t, hm, hlt⟩ := h.exists_move hi hp
      obtain ⟨more, hmore⟩ := ih t.distance (hn ▸ hlt) (h.step hm) rfl
      refine ⟨a :: more, ?_⟩
      have hrun : s.run (a :: more) = t.run more := by
        simp [State.run, hm.next_eq]
      rw [hrun]
      exact hmore

end Ending

def State.Returned (s : State) (calls : List Place) (call : Place) (i : Nat) (answer : Bool) :
    Prop :=
  calls[i]? = some call ∧ s.threads[i]? = some (.done answer)

section Answering

variable {calls : List Place} {takers : List Nat} {seen : Nat → List Glance} {s : State}

theorem Invariant.fired (h : Invariant calls takers seen s) {i : Nat} {first : Bool}
    (hr : s.Returned calls .fire i first) : Fired s.flag takers i first := by
  cases h.knows_at hr.1 hr.2 with
  | fired h => exact h

theorem Invariant.answered (h : Invariant calls takers seen s) {i : Nat} {answer : Bool}
    (hr : s.Returned calls .await i answer) : Answers s.flag (seen i) answer := by
  cases h.knows_at hr.1 hr.2 with
  | answered h => exact h

/-- As soon as a call that fires has returned, the first one to take the lock has. -/
theorem Invariant.first_returned (h : Invariant calls takers seen s) {i : Nat} {first : Bool}
    (hr : s.Returned calls .fire i first) :
    ∃ k, takers.head? = some k ∧ s.Returned calls .fire k true := by
  obtain ⟨-, hmem, hfirst⟩ := h.fired hr
  obtain ⟨k, rest, rfl⟩ := List.exists_cons_of_ne_nil (List.ne_nil_of_mem hmem)
  obtain ⟨hc, hd | ⟨hh, htakers⟩⟩ := h.first k rfl
  · exact ⟨k, rfl, hc, hd⟩
  · rw [htakers, List.mem_singleton] at hmem
    subst hmem
    obtain rfl : first = true := hfirst.mpr rfl
    exact ⟨i, rfl, hr⟩

theorem Invariant.not_asleep (h : Invariant calls takers seen s) (hf : s.flag = true)
    (hh : ∀ i, s.holder = some i → calls[i]? ≠ some .fire) (i : Nat) :
    s.threads[i]? ≠ some .asleep := by
  intro hi
  obtain ⟨j, first, hj⟩ := h.awake hf i hi
  obtain ⟨c, hc, hknows⟩ := h.knows j _ hj
  obtain ⟨rfl, -⟩ := hknows.of_wakeAll
  exact hh j (h.exclusive.holds j _ hj rfl) hc

end Answering

/-- Threads poll a signal, set it and wait for it, in any order of their steps. If a call that
fires has returned, the first one to take the lock has returned that it was the first, and no other
has. Once the flag is set it is never unset, and whoever has still to look at it is answered that
it is set. A thread that waits is answered that the flag is set only if it is, and that it is not
only if it found it unset when it had the lock, and then its deadline past. Nobody is asleep while
the flag is set and no call that fires has the lock. And all calls can come to their end. -/
theorem fires_once_and_wakes_all (calls : List Place)
    (hcalls : ∀ p ∈ calls, p = .poll ∨ p = .fire ∨ p = .await) (actions : List Action) :
    let s := (start false calls).run actions
    let takers := (start false calls).notes State.taker? actions
    let seen := fun i => (start false calls).notes (State.glance? · i) actions
    (∀ i first, s.Returned calls .fire i first →
      ∃ k, takers.head? = some k ∧ s.Returned calls .fire k true ∧ (first = true ↔ i = k)) ∧
    (s.flag = true → ∀ more, (s.run more).flag = true ∧
      ∀ (i : Nat) (p : Place) (answer : Bool), s.threads[i]? = some p → p.looksLater = true →
        (s.run more).threads[i]? = some (.done answer) → answer = true) ∧
    (∀ i answer, s.Returned calls .await i answer → Answers s.flag (seen i) answer) ∧
    (s.flag = true → (∀ i, s.holder = some i → calls[i]? ≠ some .fire) →
      ∀ i : Nat, s.threads[i]? ≠ some .asleep) ∧
    ∃ more, ∀ p ∈ (s.run more).threads, ∃ answer, p = .done answer := by
  intro s takers seen
  have hi : Invariant calls takers seen s := .ofRun hcalls actions
  refine ⟨?_, ?_, fun i answer hr => hi.answered hr, hi.not_asleep, hi.exists_end⟩
  · intro i first hr
    obtain ⟨k, hk, hfirst⟩ := hi.first_returned hr
    obtain ⟨-, -, hhead⟩ := hi.fired hr
    refine ⟨k, hk, hfirst, ?_⟩
    rw [hhead, hk, Option.some_inj, eq_comm]
  · intro hf more
    obtain ⟨hflag, htold⟩ := told_of_run hf more
    refine ⟨hflag, ?_⟩
    intro i p answer hp hl hd
    obtain ⟨r, hr, hanswer⟩ := htold i p hp hl
    obtain rfl : Place.done answer = r := Option.some.inj (hd.symm.trans hr)
    exact hanswer

/-- One thread goes to sleep, two others fire, and it is woken while the second of them takes the
lock. -/
def wokenInTime : List Action :=
  [.go 0, .go 0, .look 0 false, .go 2, .go 2, .go 2, .go 2, .go 1, .go 1, .go 1]

theorem fires_once_and_wakes_all_wokenInTime :
    let calls : List Place := [.await, .fire, .fire]
    let s := (start false calls).run wokenInTime
    s.threads = [.await, .release false, .done true] ∧
    (∃ k, ((start false calls).notes State.taker? wokenInTime).head? = some k ∧ 2 = k) ∧
    ∀ answer, (s.run [.go 1, .go 0, .go 0, .go 0]).threads[0]? = some (.done answer) →
      answer = true := by
  intro calls s
  have hthreads : s.threads = [.await, .release false, .done true] := by decide
  have hflag : s.flag = true := by decide
  obtain ⟨hfirst, hset, -⟩ := fires_once_and_wakes_all calls (by decide) wokenInTime
  have hdone : s.Returned calls .fire 2 true := ⟨rfl, by rw [hthreads]; rfl⟩
  obtain ⟨k, hk, -, hiff⟩ := hfirst 2 true hdone
  refine ⟨hthreads, ⟨k, hk, hiff.mp rfl⟩, ?_⟩
  intro answer hanswer
  exact (hset hflag _).2 0 .await answer (by rw [hthreads]; rfl) rfl hanswer

end StoreBench.Run.Signal
