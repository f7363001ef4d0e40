import StoreBench.Proofs.Run.Signal.Moves

/-!
What holds at any time of a signal and its threads: who has the lock, what each thread knows at its
place, and that nobody sleeps once the flag is set and all have been woken.
-/
namespace StoreBench.Run.Signal

/-- At most one thread has the lock, and it is where the lock is needed. -/
structure State.Exclusive (s : State) : Prop where
  holds : ∀ i p, s.threads[i]? = some p → p.holds = true → s.holder = some i
  held : ∀ i, s.holder = some i → ∃ p, s.threads[i]? = some p ∧ p.holds = true

namespace State.Exclusive

variable {s : State} {i : Nat} {p q : Place}

theorem move (h : s.Exclusive) (hp : s.threads[i]? = some p) (hq : q.holds = p.holds) :
    (s.move i q).Exclusive := by
  constructor
  · intro k r hk hr
    obtain ⟨rfl, rfl⟩ | ⟨-, hk⟩ := threads_move hp hk
    · exact h.holds _ p hp (hq ▸ hr)
    · exact h.holds k r hk hr
  · intro k hk
    obtain ⟨r, hr, hholds⟩ := h.held k hk
    by_cases he : k = i
    · subst he
      obtain rfl : p = r := Option.some.inj (hp.symm.trans hr)
      exact ⟨q, threads_move_self hp q, hq ▸ hholds⟩
    · exact ⟨r, (threads_move_ne he q).trans hr, hholds⟩

theorem acquire (h : s.Exclusive) (hp : s.threads[i]? = some p) (hh : s.holder = none)
    (hq : q.holds = true) : ({ s.move i q with holder := some i } : State).Exclusive := by
  constructor
  · intro k r hk hr
    obtain ⟨rfl, -⟩ | ⟨-, hk⟩ := threads_move hp hk
    · rfl
    · cases hh.symm.trans (h.holds k r hk hr)
  · intro k hk
    obtain rfl : i = k := Option.some.inj hk
    exact ⟨q, threads_move_self hp q, hq⟩

theorem giveUp (h : s.Exclusive) (hp : s.threads[i]? = some p) (hholds : p.holds = true)
    (hq : q.holds = false) : (s.giveUp i q).Exclusive := by
  constructor
  · intro k r hk hr
    obtain ⟨-, rfl⟩ | ⟨hne, hk⟩ := threads_move hp hk
    · cases hq.symm.trans hr
    · have he := (h.holds k r hk hr).symm.trans (h.holds i p hp hholds)
      exact absurd (Option.some.inj he) hne
  · intro k hk
    cases hk

theorem wakeSleepers (h : s.Exclusive) : s.wakeSleepers.Exclusive := by
  constructor
  · intro k r hk hr
    rw [threads_wakeSleepers] at hk
    obtain ⟨p, hp, rfl⟩ := Option.map_eq_some_iff.mp hk
    by_cases he : p = .asleep
    · rw [if_pos he] at hr
      cases hr
    · rw [if_neg he] at hr
      exact h.holds k p hp hr
  · intro k hk
    obtain ⟨p, hp, hholds⟩ := h.held k hk
    have he : p ≠ .asleep := fun he => by simp [he, Place.holds] at hholds
    exact ⟨p, by simp [threads_wakeSleepers, hp, he], hholds⟩

end State.Exclusive

/-- Thread `i` goes from one place to another; it leaves the flag and the other threads as they
are. -/
structure Goes (s t : State) (i : Nat) (p q : Place) : Prop where
  place : s.threads[i]? = some p
  flag : t.flag = s.flag
  threads : t.threads = (s.move i q).threads
  exclusive : s.Exclusive → t.Exclusive

namespace Goes

variable {s : State} {i : Nat} {p q : Place}

theorem move (hp : s.threads[i]? = some p) (hq : q.holds = p.holds := by rfl) :
    Goes s (s.move i q) i p q :=
  ⟨hp, rfl, rfl, fun h => h.move hp hq⟩

theorem acquire (hp : s.threads[i]? = some p) (hh : s.holder = none)
    (hq : q.holds = true := by rfl) : Goes s { s.move i q with holder := some i } i p q :=
  ⟨hp, rfl, rfl, fun h => h.acquire hp hh hq⟩

theorem giveUp (hp : s.threads[i]? = some p) (hholds : p.holds = true := by rfl)
    (hq : q.holds = false := by rfl) : Goes s (s.giveUp i q) i p q :=
  ⟨hp, rfl, rfl, fun h => h.giveUp hp hholds hq⟩

end Goes

/-- A call that set the flag knows whether it was the first that took the lock for it. -/
def Fired (flag : Bool) (takers : List Nat) (i : Nat) (first : Bool) : Prop :=
  flag = true ∧ i ∈ takers ∧ (first = true ↔ takers.head? = some i)

/-- What a thread saw last before an answer to its wait. -/
def Answers (flag : Bool) (seen : List Glance) : Bool → Prop
  | true => flag = true ∧ [.flag true] <:+ seen
  | false => [.flag false, .clock true] <:+ seen

/-- What is known at a place, by the place where thread `i` began. -/
inductive Knows (flag : Bool) (takers : List Nat) (seen : List Glance) (i : Nat) :
    Place → Place → Prop where
  | polling : Knows flag takers seen i .poll .poll
  | polled {answer : Bool} (h : answer = true → flag = true) :
      Knows flag takers seen i .poll (.done answer)
  | outside (h : i ∉ takers) : Knows flag takers seen i .fire .fire
  | setting (hmem : i ∈ takers) (h : flag = true ↔ takers.head? ≠ some i) :
      Knows flag takers seen i .fire .set
  | waking {first : Bool} (h : Fired flag takers i first) :
      Knows flag takers seen i .fire (.wakeAll first)
  | firing {first : Bool} (h : Fired flag takers i first) :
      Knows flag takers seen i .fire (.release first)
  | fired {first : Bool} (h : Fired flag takers i first) :
      Knows flag takers seen i .fire (.done first)
  | awaiting : Knows flag takers seen i .await .await
  | checking : Knows flag takers seen i .await .check
  | missed (hf : flag = false) (hs : [.flag false] <:+ seen) :
      Knows flag takers seen i .await .clock
  | sleeping : Knows flag takers seen i .await .asleep
  | answering {answer : Bool} (h : Answers flag seen answer) :
      Knows flag takers seen i .await (.release answer)
  | answered {answer : Bool} (h : Answers flag seen answer) :
      Knows flag takers seen i .await (.done answer)

section Later

variable {flag : Bool} {takers : List Nat} {seen : List Glance} {i : Nat} {c p : Place}

theorem Knows.of_fire (h : Knows flag takers seen i c .fire) : c = .fire ∧ i ∉ takers := by
  cases h with
  | outside h => exact ⟨rfl, h⟩

theorem Knows.of_set (h : Knows flag takers seen i c .set) :
    c = .fire ∧ i ∈ takers ∧ (flag = true ↔ takers.head? ≠ some i) := by
  cases h with
  | setting hmem h => exact ⟨rfl, hmem, h⟩

theorem Knows.of_wakeAll {first : Bool} (h : Knows flag takers seen i c (.wakeAll first)) :
    c = .fire ∧ Fired flag takers i first := by
  cases h with
  | waking h => exact ⟨rfl, h⟩

theorem Knows.of_clock (h : Knows flag takers seen i c .clock) :
    flag = false ∧ [.flag false] <:+ seen := by
  cases h with
  | missed hf hs => exact ⟨hf, hs⟩

theorem Fired.taken {first : Bool} (h : Fired flag takers i first) (j : Nat) :
    Fired flag (takers ++ [j]) i first := by
  obtain ⟨hflag, hmem, hfirst⟩ := h
  refine ⟨hflag, List.mem_append_left [j] hmem, ?_⟩
  obtain ⟨x, rest, rfl⟩ := List.exists_cons_of_ne_nil (List.ne_nil_of_mem hmem)
  exact hfirst

theorem Answers.flagged {answer : Bool} (h : Answers flag seen answer) :
    Answers true seen answer := by
  cases answer with
  | true => exact ⟨rfl, h.2⟩
  | false => exact h

/-- Another thread takes the lock to set the flag. -/
theorem Knows.taken (h : Knows flag takers seen i c p) {j : Nat} (hj : i ≠ j) (hp : p ≠ .set) :
    Knows flag (takers ++ [j]) seen i c p := by
  cases h with
  | polling => exact .polling
  | polled h => exact .polled h
  | outside h =>
    refine .outside fun hmem => ?_
    exact (List.mem_append.mp hmem).elim h fun he => hj (List.mem_singleton.mp he)
  | setting => exact absurd rfl hp
  | waking h => exact .waking (h.taken j)
  | firing h => exact .firing (h.taken j)
  | fired h => exact .fired (h.taken j)
  | awaiting => exact .awaiting
  | checking => exact .checking
  | missed hf hs => exact .missed hf hs
  | sleeping => exact .sleeping
  | answering h => exact .answering h
  | answered h => exact .answered h

/-- Another thread sets the flag. -/
theorem Knows.flagged (h : Knows flag takers seen i c p) (hset : p ≠ .set) (hclock : p ≠ .clock) :
    Knows true takers seen i c p := by
  cases h with
  | polling => exact .polling
  | polled => exact .polled fun _ => rfl
  | outside h => exact .outside h
  | setting => exact absurd rfl hset
  | waking h => exact .waking ⟨rfl, h.2⟩
  | firing h => exact .firing ⟨rfl, h.2⟩
  | fired h => exact .fired ⟨rfl, h.2⟩
  | awaiting => exact .awaiting
  | checking => exact .checking
  | missed => exact absurd rfl hclock
  | sleeping => exact .sleeping
  | answering h => exact .answering h.flagged
  | answered h => exact .answered h.flagged

end Later

/-- What holds at any time; `takers` took the lock to set the flag, one after another, and `seen`
is what each thread saw while it had the lock. -/
structure Invariant (calls : List Place) (takers : List Nat) (seen : Nat → List Glance)
    (s : State) :
    Prop where
  exclusive : s.Exclusive
  length : s.threads.length = calls.length
  knows : ∀ (i : Nat) (p : Place), s.threads[i]? = some p →
    ∃ c, calls[i]? = some c ∧ Knows s.flag takers (seen i) i c p
  /-- While somebody sleeps, the flag is not set, or a thread is about to wake all sleepers. -/
  awake : s.flag = true → ∀ i : Nat, s.threads[i]? = some .asleep →
    ∃ (j : Nat) (first : Bool), s.threads[j]? = some (.wakeAll first)
  unset : s.flag = false → takers = [] ∨ ∃ i : Nat, s.threads[i]? = some .set ∧ takers = [i]
  taken : s.flag = true → takers ≠ []
  /-- The first taker has come to its end, or it is the only one and has still got the lock. -/
  first : ∀ i : Nat, takers.head? = some i → calls[i]? = some .fire ∧
    (s.threads[i]? = some (.done true) ∨ s.holder = some i ∧ takers = [i])

namespace Invariant

open State

variable {calls : List Place} {takers : List Nat} {seen : Nat → List Glance} {s t : State} {i : Nat}
  {p q : Place}

theorem knows_at (h : Invariant calls takers seen s) {c : Place} (hc : calls[i]? = some c)
    (hp : s.threads[i]? = some p) : Knows s.flag takers (seen i) i c p := by
  obtain ⟨c', hc', hk⟩ := h.knows i p hp
  obtain rfl : c = c' := Option.some.inj (hc.symm.trans hc')
  exact hk

theorem ofStart (hcalls : ∀ p ∈ calls, p = .poll ∨ p = .fire ∨ p = .await) :
    Invariant calls [] (fun _ => []) (start false calls) := by
  have hstart {i : Nat} {p : Place} (hp : (start false calls).threads[i]? = some p) :
      p = .poll ∨ p = .fire ∨ p = .await := hcalls p (List.mem_of_getElem? hp)
  refine ⟨⟨?_, ?_⟩, rfl, ?_, ?_, fun _ => .inl rfl, ?_, ?_⟩
  · intro i p hp hholds
    obtain rfl | rfl | rfl := hstart hp <;> cases hholds
  · intro i hi
    cases hi
  · intro i p hp
    refine ⟨p, hp, ?_⟩
    obtain rfl | rfl | rfl := hstart hp
    · exact .polling
    · exact .outside List.not_mem_nil
    · exact .awaiting
  · intro hf
    cases hf
  · intro hf
    cases hf
  · intro i hi
    cases hi

/-- A thread goes on, but for taking the lock to set the flag and setting it. It leaves the place
where it wakes all sleepers only if there are none left, and it sleeps only if the flag is not
set. -/
theorem goOn (h : Invariant calls takers seen s) (g : Goes s t i p q) (hset : p ≠ .set)
    (hwake : ∀ first, p = .wakeAll first → ∀ k : Nat, s.threads[k]? ≠ some .asleep)
    (hdone : ∀ answer, p ≠ .done answer) (hasleep : q = .asleep → s.flag = false)
    {seen' : Nat → List Glance} (hseen : ∀ k, k ≠ i → seen' k = seen k)
    (hown : ∀ c, Knows s.flag takers (seen i) i c p → Knows s.flag takers (seen' i) i c q)
    (hholder : ∀ k, calls[k]? = some .fire → s.holder = some k → takers = [k] →
      t.holder = some k ∨ k = i ∧ q = .done true) :
    Invariant calls takers seen' t := by
  have hp := g.place
  have hflag := g.flag
  have hthreads := g.threads
  have hkept {k : Nat} {r : Place} (hk : s.threads[k]? = some r) (hr : r ≠ p) :
      t.threads[k]? = some r := by
    have hne : k ≠ i := by
      rintro rfl
      exact hr (Option.some.inj (hk.symm.trans hp))
    rw [hthreads, threads_move_ne hne]
    exact hk
  have hself : t.threads[i]? = some q := by
    rw [hthreads]
    exact threads_move_self hp q
  refine ⟨g.exclusive h.exclusive, ?_, ?_, ?_, ?_, ?_, ?_⟩
  · rw [hthreads]
    exact (List.length_set ..).trans h.length
  · intro k r hk
    rw [hthreads] at hk
    rw [hflag]
    obtain ⟨rfl, rfl⟩ | ⟨hne, hk⟩ := threads_move hp hk
    · obtain ⟨c, hc, hknows⟩ := h.knows k p hp
      exact ⟨c, hc, hown c hknows⟩
    · rw [hseen k hne]
      exact h.knows k r hk
  · intro hf k hk
    rw [hflag] at hf
    rw [hthreads] at hk
    obtain ⟨-, he⟩ | ⟨-, hk⟩ := threads_move hp hk
    · cases hf.symm.trans (hasleep he.symm)
    · obtain ⟨j, first, hj⟩ := h.awake hf k hk
      exact ⟨j, first, hkept hj fun he => hwake first he.symm k hk⟩
  · intro hf
    rw [hflag] at hf
    obtain hnil | ⟨k, hk, htakers⟩ := h.unset hf
    · exact .inl hnil
    · exact .inr ⟨k, hkept hk hset.symm, htakers⟩
  · rw [hflag]
    exact h.taken
  · intro k hk
    obtain ⟨hc, hd | ⟨hh, htakers⟩⟩ := h.first k hk
    · exact ⟨hc, .inl (hkept hd (hdone true).symm)⟩
    · obtain hh | ⟨rfl, rfl⟩ := hholder k hc hh htakers
      · exact ⟨hc, .inr ⟨hh, htakers⟩⟩
      · exact ⟨hc, .inl hself⟩

theorem take (h : Invariant calls takers seen s) (hp : s.threads[i]? = some .fire)
    (hh : s.holder = none) :
    Invariant calls (takers ++ [i]) seen { s.move i .set with holder := some i } := by
  obtain ⟨c, hc, hknows⟩ := h.knows i _ hp
  obtain ⟨rfl, hmem⟩ := hknows.of_fire
  have hkept {k : Nat} {r : Place} (hk : s.threads[k]? = some r) (hr : r ≠ .fire) :
      (s.move i .set).threads[k]? = some r := by
    have hne : k ≠ i := by
      rintro rfl
      exact hr (Option.some.inj (hk.symm.trans hp))
    exact (threads_move_ne hne .set).trans hk
  have hnotSet (k : Nat) : s.threads[k]? ≠ some .set := by
    intro hk
    cases hh.symm.trans (h.exclusive.holds k _ hk rfl)
  have hunset (hf : s.flag = false) : takers = [] := by
    obtain hnil | ⟨k, hk, -⟩ := h.unset hf
    · exact hnil
    · exact absurd hk (hnotSet k)
  refine ⟨h.exclusive.acquire hp hh rfl, (List.length_set ..).trans h.length, ?_, ?_, ?_, ?_, ?_⟩
  · intro k r hk
    obtain ⟨rfl, rfl⟩ | ⟨hne, hk⟩ := threads_move hp hk
    · refine ⟨.fire, hc, .setting (List.mem_append_right takers List.mem_cons_self) ?_⟩
      show s.flag = true ↔ _
      cases hf : s.flag with
      | false => simp [hunset hf]
      | true =>
        obtain ⟨x, rest, rfl⟩ := List.exists_cons_of_ne_nil (h.taken hf)
        have hx : x ≠ k := fun he => hmem (he ▸ List.mem_cons_self)
        simpa using hx
    · obtain ⟨c, hc, hknows⟩ := h.knows k r hk
      have hr : r ≠ .set := fun he => hnotSet k (he ▸ hk)
      exact ⟨c, hc, hknows.taken hne hr⟩
  · intro hf k hk
    obtain ⟨-, he⟩ | ⟨-, hk⟩ := threads_move hp hk
    · cases he
    · obtain ⟨j, first, hj⟩ := h.awake hf k hk
      exact ⟨j, first, hkept hj (by simp)⟩
  · intro hf
    rw [hunset hf]
    exact .inr ⟨i, threads_move_self hp .set, rfl⟩
  · intro _
    simp
  · intro k hk
    cases takers with
    | nil =>
      obtain rfl : i = k := by simpa using hk
      exact ⟨hc, .inr ⟨rfl, rfl⟩⟩
    | cons x rest =>
      obtain ⟨hck, hd | ⟨hk', -⟩⟩ := h.first k hk
      · exact ⟨hck, .inl (hkept hd (by simp))⟩
      · cases hh.symm.trans hk'

theorem set (h : Invariant calls takers seen s) (hp : s.threads[i]? = some .set) :
    Invariant calls takers seen { s.move i (.wakeAll !s.flag) with flag := true } := by
  obtain ⟨c, hc, hknows⟩ := h.knows i _ hp
  obtain ⟨rfl, hmem, hflag⟩ := hknows.of_set
  have hholder : s.holder = some i := h.exclusive.holds i _ hp rfl
  have hexclusive : (s.move i (.wakeAll !s.flag)).Exclusive := h.exclusive.move hp rfl
  refine ⟨⟨hexclusive.holds, hexclusive.held⟩, (List.length_set ..).trans h.length,
    ?_, ?_, ?_, ?_, ?_⟩
  · intro k r hk
    obtain ⟨rfl, rfl⟩ | ⟨hne, hk⟩ := threads_move hp hk
    · refine ⟨.fire, hc, .waking ⟨rfl, hmem, ?_⟩⟩
      cases hf : s.flag <;> simpa [hf] using hflag
    · have hnotHeld : r.holds ≠ true := by
        intro hr
        have he := (h.exclusive.holds k r hk hr).symm.trans hholder
        exact hne (Option.some.inj he)
      obtain ⟨c, hc, hknows⟩ := h.knows k r hk
      exact ⟨c, hc, hknows.flagged (fun he => hnotHeld (he ▸ rfl)) (fun he => hnotHeld (he ▸ rfl))⟩
  · intro _ k _
    exact ⟨i, _, threads_move_self hp _⟩
  · intro hf
    cases hf
  · intro _ hnil
    rw [hnil] at hmem
    cases hmem
  · intro k hk
    obtain ⟨hck, hd | hheld⟩ := h.first k hk
    · have hne : k ≠ i := by
        rintro rfl
        cases hd.symm.trans hp
      exact ⟨hck, .inl ((threads_move_ne hne _).trans hd)⟩
    · exact ⟨hck, .inr hheld⟩

theorem wakeSleepers (h : Invariant calls takers seen s) :
    Invariant calls takers seen s.wakeSleepers := by
  have hkept {k : Nat} {r : Place} (hk : s.threads[k]? = some r) (hr : r ≠ .asleep) :
      s.wakeSleepers.threads[k]? = some r := by
    simp [threads_wakeSleepers, hk, hr]
  refine ⟨h.exclusive.wakeSleepers, (List.length_map _).trans h.length, ?_, ?_, ?_, h.taken, ?_⟩
  · intro k r hk
    rw [threads_wakeSleepers] at hk
    obtain ⟨p, hp, rfl⟩ := Option.map_eq_some_iff.mp hk
    obtain ⟨c, hc, hknows⟩ := h.knows k p hp
    refine ⟨c, hc, ?_⟩
    by_cases he : p = .asleep
    · rw [if_pos he]
      subst he
      cases hknows
      exact .awaiting
    · rw [if_neg he]
      exact hknows
  · intro _ k hk
    exact absurd hk (s.threads_wakeSleepers_ne k)
  · intro hf
    obtain hnil | ⟨k, hk, htakers⟩ := h.unset hf
    · exact .inl hnil
    · exact .inr ⟨k, hkept hk (by simp), htakers⟩
  · intro k hk
    obtain ⟨hck, hd | hheld⟩ := h.first k hk
    · exact ⟨hck, .inl (hkept hd (by simp))⟩
    · exact ⟨hck, .inr hheld⟩

theorem wakeAll (h : Invariant calls takers seen s) {first : Bool}
    (hp : s.threads[i]? = some (.wakeAll first)) :
    Invariant calls takers seen (s.wakeSleepers.move i (.release first)) := by
  have hp' : s.wakeSleepers.threads[i]? = some (.wakeAll first) := by
    simp [threads_wakeSleepers, hp]
  refine h.wakeSleepers.goOn (.move hp') (by simp) (fun _ _ => s.threads_wakeSleepers_ne) (by simp)
    (by simp) (fun _ _ => rfl) ?_ fun _ _ hh _ => .inl hh
  intro c hknows
  obtain ⟨rfl, hfired⟩ := hknows.of_wakeAll
  exact .firing hfired

theorem leave (h : Invariant calls takers seen s) {answer : Bool}
    (hp : s.threads[i]? = some (.release answer)) :
    Invariant calls takers seen (s.giveUp i (.done answer)) := by
  refine h.goOn (.giveUp hp) (by simp) (by simp) (by simp) (by simp) (fun _ _ => rfl) ?_ ?_
  · intro c hknows
    cases hknows with
    | firing h => exact .fired h
    | answering h => exact .answered h
  · intro k hc hh htakers
    have he := (h.exclusive.holds i _ hp rfl).symm.trans hh
    obtain rfl : i = k := Option.some.inj he
    cases h.knows_at hc hp with
    | firing hfired =>
      have hanswer : answer = true := hfired.2.2.mpr (by rw [htakers]; rfl)
      exact .inr ⟨rfl, hanswer ▸ rfl⟩

/-- A thread that waits goes on while it has the lock, with what it has seen. -/
theorem look (h : Invariant calls takers seen s) (g : Goes s t i p q) (hp : p = .check ∨ p = .clock)
    (hasleep : q = .asleep → s.flag = false) {seen' : Nat → List Glance}
    (hseen : ∀ k, k ≠ i → seen' k = seen k)
    (hown : Knows s.flag takers (seen i) i .await p → Knows s.flag takers (seen' i) i .await q) :
    Invariant calls takers seen' t := by
  refine h.goOn g ?_ ?_ ?_ hasleep hseen ?_ ?_
  · obtain rfl | rfl := hp <;> simp
  · obtain rfl | rfl := hp <;> simp
  · obtain rfl | rfl := hp <;> simp
  · intro c hknows
    obtain rfl | rfl := hp
    · cases hknows
      exact hown .checking
    · obtain ⟨hf, hs⟩ := hknows.of_clock
      cases hknows
      exact hown (.missed hf hs)
  · intro k hc hh _
    have hholds : p.holds = true := by obtain rfl | rfl := hp <;> rfl
    have he := (h.exclusive.holds i p g.place hholds).symm.trans hh
    obtain rfl : i = k := Option.some.inj he
    have hknows := h.knows_at hc g.place
    obtain rfl | rfl := hp <;> cases hknows

/-- Every action keeps what holds, with the notes that are taken of it. -/
theorem step (h : Invariant calls takers seen s) {a : Action} (hm : Moves s a t) :
    Invariant calls (takers ++ (s.taker? a).toList)
      (fun k => seen k ++ (s.glance? k a).toList) t := by
  have hquiet {u : State} (htaker : s.taker? a = none) (hglance : ∀ k, s.glance? k a = none)
      (hu : Invariant calls takers seen u) :
      Invariant calls (takers ++ (s.taker? a).toList)
        (fun k => seen k ++ (s.glance? k a).toList) u := by
    simpa [htaker, hglance] using hu
  cases hm with
  | poll hp =>
    refine hquiet (taker?_go_eq_none hp (by simp)) (glance?_go_eq_none hp (by simp)) ?_
    refine h.goOn (.move hp) (by simp) (by simp) (by simp) (by simp) (fun _ _ => rfl) ?_
      fun _ _ hh _ => .inl hh
    rintro c ⟨⟩
    exact .polled id
  | @take i hp hh =>
    have htaker : s.taker? (.go i) = some i := if_pos ⟨hp, hh⟩
    have hglance := glance?_go_eq_none hp (by simp)
    simpa [htaker, hglance] using h.take hp hh
  | set hp =>
    exact hquiet (taker?_go_eq_none hp (by simp)) (glance?_go_eq_none hp (by simp)) (h.set hp)
  | wakeAll hp =>
    exact hquiet (taker?_go_eq_none hp (by simp)) (glance?_go_eq_none hp (by simp)) (h.wakeAll hp)
  | enter hp hh =>
    refine hquiet (taker?_go_eq_none hp (by simp)) (glance?_go_eq_none hp (by simp)) ?_
    refine h.goOn (.acquire hp hh) (by simp) (by simp) (by simp) (by simp) (fun _ _ => rfl) ?_ ?_
    · rintro c ⟨⟩
      exact .checking
    · intro k _ hk
      cases hh.symm.trans hk
  | @find i hp hf =>
    have hholder := h.exclusive.holds i _ hp rfl
    have hglance : s.glance? i (.go i) = some (.flag s.flag) := if_pos ⟨rfl, hholder, hp⟩
    rw [taker?_go_eq_none hp (by simp), Option.toList_none, List.append_nil]
    refine h.look (.move hp) (.inl rfl) (by simp) (fun k hk => ?_) fun _ => .answering ⟨hf, ?_⟩
    · rw [glance?_go_ne hk, Option.toList_none, List.append_nil]
    · rw [hglance, hf]
      exact List.suffix_append _ _
  | @miss i hp hf =>
    have hholder := h.exclusive.holds i _ hp rfl
    have hglance : s.glance? i (.go i) = some (.flag s.flag) := if_pos ⟨rfl, hholder, hp⟩
    rw [taker?_go_eq_none hp (by simp), Option.toList_none, List.append_nil]
    refine h.look (.move hp) (.inl rfl) (by simp) (fun k hk => ?_) fun _ => .missed hf ?_
    · rw [glance?_go_ne hk, Option.toList_none, List.append_nil]
    · rw [hglance, hf]
      exact List.suffix_append _ _
  | leave hp =>
    exact hquiet (taker?_go_eq_none hp (by simp)) (glance?_go_eq_none hp (by simp)) (h.leave hp)
  | @expire i hp =>
    have hholder := h.exclusive.holds i _ hp rfl
    have hglance : s.glance? i (.look i true) = some (.clock true) := if_pos ⟨rfl, hholder, hp⟩
    rw [show s.taker? (.look i true) = none from rfl, Option.toList_none, List.append_nil]
    refine h.look (.move hp) (.inr rfl) (by simp) (fun k hk => ?_) fun hknows => .answering ?_
    · rw [glance?_look_ne hk, Option.toList_none, List.append_nil]
    · obtain ⟨before, he⟩ := hknows.of_clock.2
      refine ⟨before, ?_⟩
      rw [hglance, ← he, List.append_assoc]
      rfl
  | @sleep i hp =>
    rw [show s.taker? (.look i false) = none from rfl, Option.toList_none, List.append_nil]
    refine h.look (.giveUp hp) (.inr rfl) (fun _ => ?_) (fun k hk => ?_) fun _ => .sleeping
    · obtain ⟨c, -, hknows⟩ := h.knows i _ hp
      exact hknows.of_clock.1
    · rw [glance?_look_ne hk, Option.toList_none, List.append_nil]
  | wake hp =>
    refine hquiet rfl (fun _ => rfl) ?_
    refine h.goOn (.move hp) (by simp) (by simp) (by simp) (by simp) (fun _ _ => rfl) ?_
      fun _ _ hh _ => .inl hh
    rintro c ⟨⟩
    exact .awaiting

/-- What holds after any actions, with the notes that are taken of them. -/
theorem ofRun (hcalls : ∀ p ∈ calls, p = .poll ∨ p = .fire ∨ p = .await) (actions : List Action) :
    Invariant calls ((start false calls).notes taker? actions)
      (fun k => (start false calls).notes (glance? · k) actions)
      ((start false calls).run actions) := by
  induction actions using run_induction (s := start false calls) with
  | start => exact .ofStart hcalls
  | step ih hm =>
    simp only [notes_concat]
    exact ih.step hm
  | skip ih hn =>
    simpa only [notes_concat, taker?_eq_none hn, glance?_eq_none hn, Option.toList_none,
      List.append_nil] using ih

end Invariant

end StoreBench.Run.Signal
