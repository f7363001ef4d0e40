import Mathlib.Data.List.Induction
import StoreBench.Run.Signal

/-!
Every way in which a thread goes on with a signal, and the notes that can be taken of it: which
thread took the lock to set the flag, and what a thread saw while it had the lock.
-/
namespace StoreBench.Run.Signal

/-- What an action does to a signal and its threads, with the conditions under which it is
possible. -/
inductive Moves (s : State) : Action → State → Prop where
  | poll {i : Nat} (hp : s.threads[i]? = some .poll) : Moves s (.go i) (s.move i (.done s.flag))
  | take {i : Nat} (hp : s.threads[i]? = some .fire) (hh : s.holder = none) :
      Moves s (.go i) { s.move i .set with holder := some i }
  | set {i : Nat} (hp : s.threads[i]? = some .set) :
      Moves s (.go i) { s.move i (.wakeAll !s.flag) with flag := true }
  | wakeAll {i : Nat} {first : Bool} (hp : s.threads[i]? = some (.wakeAll first)) :
      Moves s (.go i) (s.wakeSleepers.move i (.release first))
  | enter {i : Nat} (hp : s.threads[i]? = some .await) (hh : s.holder = none) :
      Moves s (.go i) { s.move i .check with holder := some i }
  | find {i : Nat} (hp : s.threads[i]? = some .check) (hf : s.flag = true) :
      Moves s (.go i) (s.move i (.release true))
  | miss {i : Nat} (hp : s.threads[i]? = some .check) (hf : s.flag = false) :
      Moves s (.go i) (s.move i .clock)
  | leave {i : Nat} {answer : Bool} (hp : s.threads[i]? = some (.release answer)) :
      Moves s (.go i) (s.giveUp i (.done answer))
  | expire {i : Nat} (hp : s.threads[i]? = some .clock) :
      Moves s (.look i true) (s.move i (.release false))
  | sleep {i : Nat} (hp : s.threads[i]? = some .clock) :
      Moves s (.look i false) (s.giveUp i .asleep)
  | wake {i : Nat} (hp : s.threads[i]? = some .asleep) : Moves s (.wake i) (s.move i .await)

theorem acquire_eq_some {s t : State} {i : Nat} {p : Place} (h : s.acquire i p = some t) :
    s.holder = none ∧ t = { s.move i p with holder := some i } := by
  unfold State.acquire at h
  split at h
  · next hh => exact ⟨hh, (Option.some.inj h).symm⟩
  · cases h

theorem Moves.of_go {s t : State} {i : Nat} (h : s.go i = some t) : Moves s (.go i) t := by
  unfold State.go at h
  split at h
  · next hp => exact Option.some.inj h ▸ .poll hp
  · next hp =>
    obtain ⟨hh, rfl⟩ := acquire_eq_some h
    exact .take hp hh
  · next hp => exact Option.some.inj h ▸ .set hp
  · next hp => exact Option.some.inj h ▸ .wakeAll hp
  · next hp =>
    obtain ⟨hh, rfl⟩ := acquire_eq_some h
    exact .enter hp hh
  · next hp =>
    have ht := Option.some.inj h
    by_cases hf : s.flag = true
    · rw [if_pos hf] at ht
      exact ht ▸ .find hp hf
    · rw [if_neg hf] at ht
      exact ht ▸ .miss hp (eq_false_of_ne_true hf)
  · next hp => exact Option.some.inj h ▸ .leave hp
  · cases h

theorem Moves.of_next {s t : State} {a : Action} (h : s.next a = some t) : Moves s a t := by
  cases a with
  | go i => exact .of_go h
  | look i late =>
    simp only [State.next] at h
    split at h
    · next hp =>
      cases late with
      | true => exact Option.some.inj h ▸ .expire hp
      | false => exact Option.some.inj h ▸ .sleep hp
    · cases h
  | wake i =>
    simp only [State.next] at h
    split at h
    · next hp => exact Option.some.inj h ▸ .wake hp
    · cases h

theorem Moves.next_eq {s t : State} {a : Action} (h : Moves s a t) : s.next a = some t := by
  cases h with
  | poll hp => simp [State.next, State.go, hp]
  | take hp hh => simp [State.next, State.go, State.acquire, hp, hh]
  | set hp => simp [State.next, State.go, hp]
  | wakeAll hp => simp [State.next, State.go, hp]
  | enter hp hh => simp [State.next, State.go, State.acquire, hp, hh]
  | find hp hf => simp [State.next, State.go, hp, hf]
  | miss hp hf => simp [State.next, State.go, hp, hf]
  | leave hp => simp [State.next, State.go, hp]
  | expire hp => simp [State.next, hp]
  | sleep hp => simp [State.next, hp]
  | wake hp => simp [State.next, hp]

/-- What a thread sees while it has the lock. -/
inductive Glance where
  | flag (isSet : Bool)
  | clock (late : Bool)
  deriving DecidableEq

namespace State

/-- What thread `i` sees by an action while it has the lock. -/
def glance? (s : State) (i : Nat) : Action → Option Glance
  | .go j =>
    if j = i ∧ s.holder = some i ∧ s.threads[i]? = some .check then some (.flag s.flag) else none
  | .look j late =>
    if j = i ∧ s.holder = some i ∧ s.threads[i]? = some .clock then some (.clock late) else none
  | .wake _ => none

/-- The thread that takes the lock by an action, to set the flag. -/
def taker? (s : State) : Action → Option Nat
  | .go i => if s.threads[i]? = some .fire ∧ s.holder = none then some i else none
  | _ => none

def notes {α : Type} (note? : State → Action → Option α) (s : State) : List Action → List α
  | [] => []
  | a :: rest => (note? s a).toList ++ notes note? ((s.next a).getD s) rest

theorem run_append (s : State) (before after : List Action) :
    s.run (before ++ after) = (s.run before).run after := List.foldl_append

theorem notes_concat {α : Type} (note? : State → Action → Option α) (s : State) (done : List Action)
    (a : Action) : s.notes note? (done ++ [a]) =
      s.notes note? done ++ (note? (s.run done) a).toList := by
  induction done generalizing s with
  | nil => simp [notes, run]
  | cons b done ih =>
    have ih := ih ((s.next b).getD s)
    simp only [List.cons_append, notes, ih, List.append_assoc]
    rfl

/-- What holds at the start and is kept by every action, possible or not, holds after every run. -/
theorem run_induction {s : State} {P : List Action → State → Prop} (start : P [] s)
    (step : ∀ {done a u}, P done (s.run done) → Moves (s.run done) a u → P (done ++ [a]) u)
    (skip : ∀ {done a}, P done (s.run done) → (s.run done).next a = none →
      P (done ++ [a]) (s.run done)) (actions : List Action) : P actions (s.run actions) := by
  induction actions using List.reverseRecOn with
  | nil => exact start
  | append_singleton done a ih =>
    have hrun : s.run (done ++ [a]) = ((s.run done).next a).getD (s.run done) :=
      run_append s done [a]
    rw [hrun]
    cases hn : (s.run done).next a with
    | none => exact skip ih hn
    | some u => exact step ih (.of_next hn)

theorem glance?_eq_none {s : State} {a : Action} (h : s.next a = none) (i : Nat) :
    s.glance? i a = none := by
  cases a with
  | go j =>
    refine if_neg ?_
    rintro ⟨rfl, -, hp⟩
    simp [next, go, hp] at h
  | look j late =>
    refine if_neg ?_
    rintro ⟨rfl, -, hp⟩
    simp [next, hp] at h
  | wake j => rfl

theorem taker?_eq_none {s : State} {a : Action} (h : s.next a = none) : s.taker? a = none := by
  cases a with
  | go j =>
    refine if_neg ?_
    rintro ⟨hp, hh⟩
    simp [next, go, acquire, hp, hh] at h
  | look j late => rfl
  | wake j => rfl

section Notes

variable {s : State} {i k : Nat} {p : Place}

theorem glance?_go_ne (h : k ≠ i) : s.glance? k (.go i) = none :=
  if_neg fun he => h he.1.symm

theorem glance?_look_ne (h : k ≠ i) (late : Bool) : s.glance? k (.look i late) = none :=
  if_neg fun he => h he.1.symm

theorem glance?_go_eq_none (hp : s.threads[i]? = some p) (hne : p ≠ .check) (k : Nat) :
    s.glance? k (.go i) = none := by
  refine if_neg ?_
  rintro ⟨rfl, -, hk⟩
  exact hne (Option.some.inj (hp.symm.trans hk))

theorem taker?_go_eq_none (hp : s.threads[i]? = some p) (hne : p ≠ .fire) :
    s.taker? (.go i) = none := by
  refine if_neg ?_
  rintro ⟨hk, -⟩
  exact hne (Option.some.inj (hp.symm.trans hk))

end Notes

section Places

variable {s : State} {i j : Nat} {p q r : Place}

theorem threads_move_self (hp : s.threads[i]? = some p) (q : Place) :
    (s.move i q).threads[i]? = some q := by
  obtain ⟨hi, -⟩ := List.getElem?_eq_some_iff.mp hp
  exact List.getElem?_set_self hi

theorem threads_move_ne (h : j ≠ i) (q : Place) :
    (s.move i q).threads[j]? = s.threads[j]? :=
  List.getElem?_set_ne (Ne.symm h)

theorem threads_wakeSleepers (s : State) (i : Nat) :
    s.wakeSleepers.threads[i]? = s.threads[i]?.map fun p => if p = .asleep then .await else p :=
  List.getElem?_map

theorem threads_wakeSleepers_ne (s : State) (i : Nat) :
    s.wakeSleepers.threads[i]? ≠ some .asleep := by
  rw [threads_wakeSleepers]
  intro h
  obtain ⟨p, -, he⟩ := Option.map_eq_some_iff.mp h
  by_cases hp : p = .asleep
  · rw [if_pos hp] at he
    cases he
  · rw [if_neg hp] at he
    exact hp he

/-- After a move of thread `i` to another place, every thread is there or where it was. -/
theorem threads_move (hp : s.threads[i]? = some p) (hj : (s.move i q).threads[j]? = some r) :
    j = i ∧ r = q ∨ j ≠ i ∧ s.threads[j]? = some r := by
  by_cases h : j = i
  · subst h
    rw [threads_move_self hp] at hj
    exact .inl ⟨rfl, (Option.some.inj hj).symm⟩
  · rw [threads_move_ne h] at hj
    exact .inr ⟨h, hj⟩

end Places

end State

end StoreBench.Run.Signal
