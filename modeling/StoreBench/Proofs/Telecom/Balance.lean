import StoreBench.Proofs.Telecom.Integrity
import Mathlib.Data.List.Chain

/-!
Accounts of the forwardings. The results that clients get tell how many there are, and which: for
every key, insertions and deletions that succeed take turns.
-/
namespace StoreBench.Telecom

/-- Changes that take turns, from a time when something is there (`before`) or not to a time when it
is (`after`) or not. -/
structure Alternates (before after : Prop) (changes : List Change) : Prop where
  chain : changes.IsChain (· ≠ ·)
  first : ∀ c ∈ changes.head?, before ↔ c = .removed
  last : after ↔ changes.getLast? = some .added ∨ (changes = [] ∧ before)

namespace Alternates

variable {before between after : Prop} {changes : List Change}

theorem nil (h : after ↔ before) : Alternates before after [] := ⟨.nil, by simp, by simpa using h⟩

theorem cons {c : Change} (h : Alternates between after changes) (hb : before ↔ c = .removed)
    (hc : between ↔ c = .added) : Alternates before after (c :: changes) := by
  refine ⟨h.chain.cons ?_, by simpa using hb, ?_⟩
  · rintro d hd rfl
    -- What is there after an addition is not added again, and likewise for removals.
    have := hc.symm.trans (h.first c hd)
    cases c <;> simp at this
  · rw [h.last, hc]
    cases changes with
    | nil => simp
    | cons d changes => simp [List.getLast?_cons_cons]

end Alternates

/-- The change that was made to the forwarding with a key, if any. -/
def changeAt? (key : ForwardingKey) : Option (Change × ForwardingKey) → Option Change
  | some (c, k) => if k = key then some c else none
  | none => none

def changesAt (t : Tables) (key : ForwardingKey) (calls : List Call)
    (results : List (Except Failure Outcome)) : List Change :=
  (calls.zip results).filterMap fun c => changeAt? key (c.1.2.made? t c.2)

def isSuccess : Except Failure Outcome → Bool
  | .ok .success => true
  | _ => false

def successes (kind : ProcedureKind) (calls : List Call) (results : List (Except Failure Outcome)) :
    Nat :=
  (calls.zip results).countP fun c => c.1.2.kindOf = kind && isSuccess c.2

namespace Effect

variable {keys after : List ForwardingKey} {made : Option (Change × ForwardingKey)}

theorem mem_iff_of_changeAt?_eq_none (h : Effect keys made after) {key : ForwardingKey}
    (hc : changeAt? key made = none) : key ∈ after ↔ key ∈ keys := by
  cases h with
  | unchanged => rfl
  | @added k _ =>
    have hne : k ≠ key := by simpa [changeAt?] using hc
    simp [hne.symm]
  | @removed k _ =>
    have hne : k ≠ key := by simpa [changeAt?] using hc
    simp [hne.symm]

theorem mem_iff_of_changeAt?_eq_some (h : Effect keys made after) {key : ForwardingKey} {c : Change}
    (hc : changeAt? key made = some c) :
    (key ∈ keys ↔ c = .removed) ∧ (key ∈ after ↔ c = .added) := by
  cases h with
  | unchanged => cases hc
  | @added k hnew =>
    obtain ⟨rfl, rfl⟩ : k = key ∧ .added = c := by simpa [changeAt?] using hc
    simp [hnew]
  | @removed k hold =>
    obtain ⟨rfl, rfl⟩ : k = key ∧ .removed = c := by simpa [changeAt?] using hc
    simp [hold]

theorem length_eq (h : Effect keys made after) (hn : keys.Nodup) :
    after.length + (if made.map (·.1) = some .removed then 1 else 0) =
      keys.length + if made.map (·.1) = some .added then 1 else 0 := by
  cases h with
  | unchanged => rfl
  | added _ => simp
  | removed h =>
    have hlen := List.length_erase_of_mem h
    rw [hn.erase_eq_filter] at hlen
    simpa [hlen] using Nat.sub_add_cancel (List.length_pos_of_mem h)

end Effect

def Change.kind : Change → ProcedureKind
  | added => .insertCallForwarding
  | removed => .deleteCallForwarding

namespace Tables

theorem map_fst_made? {t : Tables} {p : Procedure} {asked : Change} {key : ForwardingKey}
    (h : p.change? t = some (asked, key)) (result : Except Failure Outcome) (c : Change) :
    (p.made? t result).map (·.1) = some c ↔ asked = c ∧ isSuccess result = true := by
  unfold Procedure.made? isSuccess
  split <;> simp [h]

/-- Nothing is added or removed for a number that nobody has. -/
theorem isSuccess_execute_of_idOf? {t : Tables} {number : String} (foreignKeys : Bool)
    (hid : t.idOf? number = none) :
    (∀ kind start stop target, isSuccess (t.execute foreignKeys
      (.insertCallForwarding number kind start stop target)).1 = false) ∧
    ∀ kind start,
      isSuccess (t.execute foreignKeys (.deleteCallForwarding number kind start)).1 = false := by
  constructor
  · intro kind start stop target
    rw [execute_eq]
    cases Procedure.stop? t _ <;> simp [run, hid, isSuccess]
  · intro kind start
    rw [execute_eq]
    cases Procedure.stop? t _ <;> simp [run, hid, isSuccess]

/-- A change is made if and only if a procedure that asks for it succeeds. -/
theorem made?_execute (t : Tables) (foreignKeys : Bool) (p : Procedure) (c : Change) :
    (p.made? t (t.execute foreignKeys p).1).map (·.1) = some c ↔
      p.kindOf = c.kind ∧ isSuccess (t.execute foreignKeys p).1 = true := by
  cases p with
  | insertCallForwarding number kind start stop target =>
    cases hid : t.idOf? number with
    | none =>
      rw [Procedure.made?_eq_none (by rw [Procedure.change?, hid, Option.map_none])]
      simp [isSuccess_execute_of_idOf? foreignKeys hid]
    | some id =>
      rw [map_fst_made? (by rw [Procedure.change?, hid, Option.map_some])]
      cases c <;> simp [Procedure.kindOf, Change.kind]
  | deleteCallForwarding number kind start =>
    cases hid : t.idOf? number with
    | none =>
      rw [Procedure.made?_eq_none (by rw [Procedure.change?, hid, Option.map_none])]
      simp [isSuccess_execute_of_idOf? foreignKeys hid]
    | some id =>
      rw [map_fst_made? (by rw [Procedure.change?, hid, Option.map_some])]
      cases c <;> simp [Procedure.kindOf, Change.kind]
  | _ =>
    rw [Procedure.made?_eq_none rfl]
    cases c <;> simp [Procedure.kindOf, Change.kind]

theorem length_execute {t : Tables} (ht : t.Keyed) (foreignKeys : Bool) (p : Procedure) :
    let result := (t.execute foreignKeys p).1
    (t.execute foreignKeys p).2.forwardings.length +
        (if p.kindOf = .deleteCallForwarding ∧ isSuccess result = true then 1 else 0) =
      t.forwardings.length +
        if p.kindOf = .insertCallForwarding ∧ isSuccess result = true then 1 else 0 := by
  have h := (t.effect_execute foreignKeys p).length_eq ht.forwardings
  simp only [made?_execute, forwardingKeys, List.length_map] at h
  exact h

end Tables

section Calls

variable {kind : ProcedureKind} {c : Call} {calls : List Call} {result : Except Failure Outcome}
  {results : List (Except Failure Outcome)}

theorem successes_cons : successes kind (c :: calls) (result :: results) =
    successes kind calls results +
      if c.2.kindOf = kind ∧ isSuccess result = true then 1 else 0 := by
  simp [successes, List.countP_cons]

theorem changesAt_cons (t : Tables) (key : ForwardingKey) :
    changesAt t key (c :: calls) (result :: results) =
      (changeAt? key (c.2.made? t result)).toList ++ changesAt t key calls results := by
  simp only [changesAt, List.zip_cons_cons, List.filterMap_cons]
  cases changeAt? key (c.2.made? t result) <;> rfl

theorem changesAt_of_skeleton {t u : Tables} (h : u.skeleton = t.skeleton) :
    changesAt u = changesAt t := by
  unfold changesAt
  simp only [Procedure.made?_of_skeleton h]

end Calls

namespace Tables

theorem length_executeAll {t : Tables} (ht : t.Keyed) (foreignKeys : Bool) (calls : List Call) :
    let after := t.executeAll foreignKeys (calls.map (·.2))
    after.2.forwardings.length + successes .deleteCallForwarding calls after.1 =
      t.forwardings.length + successes .insertCallForwarding calls after.1 := by
  induction calls generalizing t with
  | nil => rfl
  | cons c calls ih =>
    have hstep := length_execute ht foreignKeys c.2
    have hrest := ih (ht.execute foreignKeys c.2)
    simp only [List.map_cons, executeAll_cons, successes_cons] at hstep hrest ⊢
    omega

theorem alternates_executeAll (t : Tables) (foreignKeys : Bool) (key : ForwardingKey)
    (calls : List Call) :
    let after := t.executeAll foreignKeys (calls.map (·.2))
    Alternates (key ∈ t.forwardingKeys) (key ∈ after.2.forwardingKeys)
      (changesAt t key calls after.1) := by
  induction calls generalizing t with
  | nil => exact .nil .rfl
  | cons c calls ih =>
    have heffect := t.effect_execute foreignKeys c.2
    have hrest := ih (t.execute foreignKeys c.2).2
    rw [changesAt_of_skeleton (t.skeleton_execute foreignKeys c.2)] at hrest
    simp only [List.map_cons, executeAll_cons, changesAt_cons]
    cases hc : changeAt? key (c.2.made? t (t.execute foreignKeys c.2).1) with
    | none =>
      rwa [heffect.mem_iff_of_changeAt?_eq_none hc] at hrest
    | some change =>
      obtain ⟨hbefore, hbetween⟩ := heffect.mem_iff_of_changeAt?_eq_some hc
      exact hrest.cons hbefore hbetween

end Tables

/-- Whatever calls are made: no other table gets longer or shorter, and numbers resolve as before.
There are as many forwardings more as insertions succeeded, less those deletions that did; and for
every key, insertions and deletions that succeed take turns, by which the key is there in the end or
not. -/
theorem forwardings_accounted {s : Session} {t : Tables} (h : s.Ready t) (ht : t.Keyed)
    {calls : List Call} (hc : ∀ c ∈ calls, c.1 < s.seats.length) :
    ∃ results u v, s.executeAll calls = some (results, u) ∧ u.store = .ofTables v ∧
      v.subscribers.length = t.subscribers.length ∧
      v.accessInfos.length = t.accessInfos.length ∧
      v.facilities.length = t.facilities.length ∧ v.idOf? = t.idOf? ∧
      v.forwardings.length + successes .deleteCallForwarding calls results =
        t.forwardings.length + successes .insertCallForwarding calls results ∧
      ∀ key, Alternates (key ∈ t.forwardingKeys) (key ∈ v.forwardingKeys)
        (changesAt t key calls results) := by
  obtain ⟨u, hu, hready, -⟩ := h.executeAll hc
  have hskeleton := t.skeleton_executeAll s.options.foreignKeys (calls.map (·.2))
  have hlengths := hskeleton
  simp only [Tables.skeleton, Prod.mk.injEq] at hlengths
  obtain ⟨hsubscribers, hinfos, hfacilities⟩ := hlengths
  refine ⟨_, u, _, hu, hready.store, ?_, ?_, ?_, Tables.idOf?_of_skeleton hskeleton,
    Tables.length_executeAll ht _ calls, fun key => t.alternates_executeAll _ key calls⟩
  · simpa using congrArg List.length hsubscribers
  · rw [hinfos]
  · simpa using congrArg List.length hfacilities

/-- One client's insertion keeps another's out, a deletion makes room again. -/
theorem forwardings_accounted_turns :
    let s := Session.on 2 true (.ofTables twoSubscribers)
    let insert := Procedure.insertCallForwarding "1" 1 0 8 "5"
    let calls := [(0, insert), (1, insert), (1, .deleteCallForwarding "1" 1 0), (0, insert)]
    let results := [.ok .success, .ok .conflict, .ok .success, .ok .success]
    ∃ u v, s.executeAll calls = some (results, u) ∧ u.store = .ofTables v ∧
      changesAt twoSubscribers (1, 1, 0) calls results = [.added, .removed, .added] ∧
      v.forwardings.length = 1 ∧ (1, 1, 0) ∈ v.forwardingKeys := by
  intro s insert calls results
  have hc : ∀ c ∈ calls, c.1 < s.seats.length := by
    simp [calls, s]
  obtain ⟨r, u, v, hu, hv, -, -, -, -, hlength, hturns⟩ :=
    forwardings_accounted (Session.ready_on 2 true twoSubscribers) keyed_twoSubscribers hc
  have hresults : (s.executeAll calls).map (·.1) = some results := rfl
  rw [hu] at hresults
  obtain rfl : r = results := Option.some.inj hresults
  have hchanges : changesAt twoSubscribers (1, 1, 0) calls results = [.added, .removed, .added] :=
    rfl
  have hsuccesses : successes .insertCallForwarding calls results =
      successes .deleteCallForwarding calls results + 1 := rfl
  have hnone : twoSubscribers.forwardings.length = 0 := rfl
  refine ⟨u, v, hu, hv, hchanges, by omega, ?_⟩
  rw [(hturns (1, 1, 0)).last, hchanges]
  exact .inl rfl

end StoreBench.Telecom
