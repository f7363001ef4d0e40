import StoreBench.Telecom.Plan

/-!
Plans past any gate. A gate that lets everything pass makes no difference, and any other only stops
a plan or makes none. A plan that fails leaves things as they were if it fails inside its
transaction, or before it has written anything.
-/
namespace StoreBench.Telecom

variable {σ : Type}

namespace Gate

/-- Lets all actions pass, whatever it remembers of them. -/
def Open (gate : Gate σ) : Prop := ∀ t x s, (gate t x s).1 = .ok ()

/-- Keeps a connection from actions for reasons of its own, for which no row is to blame. -/
def Plain (gate : Gate σ) : Prop :=
  ∀ t x s f, (gate t x s).1 = .error f → f.isConstraint = false

theorem Open.exists_eq {gate : Gate σ} (h : gate.Open) (t : Tables) (x : Action) (s : σ) :
    ∃ after, gate t x s = (.ok (), after) := ⟨_, Prod.ext (h t x s) rfl⟩

end Gate

theorem Tables.eq_of_perform {t u : Tables} {foreignKeys : Bool} {c : Command} {answer : Answer}
    (hc : c.writes = false) (h : t.perform foreignKeys c = .ok (answer, u)) : u = t := by
  cases c with
  | selectSubscriber | selectDestination | selectAccessData | selectId | selectFacilityTypes =>
    exact (congrArg Prod.snd (Except.ok.inj h)).symm
  | updateBit | updateFacility | updateLocation | deleteForwarding | insert => cases hc

namespace Plan

variable {α : Type} {gate : Gate σ} {foreignKeys : Bool}

theorem query_bind (c : Command) (k : Answer → Plan α) :
    (query c >>= k) = attempt c >>= fun result => ofExcept result >>= k := by
  simp only [query, attempt, ask_bind]
  congr 1
  funext bound
  cases bound <;> rfl

/-- What comes of a plan that nothing keeps from any action. -/
def follow (foreignKeys : Bool) (plan : Plan α) (d : Draft) : Except Failure α × Draft :=
  ((plan.run .free foreignKeys d ()).1, (plan.run .free foreignKeys d ()).2.1)

section Following

variable (d : Draft)

@[simp] theorem follow_done (result : α) : (done result).follow foreignKeys d = (.ok result, d) :=
  rfl

@[simp] theorem follow_fail (f : Failure) :
    (fail f : Plan α).follow foreignKeys d = (.error f, d) := rfl

theorem follow_ask (x : Action) (next : Except Failure Answer → Plan α) :
    (ask x next).follow foreignKeys d = match d.perform foreignKeys x with
      | .error f => (next (.error f)).follow foreignKeys d
      | .ok (answer, d) => (next (.ok answer)).follow foreignKeys d := by
  simp only [follow, run, Gate.free]
  cases d.perform foreignKeys x <;> rfl

theorem follow_perform_bind (x : Action) (k : Unit → Plan α) :
    (perform x >>= k).follow foreignKeys d = match d.perform foreignKeys x with
      | .error f => (.error f, d)
      | .ok (_, d) => (k ()).follow foreignKeys d := by
  rw [perform, ask_bind, follow_ask]
  cases d.perform foreignKeys x <;> rfl

@[simp] theorem follow_begin_bind (k : Unit → Plan α) :
    (perform .begin >>= k).follow foreignKeys d = (k ()).follow foreignKeys d.begin :=
  follow_perform_bind d .begin k

@[simp] theorem follow_commit_bind (k : Unit → Plan α) :
    (perform .commit >>= k).follow foreignKeys d = (k ()).follow foreignKeys d.commit :=
  follow_perform_bind d .commit k

@[simp] theorem follow_prepare_bind (q : Statement) (k : Unit → Plan α) :
    (perform (.prepare q) >>= k).follow foreignKeys d = (k ()).follow foreignKeys d :=
  follow_perform_bind d (.prepare q) k

@[simp] theorem follow_convert_bind (id : UInt64) (k : Unit → Plan α) :
    (perform (.convert id) >>= k).follow foreignKeys d = match unfit? id with
      | some f => (.error f, d)
      | none => (k ()).follow foreignKeys d := by
  rw [follow_perform_bind, Draft.perform]
  cases unfit? id <;> rfl

@[simp] theorem follow_attempt_bind (c : Command) (k : Except Failure Answer → Plan α) :
    (attempt c >>= k).follow foreignKeys d = match c.fault? with
      | some e => (k (.error (.ofDatabase e))).follow foreignKeys d
      | none =>
        match d.tables.perform foreignKeys c with
        | .error e => (k (.error (.ofDatabase e))).follow foreignKeys d
        | .ok (answer, tables) => (k (.ok answer)).follow foreignKeys { d with tables } := by
  rw [attempt, ask_bind, follow_ask, Draft.perform]
  cases c.fault? with
  | some e => rfl
  | none =>
    simp only [ask_bind, follow_ask, Draft.perform]
    cases d.tables.perform foreignKeys c <;> rfl

@[simp] theorem follow_query_bind (c : Command) (k : Answer → Plan α) :
    (query c >>= k).follow foreignKeys d = match c.fault? with
      | some e => (.error (.ofDatabase e), d)
      | none =>
        match d.tables.perform foreignKeys c with
        | .error e => (.error (.ofDatabase e), d)
        | .ok (answer, tables) => (k answer).follow foreignKeys { d with tables } := by
  rw [query_bind, follow_attempt_bind]
  cases c.fault? with
  | some e => rfl
  | none => cases d.tables.perform foreignKeys c <;> rfl

end Following

theorem run_of_open (h : gate.Open) (foreignKeys : Bool) (plan : Plan α) (d : Draft) (s : σ) :
    ∃ after, plan.run gate foreignKeys d s =
      ((plan.follow foreignKeys d).1, (plan.follow foreignKeys d).2, after) := by
  induction plan generalizing d s with
  | done result => exact ⟨s, rfl⟩
  | fail f => exact ⟨s, rfl⟩
  | ask x next ih =>
    obtain ⟨after, hgate⟩ := h.exists_eq d.tables x s
    rw [run, hgate, follow_ask]
    cases d.perform foreignKeys x with
    | error f => exact ih (.error f) d after
    | ok result => exact ih (.ok result.1) result.2 after

/-- Passes failures on at once, unless a row is to blame. -/
def Strict : Plan α → Prop
  | done _ => True
  | fail _ => True
  | ask _ next =>
    (∀ f, f.isConstraint = false → next (.error f) = fail f) ∧ ∀ answer, (next answer).Strict

@[simp] theorem strict_done (result : α) : (done result).Strict := trivial

@[simp] theorem strict_fail (f : Failure) : (fail f : Plan α).Strict := trivial

@[simp] theorem strict_perform_bind (x : Action) (k : Unit → Plan α) :
    (perform x >>= k).Strict ↔ (k ()).Strict := by
  constructor
  · exact fun h => h.2 (.ok .none)
  · intro h
    refine ⟨fun _ _ => rfl, ?_⟩
    rintro (_ | _)
    · trivial
    · exact h

@[simp] theorem strict_attempt_bind (c : Command) (k : Except Failure Answer → Plan α) :
    (attempt c >>= k).Strict ↔
      (∀ f, f.isConstraint = false → k (.error f) = fail f) ∧ ∀ answer, (k answer).Strict := by
  constructor
  · exact fun h => ⟨h.1, (h.2 (.ok .none)).2⟩
  · rintro ⟨hf, hk⟩
    refine ⟨hf, ?_⟩
    rintro (f | _)
    · exact hk (.error f)
    · exact ⟨hf, hk⟩

@[simp] theorem strict_query_bind (c : Command) (k : Answer → Plan α) :
    (query c >>= k).Strict ↔ ∀ answer, (k answer).Strict := by
  rw [query_bind, strict_attempt_bind]
  constructor
  · exact fun h answer => h.2 (.ok answer)
  · intro h
    refine ⟨fun _ _ => rfl, ?_⟩
    rintro (_ | answer)
    · trivial
    · exact h answer

theorem run_of_strict {plan : Plan α} (h : plan.Strict) (hg : gate.Plain) (foreignKeys : Bool)
    (d : Draft) (s : σ) :
    (∃ f, (plan.run gate foreignKeys d s).1 = .error f) ∨
      ∃ after, plan.run gate foreignKeys d s =
        ((plan.follow foreignKeys d).1, (plan.follow foreignKeys d).2, after) := by
  induction plan generalizing d s with
  | done result => exact .inr ⟨s, rfl⟩
  | fail f => exact .inr ⟨s, rfl⟩
  | ask x next ih =>
    rw [run, follow_ask]
    cases hx : gate d.tables x s with
    | mk passed after =>
      cases passed with
      | error f =>
        have hf := hg d.tables x s f (congrArg Prod.fst hx)
        exact .inl ⟨f, by simp only [h.1 f hf, run]⟩
      | ok _ =>
        cases d.perform foreignKeys x with
        | error f => exact ih (.error f) (h.2 _) d after
        | ok result => exact ih (.ok result.1) (h.2 _) result.2 after

/-- How far a plan has come that is to leave nothing behind if it fails. -/
inductive Standing where
  /-- Nothing has been written. -/
  | untouched
  /-- A transaction is open, before which nothing was written. -/
  | pending
  /-- What has been written stays. -/
  | final

namespace Standing

def after : Standing → Action → Standing
  | untouched, .begin => pending
  | untouched, .run c => if c.writes then final else untouched
  | pending, .begin => final
  | _, .commit => final
  | standing, _ => standing

/-- What a connection has made of tables `t` by then. -/
def Fits (t : Tables) (d : Draft) : Standing → Prop
  | untouched => d = .ofTables t
  | pending => d.saved = some t
  | final => True

variable {standing : Standing} {t : Tables} {d : Draft}

theorem Fits.leave_eq (h : standing.Fits t d) (hs : standing ≠ .final) : d.leave = t := by
  cases standing with
  | untouched =>
    obtain rfl : d = .ofTables t := h
    rfl
  | pending =>
    have hsaved : d.saved = some t := h
    rw [Draft.leave, hsaved, Option.getD_some]
  | final => exact absurd rfl hs

theorem Fits.perform (h : standing.Fits t d) {foreignKeys : Bool} {x : Action} {answer : Answer}
    {e : Draft} (he : d.perform foreignKeys x = .ok (answer, e)) : (standing.after x).Fits t e := by
  cases x with
  | begin =>
    obtain rfl : d.begin = e := congrArg Prod.snd (Except.ok.inj he)
    cases standing with
    | untouched =>
      obtain rfl : d = .ofTables t := h
      rfl
    | pending | final => trivial
  | commit => cases standing <;> trivial
  | convert id =>
    rw [Draft.perform] at he
    split at he
    · cases he
    · obtain rfl : d = e := congrArg Prod.snd (Except.ok.inj he)
      cases standing <;> exact h
  | prepare q =>
    obtain rfl : d = e := congrArg Prod.snd (Except.ok.inj he)
    cases standing <;> exact h
  | bind c =>
    rw [Draft.perform] at he
    split at he
    · cases he
    · obtain rfl : d = e := congrArg Prod.snd (Except.ok.inj he)
      cases standing <;> exact h
  | run c =>
    rw [Draft.perform] at he
    split at he
    · cases he
    · next hperform =>
      obtain rfl := congrArg Prod.snd (Except.ok.inj he)
      cases standing with
      | untouched =>
        rw [Standing.after]
        split
        · trivial
        · next hwrites =>
          obtain rfl : d = .ofTables t := h
          exact congrArg Draft.ofTables
            (Tables.eq_of_perform (eq_false_of_ne_true hwrites) hperform)
      | pending => exact h
      | final => trivial

end Standing

/-- Does not fail where what it has written stays. -/
def Safe : Plan α → Standing → Prop
  | done _, _ => True
  | fail _, standing => standing ≠ .final
  | ask x next, standing =>
    (∀ f, (next (.error f)).Safe standing) ∧ ∀ answer, (next (.ok answer)).Safe (standing.after x)

section Safe

variable {standing : Standing}

@[simp] theorem safe_done (result : α) : (done result).Safe standing := trivial

@[simp] theorem safe_fail (f : Failure) : (fail f : Plan α).Safe standing ↔ standing ≠ .final :=
  .rfl

@[simp] theorem safe_perform_bind (x : Action) (k : Unit → Plan α) :
    (perform x >>= k).Safe standing ↔ standing ≠ .final ∧ (k ()).Safe (standing.after x) := by
  constructor
  · exact fun h => ⟨h.1 (.ofCause .tooLarge), h.2 .none⟩
  · exact fun h => ⟨fun _ => h.1, fun _ => h.2⟩

@[simp] theorem safe_attempt_bind (c : Command) (k : Except Failure Answer → Plan α) :
    (attempt c >>= k).Safe standing ↔ (∀ f, (k (.error f)).Safe standing) ∧
      ∀ answer, (k (.ok answer)).Safe (standing.after (.run c)) := by
  have hbind : standing.after (.bind c) = standing := by cases standing <;> rfl
  constructor
  · exact fun h => ⟨h.1, hbind ▸ (h.2 .none).2⟩
  · exact fun h => ⟨h.1, fun _ => hbind.symm ▸ h⟩

@[simp] theorem safe_query_bind (c : Command) (k : Answer → Plan α) :
    (query c >>= k).Safe standing ↔
      standing ≠ .final ∧ ∀ answer, (k answer).Safe (standing.after (.run c)) := by
  rw [query_bind, safe_attempt_bind]
  constructor
  · exact fun h => ⟨h.1 (.ofCause .tooLarge), h.2⟩
  · exact fun h => ⟨fun _ => h.1, h.2⟩

end Safe

/-- Whatever keeps a safe plan from its end, it leaves the tables as they were. -/
theorem leave_of_safe {plan : Plan α} {standing : Standing} {t : Tables} {d : Draft} {s : σ}
    {f : Failure} (h : plan.Safe standing) (hd : standing.Fits t d)
    (hf : (plan.run gate foreignKeys d s).1 = .error f) :
    (plan.run gate foreignKeys d s).2.1.leave = t := by
  induction plan generalizing standing d s with
  | done result => cases hf
  | fail g => exact hd.leave_eq h
  | ask x next ih =>
    rw [run] at hf ⊢
    cases hx : gate d.tables x s with
    | mk passed after =>
      rw [hx] at hf
      cases passed with
      | error g => exact ih (.error g) (h.1 g) hd hf
      | ok _ =>
        dsimp only at hf ⊢
        cases hp : d.perform foreignKeys x with
        | error g =>
          rw [hp] at hf
          exact ih (.error g) (h.1 g) hd hf
        | ok result =>
          rw [hp] at hf
          exact ih (.ok result.1) (h.2 result.1) (hd.perform hp) hf

end Plan

end StoreBench.Telecom
