import StoreBench.Proofs.Telecom.Plans
import StoreBench.Telecom.Session

/-! Nothing stops a connection where all tables are there and nobody has a lock. -/
namespace StoreBench.Telecom

/-- A connection can read and write, and finds all tables. -/
structure Access.Open (a : Access) : Prop where
  present : a.present = Table.all
  mayRead : a.mayRead = true
  mayWrite : a.mayWrite = true

theorem lack?_all (q : Statement) (foreignKeys : Bool) :
    q.lack? (· ∈ Table.all) foreignKeys = none :=
  q.lack?_eq_none (fun t => by cases t <;> decide) foreignKeys

theorem fits_iff {id : UInt64} : fits id = true ↔ id.toNat ≤ maxInteger := by
  simp [fits]

theorem unfit?_eq_some_iff {id : UInt64} {f : Failure} : unfit? id = some f ↔
    maxInteger < id.toNat ∧ f = (Failure.ofCause .tooLarge).during (.convertingKey id) := by
  by_cases h : fits id = true
  · simp [unfit?, h, Nat.not_lt.mpr (fits_iff.mp h)]
  · have hlt : maxInteger < id.toNat := by
      rw [fits_iff] at h
      omega
    simp [unfit?, h, hlt, eq_comm]

namespace Handle

variable {a : Access}

theorem look_lack? (h : Handle) (ha : a.Open) (q : Statement) :
    (h.look a).lack? a q = none := by
  unfold lack? look
  rw [ha.present]
  exact lack?_all q a.foreignKeys

/-- A connection that knows too few tables looks at them anew, and finds them all. -/
theorem compile_ok (h : Handle) (ha : a.Open) (q : Statement) :
    ∃ g, h.compile a q = (.ok (), g) := by
  unfold compile
  cases hl : h.lack? a q with
  | none => exact ⟨h, rfl⟩
  | some e => exact ⟨h.look a, by simp [ha.mayRead, look_lack? h ha q]⟩

theorem prepare_ok (h : Handle) (ha : a.Open) (q : Statement) :
    ∃ g, h.prepare a q = (.ok (), g) := by
  obtain ⟨g, hg⟩ := h.compile_ok ha q
  unfold prepare
  by_cases hq : q ∈ h.prepared
  · exact ⟨h, if_pos hq⟩
  · exact ⟨g.keep q, by rw [if_neg hq, hg]⟩

theorem runCompiled_ok (h : Handle) (ha : a.Open) (q : Statement) :
    h.runCompiled a q = (.ok (), h.look a) := by
  simp [runCompiled, ha.mayRead, ha.mayWrite, look_lack? h ha q]

theorem run_ok (h : Handle) (ha : a.Open) (q : Statement) : ∃ g, h.run a q = (.ok (), g) := by
  obtain ⟨g, hg⟩ := h.compile_ok ha q
  unfold run
  by_cases hq : q ∈ h.expired
  · exact ⟨_, by rw [if_pos hq, hg]; exact runCompiled_ok _ ha q⟩
  · exact ⟨_, by rw [if_neg hq, runCompiled_ok h ha q]⟩

theorem perform_open (h : Handle) (ha : a.Open) (x : Action) :
    (h.perform a x).1 = .ok () := by
  cases x with
  | begin => simp [perform, ha.mayWrite]
  | prepare q =>
    obtain ⟨g, hg⟩ := h.prepare_ok ha q
    rw [perform, hg]
  | run c =>
    obtain ⟨g, hg⟩ := h.run_ok ha c.statement
    rw [perform, hg]
  | commit | convert | bind => rfl

theorem gate_open (ha : a.Open) : (gate a).Open := fun _ x h => h.perform_open ha x

/-- A connection is kept from actions by tables that are absent, and by locks. -/
theorem isConstraint_lack? {h : Handle} {q : Statement} {e : DatabaseError}
    (he : h.lack? a q = some e) : e.isConstraint = false := by
  unfold lack? Statement.lack? at he
  split at he
  · obtain rfl := Option.some.inj he
    rfl
  · split at he
    · cases he
    · split at he
      · obtain rfl := Option.some.inj he
        rfl
      · cases he

theorem compile_plain {h : Handle} {q : Statement} {f : Failure}
    (hf : (h.compile a q).1 = .error f) : f.isConstraint = false := by
  unfold compile at hf
  split at hf
  · cases hf
  · next he =>
    split at hf
    · dsimp only at hf
      split at hf
      · cases hf
      · next he' =>
        obtain rfl := Except.error.inj hf
        exact isConstraint_lack? he'
    · obtain rfl := Except.error.inj hf
      exact isConstraint_lack? he

theorem runCompiled_plain {h : Handle} {q : Statement} {f : Failure}
    (hf : (h.runCompiled a q).1 = .error f) : f.isConstraint = false := by
  unfold runCompiled at hf
  split at hf
  · obtain rfl := Except.error.inj hf
    rfl
  · dsimp only at hf
    split at hf
    · cases hf
    · next he =>
      obtain rfl := Except.error.inj hf
      exact isConstraint_lack? he

theorem prepare_plain {h : Handle} {q : Statement} {f : Failure}
    (hf : (h.prepare a q).1 = .error f) : f.isConstraint = false := by
  unfold prepare at hf
  split at hf
  · cases hf
  · cases hc : h.compile a q with
    | mk result g =>
      rw [hc] at hf
      cases result with
      | ok _ => cases hf
      | error e => exact compile_plain ((congrArg Prod.fst hc).trans hf)

theorem run_plain {h : Handle} {q : Statement} {f : Failure}
    (hf : (h.run a q).1 = .error f) : f.isConstraint = false := by
  unfold run at hf
  split at hf
  · cases hc : h.compile a q with
    | mk result g =>
      rw [hc] at hf
      cases result with
      | ok _ => exact runCompiled_plain hf
      | error e => exact compile_plain ((congrArg Prod.fst hc).trans hf)
  · exact runCompiled_plain hf

theorem gate_plain (a : Access) : (gate a).Plain := by
  intro _ x h f hf
  cases x with
  | begin =>
    cases hw : a.mayWrite with
    | true => simp [gate, perform, hw] at hf
    | false =>
      obtain rfl : Failure.ofDatabase .locked = f := by simpa [gate, perform, hw] using hf
      rfl
  | prepare q => exact prepare_plain hf
  | run c => exact run_plain hf
  | commit | convert | bind => cases hf

end Handle

namespace Session

structure Ready (s : Session) (t : Tables) : Prop where
  store : s.store = .ofTables t
  lock : s.lock = none

variable {s : Session} {t : Tables}

theorem Ready.access (h : s.Ready t) : s.access.Open := by
  refine ⟨?_, ?_, ?_⟩
  · simp [Session.access, h.store, List.filter_eq_self]
  · simp [Session.access, blocksReads, h.lock]
  · simp [Session.access, h.lock]

end Session

end StoreBench.Telecom
