import StoreBench.Proofs.Telecom.Access
import StoreBench.Proofs.Telecom.Lengths

/-! Rows that come in order are all taken, whether or not foreign keys are enforced. -/
namespace StoreBench.Telecom

namespace Tables

variable {t : Tables} {r : Record}

theorem takesKey_iff : t.takesKey r = true ↔ r.key ∈ t.records.map Record.key := by
  cases r <;>
    simp [takesKey, hasSubscriber, hasAccessInfo, hasFacility, hasForwarding, records, Record.key,
      and_assoc]

theorem takesNumber_iff : t.takesNumber r = true ↔
    ∃ number, r.number? = some number ∧ number ∈ t.records.filterMap Record.number? := by
  cases r <;> simp [takesNumber, hasNumber, records, Record.number?]

theorem hasParent_iff : t.hasParent r = true ↔
    ∀ k, r.parentKey? = some k → k ∈ t.records.map Record.key := by
  cases r <;> simp [hasParent, hasSubscriber, hasFacility, records, Record.key, Record.parentKey?]

theorem refusal?_eq_none_iff (foreignKeys : Bool) : t.refusal? foreignKeys r = none ↔
    t.takesKey r = false ∧ t.takesNumber r = false ∧ r.length ≤ maxLength ∧
      (foreignKeys = true → t.hasParent r = true) := by
  unfold refusal?
  by_cases hlength : maxLength < r.length
  · cases t.takesKey r <;> cases t.takesNumber r <;> simp [hlength]
  · have hle := Nat.le_of_not_lt hlength
    cases t.takesKey r <;> cases t.takesNumber r <;> cases foreignKeys <;> cases t.hasParent r <;>
      simp [hle, Nat.not_lt.mpr hle]

/-- Nothing refuses a row whose key and number are new, which is not too long and whose parent is
there. -/
theorem refusal?_eq_none (hk : r.key ∉ t.records.map Record.key)
    (hn : ∀ number, r.number? = some number → number ∉ t.records.filterMap Record.number?)
    (hl : r.length ≤ maxLength) (hp : ∀ k, r.parentKey? = some k → k ∈ t.records.map Record.key)
    (foreignKeys : Bool) : t.refusal? foreignKeys r = none := by
  rw [refusal?_eq_none_iff]
  refine ⟨?_, ?_, hl, fun _ => hasParent_iff.mpr hp⟩
  · rw [← Bool.not_eq_true, takesKey_iff]
    exact hk
  · rw [← Bool.not_eq_true, takesNumber_iff]
    rintro ⟨number, h, hm⟩
    exact hn number h hm

theorem records_add (t : Tables) (r : Record) : (t.add r).records.Perm (t.records ++ [r]) := by
  apply List.perm_iff_count.mpr
  intro q
  cases r <;> simp [add, records, List.count_append, List.count_cons] <;> omega

def addAll (t : Tables) (rows : List Record) : Tables := rows.foldl add t

theorem records_addAll (t : Tables) (rows : List Record) :
    (t.addAll rows).records.Perm (t.records ++ rows) := by
  induction rows generalizing t with
  | nil => simp [addAll]
  | cons r rows ih =>
    refine (ih (t.add r)).trans ?_
    simpa using (t.records_add r).append_right rows

theorem recordsOf_eq (t : Tables) (table : Table) :
    t.recordsOf table = t.records.filter (·.table = table) := by
  cases table <;>
    simp [recordsOf, records, List.filter_map, Function.comp_def, Record.table]

end Tables

/-- The next of some orderly rows can be added to the rows before it. -/
theorem Orderly.refusal?_eq_none {t : Tables} {done rest : List Record} {r : Record}
    (h : Orderly (done ++ r :: rest)) (hp : t.records.Perm done) (hl : r.length ≤ maxLength)
    (foreignKeys : Bool) : t.refusal? foreignKeys r = none := by
  have hkeys := h.keys
  have hnumbers := h.numbers
  rw [List.map_append, List.map_cons, List.nodup_append] at hkeys
  rw [List.filterMap_append, List.nodup_append] at hnumbers
  apply Tables.refusal?_eq_none
  · intro hm
    exact hkeys.2.2 _ ((hp.map _).mem_iff.mp hm) _ List.mem_cons_self rfl
  · intro number hr hm
    refine hnumbers.2.2 _ ((hp.filterMap _).mem_iff.mp hm) _ ?_ rfl
    rw [List.filterMap_cons, hr]
    exact List.mem_cons_self
  · exact hl
  · intro k hk
    obtain ⟨p, hpd, rfl⟩ := h.exists_parent hk
    exact (hp.map _).mem_iff.mpr (List.mem_map_of_mem hpd)

def Record.fault? (t : Tables) (foreignKeys : Bool) (r : Record) : Option Failure :=
  unfit? r.owner <|>
    ((Command.insert r).fault? <|> t.refusal? foreignKeys r).map Failure.ofDatabase

/-- The faults are found one after another, and a row without any comes in. -/
theorem Record.follow_plan_steps (r : Record) (foreignKeys : Bool) (d : Draft) :
    r.plan.follow foreignKeys d = match unfit? r.owner with
      | some f => (.error f, d)
      | none =>
        match (Command.insert r).fault? with
        | some e => (.error (.ofDatabase e), d)
        | none =>
          match d.tables.refusal? foreignKeys r with
          | some e => (.error (.ofDatabase e), d)
          | none => (.ok (), { d with tables := d.tables.add r }) := by
  cases r with
  | subscriber row | accessInfo row | facility row | forwarding row =>
    simp only [plan, owner, Plan.follow_perform_bind, Plan.follow_query_bind, Draft.perform,
      Tables.perform]
    cases unfit? _ <;> dsimp only
    cases Command.fault? _ <;> dsimp only
    cases d.tables.refusal? foreignKeys _ <;> rfl

theorem Record.follow_plan (r : Record) (foreignKeys : Bool) (d : Draft) :
    r.plan.follow foreignKeys d = match r.fault? d.tables foreignKeys with
      | some f => (.error f, d)
      | none => (.ok (), { d with tables := d.tables.add r }) := by
  rw [follow_plan_steps, fault?]
  cases unfit? r.owner with
  | some f => rfl
  | none =>
    cases (Command.insert r).fault? with
    | some e => rfl
    | none => cases d.tables.refusal? foreignKeys r <;> rfl

theorem Record.fault?_eq_none_iff {t : Tables} {foreignKeys : Bool} {r : Record} :
    r.fault? t foreignKeys = none ↔ fits r.owner = true ∧ t.refusal? foreignKeys r = none := by
  have hfits : unfit? r.owner = none ↔ fits r.owner = true := by simp [unfit?]
  unfold fault?
  simp only [Option.orElse_eq_orElse, Option.orElse_eq_or, Option.or_eq_none_iff,
    Option.map_eq_none_iff, hfits]
  constructor
  · rintro ⟨h, -, hr⟩
    exact ⟨h, hr⟩
  · rintro ⟨h, hr⟩
    exact ⟨h, fault?_insert ((Tables.refusal?_eq_none_iff foreignKeys).mp hr).2.2.1, hr⟩

namespace Draft

variable {σ : Type} {gate : Gate σ} {foreignKeys : Bool} {d : Draft}

/-- What comes of adding rows one by one where nothing keeps a connection from it. -/
def takeAll (foreignKeys : Bool) (rows : List Record) (d : Draft) : Except Failure Unit × Draft :=
  ((d.insertAll .free foreignKeys rows ()).1, (d.insertAll .free foreignKeys rows ()).2.1)

@[simp] theorem takeAll_nil : d.takeAll foreignKeys [] = (.ok (), d) := rfl

theorem takeAll_cons (r : Record) (rows : List Record) :
    d.takeAll foreignKeys (r :: rows) = match r.fault? d.tables foreignKeys with
      | some f => (.error (f.during (.inserting r.table r.owner)), d)
      | none => { d with tables := d.tables.add r }.takeAll foreignKeys rows := by
  have hrun : r.plan.run .free foreignKeys d () =
      ((r.plan.follow foreignKeys d).1, (r.plan.follow foreignKeys d).2, ()) := rfl
  rw [takeAll, insertAll, hrun, r.follow_plan]
  cases r.fault? d.tables foreignKeys <;> rfl

theorem insertAll_of_open (h : gate.Open) (foreignKeys : Bool) (rows : List Record) (s : σ) :
    ∃ after, d.insertAll gate foreignKeys rows s =
      ((d.takeAll foreignKeys rows).1, (d.takeAll foreignKeys rows).2, after) := by
  induction rows generalizing d s with
  | nil => exact ⟨s, rfl⟩
  | cons r rows ih =>
    obtain ⟨after, hrun⟩ := Plan.run_of_open h foreignKeys r.plan d s
    rw [insertAll, hrun, takeAll_cons, r.follow_plan]
    cases r.fault? d.tables foreignKeys with
    | some f => exact ⟨after, rfl⟩
    | none => exact ih after

theorem takeAll_append (before after : List Record) :
    d.takeAll foreignKeys (before ++ after) = match d.takeAll foreignKeys before with
      | (.ok _, e) => e.takeAll foreignKeys after
      | (.error f, e) => (.error f, e) := by
  induction before generalizing d with
  | nil => rfl
  | cons r before ih =>
    rw [List.cons_append, takeAll_cons, takeAll_cons]
    cases r.fault? d.tables foreignKeys with
    | some f => rfl
    | none => exact ih

theorem saved_takeAll (foreignKeys : Bool) (d : Draft) (rows : List Record) :
    (d.takeAll foreignKeys rows).2.saved = d.saved := by
  induction rows generalizing d with
  | nil => rfl
  | cons r rows ih =>
    rw [takeAll_cons]
    cases r.fault? d.tables foreignKeys with
    | some f => rfl
    | none => exact ih _

/-- Orderly rows that are not too long are all added, or the first is refused whose id does not
fit. -/
theorem takeAll_orderly {done rows : List Record} (foreignKeys : Bool) (h : Orderly (done ++ rows))
    (hl : ∀ r ∈ rows, r.length ≤ maxLength) (hp : d.tables.records.Perm done) :
    ((∀ r ∈ rows, fits r.owner = true) ∧
      d.takeAll foreignKeys rows = (.ok (), { d with tables := d.tables.addAll rows })) ∨
    ∃ r ∈ rows, ∃ f e, unfit? r.owner = some f ∧
      d.takeAll foreignKeys rows = (.error (f.during (.inserting r.table r.owner)), e) := by
  -- `done` is what the tables hold already, in some order.
  induction rows generalizing d done with
  | nil => exact .inl ⟨by simp, rfl⟩
  | cons r rows ih =>
    obtain ⟨hr, hrows⟩ := List.forall_mem_cons.mp hl
    rw [takeAll_cons]
    cases hu : unfit? r.owner with
    | some f =>
      right
      refine ⟨r, List.mem_cons_self, f, d, hu, ?_⟩
      simp only [Record.fault?, hu]
      rfl
    | none =>
      have hf : fits r.owner = true := by simpa [unfit?] using hu
      have hadd := (d.tables.records_add r).trans (hp.append_right [r])
      rw [Record.fault?_eq_none_iff.mpr ⟨hf, h.refusal?_eq_none hp hr foreignKeys⟩]
      rcases ih (d := { d with tables := d.tables.add r }) (by simpa using h) hrows hadd with
        ⟨hfits, hall⟩ | ⟨q, hq, f, e, hqf, hfail⟩
      · exact .inl ⟨List.forall_mem_cons.mpr ⟨hf, hfits⟩, hall⟩
      · exact .inr ⟨q, List.mem_cons_of_mem _ hq, f, e, hqf, hfail⟩

end Draft

namespace Store

/-- Where all tables are there, every statement can be prepared. -/
theorem gate_ofTables (t : Tables) (foreignKeys : Bool) :
    (ofTables t).gate foreignKeys = .free := by
  funext u x s
  cases x with
  | prepare q => simp [gate, Gate.free, q.lack?_eq_none (has_ofTables t)]
  | begin | commit | convert | bind | run => rfl

/-- Whatever the tables are and whatever they hold, they can be made anew: when a table is dropped,
those with its children are gone already. -/
theorem recreate_eq (s : Store) (foreignKeys : Bool) :
    s.recreate foreignKeys = .ok (ofTables .empty) := by
  obtain ⟨subscribers, accessInfos, facilities, forwardings⟩ := s
  cases foreignKeys <;>
    simp [recreate, Table.all, drop, isParentInUse, without, withEmpty, tables, Tables.records,
      Record.table, Table.parent?, ofTables, Tables.empty, pure, Except.pure, bind, Except.bind]

end Store

end StoreBench.Telecom
