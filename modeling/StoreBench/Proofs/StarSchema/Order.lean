import StoreBench.StarSchema.Queries

/-!
Queries run in their order, each of them once, up to the first that fails, and none of them runs
unless all can be read. This holds of whatever runs the statements.
-/
namespace StoreBench.StarSchema

def Answer.event (a : Answer) : Event := .queried a.name a.rows

variable {σ : Type} [Engine σ]

/-- Queries run one after another, each on the database that the one before it left, and every
answer tells how many rows its statement has, counted in a word. -/
inductive Runs : List (String × String) → σ → List Answer → σ → Prop where
  | nil {d : σ} : Runs [] d [] d
  | cons {name text : String} {queries : List (String × String)} {d next last : σ}
      {rows : List (List Cell)} {answers : List Answer}
      (h : Engine.run (Statement.trimmed text) d = (.ok rows, next))
      (hs : Runs queries next answers last) :
      Runs ((name, text) :: queries) d (⟨name, .ofNat rows.length⟩ :: answers) last

theorem Runs.names {queries : List (String × String)} {d last : σ} {answers : List Answer}
    (h : Runs queries d answers last) : answers.map Answer.name = queries.map Prod.fst := by
  induction h with
  | nil => rfl
  | cons h hs ih => simp [ih]

namespace SessionOn

variable {s : SessionOn σ} {name text : String}

theorem query_of_ok {rows : List (List Cell)} {d : σ}
    (h : Engine.run (Statement.trimmed text) s.database = (.ok rows, d)) :
    s.query name text =
      (.ok ⟨name, .ofNat rows.length⟩, ⟨s.log ++ [.queried name (.ofNat rows.length)], d⟩) := by
  have hd : s.drain text = (.ok (.ofNat rows.length), { s with database := d }) := by
    unfold drain
    rw [h]
    rfl
  unfold query
  rw [hd]
  rfl

theorem query_of_error {f : Failure} {d : σ}
    (h : Engine.run (Statement.trimmed text) s.database = (.error f, d)) :
    s.query name text = (.error (f.during (.executing name)), { s with database := d }) := by
  have hd : s.drain text = (.error f, { s with database := d }) := by
    unfold drain
    rw [h]
    rfl
  unfold query
  rw [hd]

/-- All queries run, or those before the first that fails. The log gets a record of each that has
run. -/
theorem queryAll_cases (queries : List (String × String)) (s : SessionOn σ) :
    (∃ answers last, Runs queries s.database answers last ∧
      queryAll queries s = (.ok answers, ⟨s.log ++ answers.map Answer.event, last⟩)) ∨
    ∃ before name text after answers d f last, queries = before ++ (name, text) :: after ∧
      Runs before s.database answers d ∧ Engine.run (Statement.trimmed text) d = (.error f, last) ∧
      queryAll queries s =
        (.error (f.during (.executing name)), ⟨s.log ++ answers.map Answer.event, last⟩) := by
  induction queries generalizing s with
  | nil => exact .inl ⟨[], s.database, .nil, by simp [queryAll]⟩
  | cons q queries ih =>
    obtain ⟨name, text⟩ := q
    cases hrun : Engine.run (Statement.trimmed text) s.database with
    | mk result next =>
      cases result with
      | error f =>
        refine .inr ⟨[], name, text, queries, [], s.database, f, next, rfl, .nil, hrun, ?_⟩
        simp [queryAll, query_of_error hrun]
      | ok rows =>
        have hq : s.query name text =
            (.ok ⟨name, .ofNat rows.length⟩,
              ⟨s.log ++ [.queried name (.ofNat rows.length)], next⟩) :=
          query_of_ok hrun
        obtain ⟨answers, last, hruns, hall⟩ |
          ⟨before, n, t, after, answers, d, f, last, rfl, hruns, hfail, hall⟩ :=
          ih ⟨s.log ++ [.queried name (.ofNat rows.length)], next⟩
        · refine .inl ⟨_, last, .cons hrun hruns, ?_⟩
          simp [queryAll, hq, hall, Except.map, Answer.event]
        · refine .inr ⟨_, n, t, after, _, d, f, last, rfl, .cons hrun hruns, hfail, ?_⟩
          simp [queryAll, hq, hall, Except.map, Answer.event]

end SessionOn

section Reading

variable {read : String → Except Cause String} {directory : String}

theorem readQueries_eq_ok {names : List String} {text : String → String}
    (h : ∀ name ∈ names, read (queryPath directory name) = .ok (text name)) :
    readQueries read directory names = .ok (names.map fun name => (name, text name)) := by
  induction names with
  | nil => rfl
  | cons name names ih =>
    obtain ⟨hname, hnames⟩ := List.forall_mem_cons.mp h
    have hrest := ih hnames
    unfold readQueries at hrest ⊢
    rw [List.mapM_cons, hrest]
    simp only [hname]
    rfl

/-- The first query that cannot be read is the one that is told. -/
theorem readQueries_eq_error {before after : List String} {name : String} {cause : Cause}
    (hb : ∀ n ∈ before, ∃ text, read (queryPath directory n) = .ok text)
    (h : read (queryPath directory name) = .error cause) :
    readQueries read directory (before ++ name :: after) =
      .error ((Failure.ofCause cause).during (.reading (queryPath directory name))) := by
  induction before with
  | nil =>
    unfold readQueries
    rw [List.nil_append, List.mapM_cons]
    simp only [h]
    rfl
  | cons n before ih =>
    obtain ⟨⟨text, hn⟩, hbefore⟩ := List.forall_mem_cons.mp hb
    have hrest := ih hbefore
    unfold readQueries at hrest ⊢
    rw [List.cons_append, List.mapM_cons, hrest]
    simp only [hn]
    rfl

end Reading

/-- All queries of a directory are run, whatever its files hold and whatever runs the statements.
If some of them cannot be read, the first of these is told, and nothing has been run or recorded.
Otherwise they run in their order. If none fails, there is an answer for each, with all rows of its
statement; else the first that fails is told, and those before it have run. Each query that has run
has a record in the log, and no other. -/
theorem queries_run_in_order (s : SessionOn σ) (read : String → Except Cause String)
    (directory : String) :
    let path := queryPath directory
    let result := s.runQueries read directory
    (∀ before name after cause, queryNames = before ++ name :: after →
      (∀ n ∈ before, ∃ text, read (path n) = .ok text) → read (path name) = .error cause →
      ∃ f, result = (.error f, s) ∧ f.chain = ("reading " ++ path name) :: cause.chain) ∧
    ∀ text : String → String, (∀ name ∈ queryNames, read (path name) = .ok (text name)) →
      (∃ answers last, Runs (queryNames.map fun n => (n, text n)) s.database answers last ∧
        answers.map Answer.name = queryNames ∧
        result = (.ok answers, ⟨s.log ++ answers.map Answer.event, last⟩)) ∨
      ∃ before name after answers d e f last, queryNames = before ++ name :: after ∧
        Runs (before.map fun n => (n, text n)) s.database answers d ∧
        answers.map Answer.name = before ∧
        Engine.run (Statement.trimmed (text name)) d = (.error e, last) ∧
        result = (.error f, ⟨s.log ++ answers.map Answer.event, last⟩) ∧
        f.chain = ("executing query " ++ name) :: e.chain := by
  intro path result
  constructor
  · intro before name after cause hnames hb hname
    refine ⟨(Failure.ofCause cause).during (.reading (path name)), ?_, Failure.chain_during _ _⟩
    show s.runQueries read directory = _
    unfold SessionOn.runQueries
    rw [hnames, readQueries_eq_error hb hname]
  · intro text htext
    have hresult : result = SessionOn.queryAll (queryNames.map fun n => (n, text n)) s := by
      show s.runQueries read directory = _
      unfold SessionOn.runQueries
      rw [readQueries_eq_ok htext]
    have hfst (names : List String) : (names.map fun n => (n, text n)).map Prod.fst = names := by
      simp [List.map_map, Function.comp_def]
    rw [hresult]
    obtain ⟨answers, last, hruns, hall⟩ |
      ⟨before, name, t, after, answers, d, e, last, hsplit, hruns, hfail, hall⟩ :=
      SessionOn.queryAll_cases (queryNames.map fun n => (n, text n)) s
    · exact .inl ⟨answers, last, hruns, hruns.names.trans (hfst _), hall⟩
    · obtain ⟨front, back, hnames, rfl, hback⟩ := List.map_eq_append_iff.mp hsplit
      obtain ⟨n, rest, rfl, heq, -⟩ := List.map_eq_cons_iff.mp hback
      obtain ⟨rfl, rfl⟩ := Prod.mk.inj heq
      exact .inr ⟨front, n, rest, answers, d, e, _, last, hnames, hruns, hruns.names.trans (hfst _),
        hfail,
        hall, Failure.chain_during _ _⟩

/-- A file is missing, and those before and behind it are empty. -/
def faultyFiles (path : String) : Except Cause String :=
  if path = "sql/q1.2.sql" then .error .noSuchFile else .ok ""

theorem queries_run_in_order_faultyFiles :
    let s := Session.start .bare
    (∃ f, s.runQueries faultyFiles "sql" = (.error f, s) ∧
      f.chain = ["reading sql/q1.2.sql", "No such file or directory (os error 2)"]) ∧
    ∃ f, s.runQueries (fun _ => .ok "") "sql" = (.error f, s) ∧
      f.chain = ["executing query q1.1", "not an error",
        "Error code 21: Library used incorrectly"] := by
  intro s
  have hparse : Statement.parse "" = .error .noStatement := by
    simp [Statement.parse, Token.ofText, Token.scan]
  have hrun : Engine.run (Statement.trimmed "") s.database =
      (.error (.ofDatabase .noStatement), s.database) := by
    show runText "" s.database = _
    unfold runText
    rw [hparse]
  have hnone {name : String} {queries : List (String × String)} {answers : List Answer}
      {last : StoreBench.Database} : ¬ Runs ((name, "") :: queries) s.database answers last := by
    intro hruns
    cases hruns with
    | cons h => cases hrun.symm.trans h
  constructor
  · refine (queries_run_in_order s faultyFiles "sql").1 ["q1.1"] "q1.2" _ .noSuchFile rfl ?_ rfl
    intro n hn
    obtain rfl := List.mem_singleton.mp hn
    exact ⟨"", rfl⟩
  · obtain ⟨answers, last, hruns, -⟩ |
      ⟨before, name, after, answers, d, e, f, last, hnames, hruns, -, hfail, hresult, hchain⟩ :=
      (queries_run_in_order s (fun _ => .ok "") "sql").2 (fun _ => "") fun _ _ => rfl
    · exact absurd hruns hnone
    · cases before with
      | cons n before => exact absurd hruns hnone
      | nil =>
        cases hruns
        cases hrun.symm.trans hfail
        cases hnames
        exact ⟨f, hresult, hchain⟩

end StoreBench.StarSchema
