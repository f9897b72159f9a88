import PanelQuery.Proofs.Agree
import PanelQuery.Proofs.Progress.Owner
import PanelQuery.Proofs.Sql.Hole
import PanelQuery.Run.Task

/-! # The statements of a run

A run is followed through a store that writes down every statement with the reply to it. Which
statements there are depends on the request and on the replies alone: a first one, and for a ranked
request a second one for the groups that the first has found. -/

namespace PanelQuery

variable {σ : Type}

/-! ## Bound statements -/

namespace Sql

/-- The statement with the groups written into its holes. -/
def fill (groups : String) (sql : Sql) : Sql :=
  sql.map fun p => if p.isHole then .fixed groups else p

@[simp] theorem holes_fill (groups : String) (sql : Sql) : holes (sql.fill groups) = 0 := by
  induction sql with
  | nil => rfl
  | cons p sql ih =>
    rw [fill, List.map_cons, holes_cons, ← fill, ih]
    cases p <;> rfl

theorem text_fill (groups : String) (sql : Sql) : text (sql.fill groups) = sql.bind groups := by
  induction sql with
  | nil => rfl
  | cons p sql ih =>
    rw [fill, List.map_cons, ← fill, text, bind_cons, bind_cons, ← text, ih]
    cases p <;> rfl

end Sql

/-! ## The course of a task -/

/-- What was sent, with the replies. -/
abbrev Exchanges := List (String × Reply)

/-- The store that also writes down what it is asked and what it replies. -/
def Store.logged (store : Store σ) : Store (σ × Exchanges) :=
  fun reporter statement (registry, state, log) =>
    let (reply, registry, state) := store reporter statement (registry, state)
    (reply, registry, state, log ++ [(statement, reply)])

namespace Task

/-- A task can go through these exchanges and end like this. -/
inductive Course (panel : Panel) (queryId : String) : Task → Exchanges → Ending → Prop
  | done (result : Except ServiceError (List Row)) :
      Course panel queryId (.done result) [] (.ofResult (result.bind (checkRows panel)))
  | rows {statement : String} {next : List Row → Task} {rows : List Row} {sent : Exchanges}
      {ending : Ending} (h : Course panel queryId (next rows) sent ending) :
      Course panel queryId (.send statement next) ((statement, .rows rows) :: sent) ending
  | failed {statement : String} {next : List Row → Task} (text : String) :
      Course panel queryId (.send statement next) [(statement, .failed text)]
        (.failed (.internal text))
  | timedOut {statement : String} {next : List Row → Task} :
      Course panel queryId (.send statement next) [(statement, .timedOut)]
        (.failed (.timeout ("query " ++ queryId ++ " timed out")))
  | abandoned {statement : String} {next : List Row → Task} :
      Course panel queryId (.send statement next) [(statement, .abandoned)] .abandoned

/-- Performing a task takes one of its courses, and writing it down changes nothing else. -/
theorem perform_logged (store : Store σ) (panel : Panel) (reporter : Reporter) (task : Task)
    (registry : Registry) (state : σ) (log : Exchanges) :
    ∃ sent, task.Course panel reporter.queryId sent
        (task.perform store panel reporter (registry, state)).1 ∧
      task.perform store.logged panel reporter (registry, state, log) =
        ((task.perform store panel reporter (registry, state)).1,
          (task.perform store panel reporter (registry, state)).2.1,
          (task.perform store panel reporter (registry, state)).2.2, log ++ sent) := by
  induction task generalizing registry state log with
  | done result => exact ⟨[], .done result, by simp [perform]⟩
  | send statement next ih =>
    rw [perform, perform, Store.logged]
    dsimp only
    rcases store reporter statement (registry, state) with ⟨reply, registry, state⟩
    cases reply with
    | rows rows =>
      obtain ⟨sent, hcourse, hperform⟩ := ih rows registry state (log ++ [(statement, .rows rows)])
      refine ⟨_, .rows hcourse, hperform.trans ?_⟩
      rw [List.append_assoc, List.singleton_append]
    | failed text => exact ⟨_, .failed text, rfl⟩
    | timedOut => exact ⟨_, .timedOut, rfl⟩
    | abandoned => exact ⟨_, .abandoned, rfl⟩

variable {panel : Panel} {queryId : String} {sent : Exchanges} {ending : Ending}

/-- A text that could be made is sent first. -/
theorem course_ofText {text : Except ServiceError String} {next : List Row → Task}
    (h : (ofText text next).Course panel queryId sent ending) :
    sent = [] ∨ ∃ statement reply rest, text = .ok statement ∧
      sent = (statement, reply) :: rest ∧
      (rest = [] ∨ ∃ rows, reply = .rows rows ∧ (next rows).Course panel queryId rest ending) := by
  cases text with
  | error e =>
    cases h
    exact .inl rfl
  | ok statement =>
    cases h with
    | rows h => exact .inr ⟨statement, _, _, rfl, rfl, .inr ⟨_, rfl, h⟩⟩
    | failed | timedOut | abandoned => exact .inr ⟨statement, _, [], rfl, rfl, .inl rfl⟩

theorem course_done {result : Except ServiceError (List Row)}
    (h : (Task.done result).Course panel queryId sent ending) : sent = [] := by
  cases h
  rfl

/-- A text whose rows are the result is all that is sent. -/
theorem course_last {text : Except ServiceError String}
    (h : (ofText text fun rows => .done (.ok rows)).Course panel queryId sent ending) :
    sent = [] ∨ ∃ statement reply, text = .ok statement ∧ sent = [(statement, reply)] := by
  rcases course_ofText h with hnil | ⟨statement, reply, rest, htext, rfl, hrest⟩
  · exact .inl hnil
  · rcases hrest with rfl | ⟨rows, -, hdone⟩
    · exact .inr ⟨statement, reply, htext, rfl⟩
    · exact .inr ⟨statement, reply, htext, by rw [course_done hdone]⟩

/-- A value panel never ends with more than one row. -/
theorem Course.length_le_one {task : Task} {rows : List Row}
    (h : task.Course .value queryId sent (.rows rows)) : rows.length ≤ 1 := by
  generalize hending : Ending.rows rows = ending at h
  induction h with
  | done result =>
    cases result with
    | error e => cases hending
    | ok found =>
      rw [Except.bind, checkRows] at hending
      split at hending
      · cases hending
      · next hfew =>
        cases hending
        simpa using hfew
  | rows _ ih => exact ih hending
  | failed | timedOut | abandoned => cases hending

end Task

/-! ## The statements of a request -/

/-- The request that the first statement is compiled from. -/
def CompileRequest.opening (r : CompileRequest) : CompileRequest :=
  if r.isRanked then r.withPass .first else r

/-- What a run of a request may send. No statement has a hole left in it. -/
structure Engine.Sends (e : Engine) (r : CompileRequest) (sent : Exchanges) : Prop where
  atMostTwo : sent.length ≤ 2
  /-- The first statement is compiled from the request, for the first pass if it is ranked. -/
  first : ∀ statement reply, sent[0]? = some (statement, reply) →
    ∃ sql, e.compile r.opening = .ok sql ∧ sql.holes = 0 ∧ statement = sql.text
  /-- The second follows a first one that has found groups, and is bound to them. -/
  second : ∀ statement reply, sent[1]? = some (statement, reply) →
    r.panel = .graph ∧ r.query.signal ≠ .metrics ∧ r.options.pass = .none ∧
    r.query.groupBy ≠ [] ∧ 0 < r.query.limit ∧
    ∃ ranking rows groups sql, sent[0]? = some (ranking, .rows rows) ∧ rows ≠ [] ∧
      groupTuples r.query.groupBy rows = .ok groups ∧ e.compile (r.withPass .second) = .ok sql ∧
      (sql.fill groups).holes = 0 ∧ statement = (sql.fill groups).text

theorem isRanked_iff {r : CompileRequest} : r.isRanked = true ↔
    r.panel = .graph ∧ r.query.signal ≠ .metrics ∧ r.options.pass = .none ∧
      r.query.groupBy ≠ [] ∧ 0 < r.query.limit := by
  simp [CompileRequest.isRanked, and_assoc]

theorem Engine.finalText_ok {e : Engine} {r : CompileRequest} {statement : String}
    (h : e.finalText r = .ok statement) :
    ∃ sql, e.compile r = .ok sql ∧ sql.holes = 0 ∧ statement = sql.text := by
  obtain ⟨sql, hsql, hfinal⟩ := ok_of_bind h
  rw [Sql.final_eq] at hfinal
  split at hfinal
  · next hholes =>
    cases hfinal
    exact ⟨sql, mapError_ok hsql, hholes, rfl⟩
  · cases hfinal

theorem Engine.groupedText_ok {e : Engine} {r : CompileRequest} {rows : List Row}
    {statement : String} (h : e.groupedText r rows = .ok statement) :
    ∃ groups sql, groupTuples r.query.groupBy rows = .ok groups ∧
      e.compile (r.withPass .second) = .ok sql ∧ (sql.fill groups).holes = 0 ∧
      statement = (sql.fill groups).text := by
  obtain ⟨groups, hgroups, h⟩ := ok_of_bind h
  obtain ⟨sql, hsql, h⟩ := ok_of_bind h
  cases h
  exact ⟨groups, sql, hgroups, mapError_ok hsql, Sql.holes_fill groups sql,
    (Sql.text_fill groups sql).symm⟩

namespace Engine

variable {e : Engine} {r : CompileRequest} {statement : String} {reply : Reply} {panel : Panel}
  {queryId : String} {sent : Exchanges} {ending : Ending}

theorem sends_nil (e : Engine) (r : CompileRequest) : e.Sends r [] := ⟨Nat.zero_le 2, nofun, nofun⟩

theorem sends_one (h : e.finalText r.opening = .ok statement) : e.Sends r [(statement, reply)] := by
  refine ⟨by simp, fun _ _ hsent => ?_, fun _ _ hsent => ?_⟩
  · cases hsent
    exact finalText_ok h
  · cases hsent

theorem sends_two {rows : List Row} {second : String} (hranked : r.isRanked = true)
    (h : e.finalText r.opening = .ok statement) (hrows : rows ≠ [])
    (hsecond : e.groupedText r rows = .ok second) :
    e.Sends r [(statement, .rows rows), (second, reply)] := by
  refine ⟨by simp, fun _ _ hsent => ?_, fun _ _ hsent => ?_⟩
  · cases hsent
    exact finalText_ok h
  · cases hsent
    obtain ⟨hpanel, hsignal, hpass, hgroupBy, hlimit⟩ := isRanked_iff.mp hranked
    obtain ⟨groups, sql, hgroups⟩ := groupedText_ok hsecond
    exact ⟨hpanel, hsignal, hpass, hgroupBy, hlimit, statement, rows, groups, sql, rfl, hrows,
      hgroups⟩

/-- What a course of the task of a request sends. -/
theorem sends_of_course (h : (Task.ofRequest e r).Course panel queryId sent ending) :
    e.Sends r sent := by
  unfold Task.ofRequest at h
  split at h
  · next hranked =>
    rw [← show r.opening = r.withPass .first from if_pos hranked] at h
    rcases Task.course_ofText h with rfl | ⟨statement, reply, rest, htext, rfl, hrest⟩
    · exact sends_nil e r
    rcases hrest with rfl | ⟨rows, rfl, hcourse⟩
    · exact sends_one htext
    split at hcourse
    · rw [Task.course_done hcourse]
      exact sends_one htext
    · next hrows =>
      rcases Task.course_last hcourse with rfl | ⟨second, reply, hsecond, rfl⟩
      · exact sends_one htext
      · exact sends_two hranked htext (by simpa using hrows) hsecond
  · next hranked =>
    rw [← show r.opening = r from if_neg hranked] at h
    rcases Task.course_last h with rfl | ⟨statement, reply, htext, rfl⟩
    · exact sends_nil e r
    · exact sends_one htext

end Engine

/-! ## The statements of a run -/

/-- What a run sends, with the replies. -/
def exchanges (e : Engine) (store : Store σ) (queryId : String) (r : CompileRequest)
    (world : Registry × σ) : Exchanges :=
  (run e store.logged queryId r (world.1, world.2, [])).2.2.2

section

variable (e : Engine) (store : Store σ) (r : CompileRequest) {queryId : String}
  {world : Registry × σ}

/-- An id that is running is refused before anything is sent. -/
theorem run_of_running {i : Nat} (h : world.1.find? queryId = some i) :
    run e store queryId r world =
        (.failed (.alreadyExists ("query " ++ queryId ++ " already started")), world) ∧
      exchanges e store queryId r world = [] := by
  rw [exchanges, run, run, Registry.start_of_running h]
  exact ⟨rfl, rfl⟩

/-- A run under a free id performs the task of the request with a fresh registration under the id,
and then ends what runs under it. -/
theorem run_of_free (h : world.1.find? queryId = none) :
    run e store queryId r world =
      let (ending, registry, state) := (Task.ofRequest e r).perform store r.panel ⟨queryId⟩
        (world.1.started queryId, world.2)
      (ending, registry.finish ⟨queryId⟩, state) := by
  rw [run, Registry.start_of_free h]
  rfl

/-- A run goes through a course of the task of the request. -/
theorem course_run (h : world.1.find? queryId = none) :
    (Task.ofRequest e r).Course r.panel queryId (exchanges e store queryId r world)
      (run e store queryId r world).1 := by
  obtain ⟨sent, hcourse, hlogged⟩ := Task.perform_logged store r.panel ⟨queryId⟩
    (Task.ofRequest e r) (world.1.started queryId) world.2 []
  have hsent : exchanges e store queryId r world = sent := by
    rw [exchanges, run_of_free e store.logged r h, hlogged]
    rfl
  rw [hsent, run_of_free e store r h]
  exact hcourse

end

end PanelQuery
