import SqlPipeline.Database.Duck.Backend
import SqlPipeline.Proofs.Run.Execution

/-!
Interrupts. DuckDB tells of an interrupt in the message of the failure and nowhere else, so whatever
fails with a message that holds the words is taken for cancelled. In a run that nobody cancels this
is the only way for a node to end as cancelled; all other failures are failures.
-/

namespace SqlPipeline

/-! ## Messages -/

namespace Duck

/-- The message holds the words of an interrupt, in whatever they stand. -/
def SpellsInterrupt (message : String) : Prop :=
  "INTERRUPT".toList <:+: message.toList ∨ "Interrupted".toList <:+: message.toList

theorem occurs_iff {word text : List Char} : occurs word text = true ↔ word <:+: text := by
  induction text with
  | nil => simp [occurs]
  | cons c rest ih =>
    rw [occurs, Bool.or_eq_true, ih, List.isPrefixOf_iff_prefix, List.infix_cons_iff]

theorem isInterrupt_iff {message : String} :
    isInterrupt message = true ↔ SpellsInterrupt message := by
  rw [isInterrupt, Bool.or_eq_true, occurs_iff, occurs_iff, SpellsInterrupt]

/-- The driver refuses a statement that reaches it. -/
def Fails (connection : Connection) (sql message : String) : Prop :=
  connection.poisoned = false ∧ (connection.send sql).1 = .failed message

section Statements
variable {connection : Connection} {sql message detail : String}

theorem executeCancellable_of_fails (fails : Fails connection sql message) :
    (executeCancellable sql false connection).1 = .error (statementError message sql) := by
  obtain ⟨usable, failed⟩ := fails
  cases sent : connection.send sql with
  | mk reply after =>
    rw [sent] at failed
    have failed : reply = .failed message := failed
    subst failed
    simp [executeCancellable, guarded, statement, usable, sent]

theorem statementError_of_spells (spells : SpellsInterrupt message) :
    statementError message sql = .cancelled message :=
  if_pos (isInterrupt_iff.mpr spells)

theorem statementError_of_not_spells (plain : ¬ SpellsInterrupt message) :
    statementError message sql = .execution (message ++ ": " ++ sql) :=
  if_neg (mt isInterrupt_iff.mp plain)

theorem executeCancellable_eq_cancelled_iff :
    (executeCancellable sql false connection).1 = .error (.cancelled detail) ↔
      Fails connection sql detail ∧ SpellsInterrupt detail := by
  constructor
  · intro cancelled
    by_cases usable : connection.poisoned = true
    · simp [executeCancellable, guarded, usable] at cancelled
    have usable : connection.poisoned = false := eq_false_of_ne_true usable
    cases sent : connection.send sql with
    | mk reply after =>
      cases reply with
      | rows | panicked =>
        simp [executeCancellable, guarded, statement, usable, sent] at cancelled
      | failed message =>
        have fails : Fails connection sql message := ⟨usable, by rw [sent]⟩
        rw [executeCancellable_of_fails fails] at cancelled
        by_cases spells : SpellsInterrupt message
        · rw [statementError_of_spells spells] at cancelled
          cases cancelled
          exact ⟨fails, spells⟩
        · rw [statementError_of_not_spells spells] at cancelled
          cases cancelled
  · rintro ⟨fails, spells⟩
    rw [executeCancellable_of_fails fails, statementError_of_spells spells]

/-- What comes of a statement that nobody cancels. -/
def answer (connection : Connection) (sql : String) : Outcome :=
  match (executeCancellable sql false connection).1 with
  | .ok rows => .rows rows
  | .error error => .error error

theorem answer_ne_panic (text : Option String) : answer connection sql ≠ .panic text := by
  unfold answer
  split <;> simp

theorem answer_eq_cancelled_iff :
    answer connection sql = .error (.cancelled detail) ↔
      Fails connection sql detail ∧ SpellsInterrupt detail := by
  rw [← executeCancellable_eq_cancelled_iff, answer]
  split <;> rename_i came <;> simp [came]

end Statements
end Duck

namespace Run

/-! ## Nodes -/

/-- Every answer is the one of DuckDB to its statement, on the connection as the statement finds
it. -/
def Served (serving : Option Nat → Nat → Duck.Connection) (state : State) (moves : List Move) :
    Prop :=
  ∀ owner index outcome, (answersTo owner moves)[index]? = some outcome →
    ∃ sql, (state.handedTo owner)[index]? = some sql ∧
      outcome = Duck.answer (serving owner index) sql

/-- A statement of the node failed with a message that holds the words of an interrupt. -/
def Misread (serving : Option Nat → Nat → Duck.Connection) (state : State) (position : Nat) : Prop :=
  ∃ index sql message, (state.handedTo (some position))[index]? = some sql ∧
    Duck.Fails (serving (some position) index) sql message ∧ Duck.SpellsInterrupt message

/-- A task of the node did not pass. -/
def Failing (node : ExecutionNode) (answers : List Outcome) : Prop :=
  ∃ (index : Nat) (task : Task) (outcome : Outcome), node.tasks[index]? = some task ∧
    answers[index]? = some outcome ∧ Verdict.judge task.kind outcome ≠ .passed

section Ends
variable {node : ExecutionNode} {report : NodeReport} {fatal : Option String} {handed : List String}
  {answers : List Outcome}

theorem Accounts.ends_or_skipped (accounts : Accounts node (.finished report) handed answers)
    (alive : ¬ (Progress.finished report).Quit) :
    (∃ fatal, Ends node report fatal handed answers) ∨
      report.status = .skipped ∧ handed = [] ∧ answers = [] := by
  cases accounts with
  | collected ends => exact Or.inl ⟨_, ends⟩
  | notRun quiet =>
    rcases quiet with rfl | rfl
    · exact absurd ⟨rfl, fun _ member => absurd member List.not_mem_nil⟩ alive
    · exact Or.inr ⟨rfl, rfl, rfl⟩

-- No task passes on an error, so an error is the last answer.
theorem Ends.getLast?_of_error (ends : Ends node report fatal handed answers) {error : DbError}
    (member : .error error ∈ answers) : answers.getLast? = some (.error error) := by
  cases ends with
  | whole pass | halted _ pass => exact absurd member (pass.not_error error)
  | judged _ pass =>
    have last := (List.mem_append.mp member).resolve_left (pass.not_error error)
    rw [List.getLast?_concat, List.mem_singleton.mp last]

theorem Ends.failing_of_failed (ends : Ends node report fatal handed answers)
    (failed : report.status = .failed) : Failing node answers := by
  cases ends with
  | whole | halted => cases failed
  | @judged before task rest outcomes outcome _ _ tasks pass verdict =>
    refine ⟨before.length, task, outcome, next_of_split tasks, ?_, (not_passed_of_judged verdict).1⟩
    rw [pass.length_eq, List.getElem?_concat_length]

theorem Pass.not_failing (pass : Pass node.tasks answers) : ¬ Failing node answers := by
  rintro ⟨index, task, outcome, listed, found, ill⟩
  obtain ⟨inside, rfl⟩ := List.getElem?_eq_some_iff.mp listed
  obtain ⟨within, rfl⟩ := List.getElem?_eq_some_iff.mp found
  exact ill (pass.get inside within)

end Ends

section Served
variable {graph : ExecutionGraph} {moves : List Move} {state : State}
  {serving : Option Nat → Nat → Duck.Connection} {position : Nat} {node : ExecutionNode}
  {report : NodeReport}

theorem Served.not_panic (served : Served serving state moves) (owner : Option Nat)
    (message : Option String) : .panic message ∉ answersTo owner moves := by
  intro member
  obtain ⟨index, found⟩ := List.mem_iff_getElem?.mp member
  obtain ⟨sql, _, same⟩ := served owner index _ found
  exact Duck.answer_ne_panic message same.symm

theorem alive_of_calm (run : Trace graph moves state) (calm : state.aborted = false)
    {progress : Progress} (found : state.cells[position]? = some ⟨node, progress⟩) :
    ¬ progress.Quit := by
  intro quit
  rw [aborted_of_quit run found quit] at calm
  cases calm

theorem cancelled_iff_misread (run : Trace graph moves state) (calm : state.aborted = false)
    (served : Served serving state moves)
    (past : state.cells[position]? = some ⟨node, .finished report⟩) :
    report.status = .cancelled ↔ Misread serving state position := by
  have alive := alive_of_calm run calm past
  rcases (recorded_of_trace run position node _ past).ends_or_skipped alive with
    ⟨fatal, ends⟩ | ⟨skipped, unhanded, _⟩
  · obtain ⟨done, rest, _, handed, length, _, returns⟩ :=
      ends.returns (fun quit => absurd quit alive)
    have returns : Returns node false done rest _ report fatal :=
      returns (served.not_panic (some position))
    rw [returns.cancelled]
    constructor
    · rintro (⟨_, last, detail, rfl⟩ | ⟨_, _, alarm⟩)
      · rw [List.getLast?_eq_getElem?] at last
        obtain ⟨sql, listed, same⟩ := served (some position) _ _ last
        obtain ⟨fails, spells⟩ := Duck.answer_eq_cancelled_iff.mp same.symm
        exact ⟨_, sql, detail, listed, fails, spells⟩
      · cases alarm
    · rintro ⟨index, sql, message, listed, fails, spells⟩
      have inside := (List.getElem?_eq_some_iff.mp listed).1
      rw [handed, List.length_map, ← length] at inside
      have found := List.getElem?_eq_getElem inside
      obtain ⟨other, known, same⟩ := served (some position) index _ found
      rw [listed, Option.some.injEq] at known
      subst known
      rw [Duck.answer_eq_cancelled_iff.mpr ⟨fails, spells⟩] at same
      rw [same] at found
      exact Or.inl ⟨_, ends.getLast?_of_error (List.mem_of_getElem? found), message, rfl⟩
  · rw [skipped]
    refine iff_of_false (by simp) ?_
    rintro ⟨index, sql, message, listed, _⟩
    simp [unhanded] at listed

theorem failed_iff_failing (run : Trace graph moves state) (calm : state.aborted = false)
    (served : Served serving state moves)
    (past : state.cells[position]? = some ⟨node, .finished report⟩) :
    report.status = .failed ↔
      Failing node (answersTo (some position) moves) ∧ ¬ Misread serving state position := by
  have accounts := recorded_of_trace run position node _ past
  have misread := cancelled_iff_misread run calm served past
  have reached := accounts.ends_or_skipped (alive_of_calm run calm past)
  constructor
  · intro failed
    rcases reached with ⟨_, ends⟩ | ⟨skipped, _⟩
    · refine ⟨ends.failing_of_failed failed, fun holds => ?_⟩
      rw [misread.mpr holds] at failed
      cases failed
    · rw [skipped] at failed
      cases failed
  · rintro ⟨failing, plain⟩
    rcases accounts.final with well | failed | cancelled | skipped
    · exact absurd failing (accounts.pass_of_succeeded well).2.not_failing
    · exact failed
    · exact absurd (misread.mp cancelled) plain
    · rcases reached with ⟨_, ends⟩ | ⟨_, _, unanswered⟩
      · have status := ends.status
        simp [skipped] at status
      · obtain ⟨index, _, _, _, found, _⟩ := failing
        simp [unanswered] at found

end Served

/-! ## Runs -/

section Calm
variable {state : State}

theorem cancelled_report_iff (silent : state.token = false) (sound : state.fatal = none) :
    state.report.cancelled = true ↔ ∃ entry ∈ state.report.nodes, entry.status = .cancelled := by
  simp [State.report, silent, sound]

theorem calm_of_silent (silent : state.token = false) (sound : state.fatal = none) :
    state.aborted = false := by
  simp [State.aborted, silent, sound]

end Calm

theorem cancelled_by_words (serving : Option Nat → Nat → Duck.Connection) :
    (∀ owner index sql detail,
      (Duck.executeCancellable sql false (serving owner index)).1 = .error (.cancelled detail) ↔
        Duck.Fails (serving owner index) sql detail ∧ Duck.SpellsInterrupt detail) ∧
    ∀ (graph : ExecutionGraph) (moves : List Move) (state : State),
      Trace graph moves state → state.closed = true → .cancel ∉ moves → state.fatal = none →
      Served serving state moves →
        state.result = .ok state.report ∧
        (∀ position node, graph.nodes[position]? = some node →
          ∃ entry, state.report.nodes[position]? = some entry ∧ entry.name = node.name ∧
            (entry.status = .cancelled ↔ Misread serving state position) ∧
            (entry.status = .failed ↔
              Failing node (answersTo (some position) moves) ∧
                ¬ Misread serving state position)) ∧
        (state.report.cancelled = true ↔
          ∃ position < graph.nodes.length, Misread serving state position) := by
  refine ⟨fun owner index sql detail => Duck.executeCancellable_eq_cancelled_iff, ?_⟩
  intro graph moves state run closed calm sound served
  have silent := silent_of_calm run calm
  have still := calm_of_silent silent sound
  have present := (present_iff run).mpr (served.not_panic none)
  refine ⟨result_of_present present, ?_, ?_⟩
  · intro position node known
    obtain ⟨report, past⟩ := exists_report_of_closed run present closed known
    exact ⟨report, nodes_report_of_finished past, (recorded_of_trace run position node _ past).name,
      cancelled_iff_misread run still served past, failed_iff_failing run still served past⟩
  · rw [cancelled_report_iff silent sound]
    constructor
    · rintro ⟨entry, member, cancelled⟩
      obtain ⟨position, node, past⟩ := exists_cell_of_entry run present closed member
      have known := known_of_found (nodes_of_trace run) past
      exact ⟨position, (List.getElem?_eq_some_iff.mp known).1,
        (cancelled_iff_misread run still served past).mp cancelled⟩
    · rintro ⟨position, inside, misread⟩
      obtain ⟨report, past⟩ :=
        exists_report_of_closed run present closed (List.getElem?_eq_getElem inside)
      exact ⟨report, List.mem_of_getElem? (nodes_report_of_finished past),
        (cancelled_iff_misread run still served past).mpr misread⟩

-- Two nodes, neither of whose tables exists. One of them is called like the word.
def outage : ExecutionGraph where
  config := .standard
  runConfig := .standard
  warehouse := .duckdb
  setup := []
  nodes :=
    [⟨⟨"power", by decide⟩, .operation, none, [], [], [.plain "select * from INTERRUPTS"],
        .pending⟩,
      ⟨⟨"water", by decide⟩, .operation, none, [], [], [.plain "select * from LEAKS"], .pending⟩]

def missingText (table : String) : String :=
  "Catalog Error: Table with name " ++ table ++ " does not exist!"

def outageConnection : Duck.Connection where
  answers :=
    [("select * from INTERRUPTS",
        [{ Duck.Answer.silent with refusal := some (missingText "INTERRUPTS") }]),
      ("select * from LEAKS", [{ Duck.Answer.silent with refusal := some (missingText "LEAKS") }])]
  calls := [.openInMemory]
  poisoned := false

def outageMoves : List Move :=
  [.issueSetup, .take, .act, .take, .act, .start 0, .issue 0,
    .reply 0 (.error (.cancelled (missingText "INTERRUPTS"))), .start 1, .issue 1,
    .reply 1 (.error (.execution (missingText "LEAKS" ++ ": select * from LEAKS"))), .collect 0,
    .collect 1, .close]

example :
    ((start outage).moves? outageMoves).map
        (fun state => (state.report.cancelled, state.report.nodes.map NodeReport.status)) =
      some (true, [.cancelled, .failed]) := by decide

theorem served_outage {state : State} (reached : (start outage).moves? outageMoves = some state) :
    Served (fun _ _ => outageConnection) state outageMoves := by
  intro owner index outcome found
  have single (name : Nat) (sql : String) (reply : Outcome)
      (handed : state.handedTo (some name) = [sql])
      (answers : answersTo (some name) outageMoves = [reply])
      (answered : reply = Duck.answer outageConnection sql) (own : owner = some name) :
      ∃ sql, (state.handedTo owner)[index]? = some sql ∧
        outcome = Duck.answer outageConnection sql := by
    subst own
    rw [answers, List.getElem?_singleton] at found
    split at found <;> cases found
    rename_i first
    exact ⟨sql, by rw [handed, first, List.getElem?_cons_zero], answered⟩
  by_cases power : owner = some 0
  · exact single 0 "select * from INTERRUPTS" _ (by cases reached; rfl) rfl rfl power
  by_cases water : owner = some 1
  · exact single 1 "select * from LEAKS" _ (by cases reached; rfl) rfl rfl water
  · simp [answersTo, outageMoves, Move.answerTo?, List.filterMap_cons, power, water] at found

theorem outage_cancelled :
    Duck.Fails outageConnection "select * from INTERRUPTS" (missingText "INTERRUPTS") ∧
    Duck.SpellsInterrupt (missingText "INTERRUPTS") ∧
    ∃ state, Trace outage outageMoves state ∧ state.closed = true ∧ state.fatal = none ∧
      Served (fun _ _ => outageConnection) state outageMoves ∧
      state.result = .ok state.report ∧
      (∀ position node, outage.nodes[position]? = some node →
        ∃ entry, state.report.nodes[position]? = some entry ∧ entry.name = node.name ∧
          (entry.status = .cancelled ↔ Misread (fun _ _ => outageConnection) state position) ∧
          (entry.status = .failed ↔
            Failing node (answersTo (some position) outageMoves) ∧
              ¬ Misread (fun _ _ => outageConnection) state position)) ∧
      (state.report.cancelled = true ↔
        ∃ position < outage.nodes.length, Misread (fun _ _ => outageConnection) state position) := by
  obtain ⟨state, reached⟩ := Option.isSome_iff_exists.mp
    (show ((start outage).moves? outageMoves).isSome = true by decide)
  have closed : state.closed = true := by
    cases reached
    rfl
  have sound : state.fatal = none := by
    cases reached
    rfl
  have run := trace_of_moves? reached
  have served := served_outage reached
  obtain ⟨statements, runs⟩ := cancelled_by_words fun _ _ => outageConnection
  obtain ⟨fails, spells⟩ := (statements none 0 "select * from INTERRUPTS" _).mp rfl
  exact ⟨fails, spells, state, run, closed, sound, served,
    runs outage outageMoves state run closed (by simp [outageMoves]) sound served⟩

-- Nothing waits for an interrupt here, and none is asked for.
theorem cancelled_without_interrupt :
    ¬ ∀ (connection : Duck.Connection) (sql detail : String),
      (∀ entry ∈ connection.answers, ∀ answer ∈ entry.2, answer.wait = none) →
        (Duck.executeCancellable sql false connection).1 ≠ .error (.cancelled detail) := by
  intro never
  exact never outageConnection "select * from INTERRUPTS" (missingText "INTERRUPTS") (by decide) rfl

end Run
end SqlPipeline
