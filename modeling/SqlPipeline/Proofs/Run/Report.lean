import SqlPipeline.Proofs.Run.Loss

/-!
The report of a run. Whatever the graph is like, and whatever the database answers, the report has
one final entry for every node, shows how far the setup came, and calls the run good exactly when
every statement of the graph was handed over and passed.
-/

namespace SqlPipeline

def NodeStatus.Final (status : NodeStatus) : Prop :=
  status = .succeeded ∨ status = .failed ∨ status = .cancelled ∨ status = .skipped

theorem RunSummary.total_ofStatuses {statuses : List NodeStatus}
    (final : ∀ status ∈ statuses, status.Final) :
    (RunSummary.ofStatuses statuses).succeeded + (RunSummary.ofStatuses statuses).failed +
        (RunSummary.ofStatuses statuses).cancelled + (RunSummary.ofStatuses statuses).skipped =
      (RunSummary.ofStatuses statuses).total := by
  induction statuses with
  | nil => rfl
  | cons first rest ih =>
    have later := ih fun status member => final status (List.mem_cons_of_mem _ member)
    simp only [RunSummary.ofStatuses, List.length_cons] at later ⊢
    rcases final first List.mem_cons_self with rfl | rfl | rfl | rfl <;> simp <;> omega

namespace Run

/-! ## Entries -/

section Entries
variable {node : ExecutionNode} {report : NodeReport} {handed : List String}
  {outcomes : List Outcome}

theorem name_of_judged {cell : Cell} {results : List TaskResult} {task : Task} {rest : List Task}
    {verdict : Verdict} {fatal : Option String}
    (judged : cell.judged results task rest verdict = .ended report fatal) :
    report.name = cell.name := by
  cases verdict <;> cases judged <;> rfl

theorem Ends.name {fatal : Option String} (ends : Ends node report fatal handed outcomes) :
    report.name = node.name := by
  cases ends with
  | whole | halted => rfl
  | judged _ _ verdict => exact name_of_judged verdict

theorem Ends.status {fatal : Option String} (ends : Ends node report fatal handed outcomes) :
    report.status = .succeeded ∨ report.status = .failed ∨ report.status = .cancelled := by
  cases ends with
  | whole => exact Or.inl rfl
  | halted => exact Or.inr (Or.inr rfl)
  | judged _ _ verdict => exact Or.inr (not_passed_of_judged verdict).2

theorem Accounts.name (accounts : Accounts node (.finished report) handed outcomes) :
    report.name = node.name := by
  cases accounts with
  | collected ends => exact ends.name
  | notRun => rfl

theorem Accounts.final (accounts : Accounts node (.finished report) handed outcomes) :
    report.status.Final := by
  cases accounts with
  | collected ends =>
    rcases ends.status with well | failed | cancelled
    · exact Or.inl well
    · exact Or.inr (Or.inl failed)
    · exact Or.inr (Or.inr (Or.inl cancelled))
  | notRun quiet => exact Or.inr (Or.inr quiet)

theorem Accounts.tasks_of_skipped (accounts : Accounts node (.finished report) handed outcomes)
    (skipped : report.status = .skipped) : report.tasks = [] := by
  cases accounts with
  | collected ends =>
    have status := ends.status
    simp [skipped] at status
  | notRun => rfl

end Entries

section Closed
variable {graph : ExecutionGraph} {moves : List Move} {state : State}

theorem exists_cell_of_entry (run : Trace graph moves state)
    (present : ∀ message, state.setup ≠ .lost message) (closed : state.closed = true)
    {entry : NodeReport} (member : entry ∈ state.report.nodes) :
    ∃ (position : Nat) (node : ExecutionNode),
      state.cells[position]? = some ⟨node, .finished entry⟩ := by
  obtain ⟨position, stored⟩ := List.mem_iff_getElem?.mp member
  have inside : position < graph.nodes.length := by
    have inside := (List.getElem?_eq_some_iff.mp stored).1
    rw [← nodes_of_trace run, List.length_map]
    simpa [State.report] using inside
  obtain ⟨report, past⟩ :=
    exists_report_of_closed run present closed (List.getElem?_eq_getElem inside)
  rw [nodes_report_of_finished past, Option.some.injEq] at stored
  exact ⟨position, _, stored ▸ past⟩

theorem names_of_closed (run : Trace graph moves state)
    (present : ∀ message, state.setup ≠ .lost message) (closed : state.closed = true) :
    state.report.nodes.map NodeReport.name = graph.nodes.map ExecutionNode.name := by
  rw [← nodes_of_trace run, List.map_map, State.report, List.map_map]
  apply List.map_congr_left
  intro cell member
  obtain ⟨position, found⟩ := List.mem_iff_getElem?.mp member
  obtain ⟨report, past⟩ := settled_of_closed run present closed member
  obtain ⟨node, progress⟩ := cell
  have past : progress = .finished report := past
  subst past
  exact (recorded_of_trace run position node _ found).name

end Closed

/-! ## The setup -/

section Setup
variable {tasks : List Task} {setup : Setup} {handed : List String} {outcomes : List Outcome}

theorem SetupAccounts.prefix_of_results (accounts : SetupAccounts tasks setup handed outcomes) :
    setup.results.map TaskResult.task <+: tasks ∧
      ∀ result ∈ setup.results.dropLast, result.ok = true := by
  have passed : ∀ before : List Task, (before.map TaskResult.passed).map TaskResult.task = before ∧
      ∀ result ∈ before.map TaskResult.passed, result.ok = true := by
    intro before
    simp [TaskResult.passed, Function.comp_def]
  cases accounts with
  | @running before rest _ split | @inFlight before _ rest _ split | @halted before _ rest _ split =>
    obtain ⟨same, well⟩ := passed before
    refine ⟨⟨_, (congrArg (· ++ _) same).trans split.symm⟩, ?_⟩
    intro result member
    exact well result (List.dropLast_subset _ member)
  | passed =>
    obtain ⟨same, well⟩ := passed tasks
    refine ⟨⟨[], (List.append_nil _).trans same⟩, ?_⟩
    intro result member
    exact well result (List.dropLast_subset _ member)
  | @failed before task rest _ _ message split =>
    obtain ⟨same, well⟩ := passed before
    refine ⟨⟨rest, ?_⟩, ?_⟩
    · simp [Setup.results, split, same, TaskResult.failed]
    · simpa [Setup.results] using well
  | lost => simp [Setup.results]

-- A setup that came to its end without passing has a statement that did not pass or was not handed.
theorem SetupAccounts.isPassed_of_pass (accounts : SetupAccounts tasks setup handed outcomes)
    (past : setup.isOver = true) (pass : Pass tasks outcomes) : setup.isPassed = true := by
  cases accounts with
  | passed => rfl
  | halted split before =>
    have short := pass.length_eq
    rw [split, List.length_append, before.length_eq, List.length_cons] at short
    omega
  | @failed before task rest outcomes outcome message split earlier fails =>
    rw [split] at pass
    have last : Pass (task :: rest) [outcome] := by
      have dropped := List.forall₂_drop_append _ _ _ pass
      rwa [← earlier.length_eq, List.drop_left] at dropped
    cases last with
    | cons passes => simp [passes] at fails
  | running | inFlight | lost => cases past

end Setup

/-! ## The report -/

/-- What a report says of the run that it closes. -/
structure Tells (graph : ExecutionGraph) (moves : List Move) (state : State) (report : Report) :
    Prop where
  names : report.nodes.map NodeReport.name = graph.nodes.map ExecutionNode.name
  final : ∀ entry ∈ report.nodes, entry.status.Final
  total : report.summary.succeeded + report.summary.failed + report.summary.cancelled +
    report.summary.skipped = report.summary.total
  nodes : report.summary.total = graph.nodes.length
  skipped : ∀ entry ∈ report.nodes, entry.status = .skipped → entry.tasks = []
  setup : report.setup.map TaskResult.task <+: graph.setup ∧
    ∀ result ∈ report.setup.dropLast, result.ok = true
  fatal : report.fatal.isSome = true ↔ Lossy moves
  ok : report.ok = true ↔
    (state.handedTo none = graph.setup.map Task.statement ∧
      Pass graph.setup (answersTo none moves)) ∧
    ¬ Lossy moves ∧ ∀ entry ∈ report.nodes, entry.status = .succeeded
  succeeded : ∀ (position : Nat) (node : ExecutionNode) (entry : NodeReport),
    graph.nodes[position]? = some node → report.nodes[position]? = some entry →
    entry.status = .succeeded →
      state.handedTo (some position) = node.tasks.map Task.statement ∧
        Pass node.tasks (answersTo (some position) moves)

section Tells
variable {graph : ExecutionGraph} {moves : List Move} {state : State}

theorem ok_iff (run : Trace graph moves state) (present : ∀ message, state.setup ≠ .lost message)
    (closed : state.closed = true) :
    state.report.ok = true ↔
      (state.handedTo none = graph.setup.map Task.statement ∧
        Pass graph.setup (answersTo none moves)) ∧
      ¬ Lossy moves ∧ ∀ entry ∈ state.report.nodes, entry.status = .succeeded := by
  have setup : state.setup.isPassed = true ↔
      state.handedTo none = graph.setup.map Task.statement ∧
        Pass graph.setup (answersTo none moves) := by
    constructor
    · exact setup_pass_of_trace run
    · rintro ⟨_, pass⟩
      have past := isOver_of_isIdle (idle_of_closed run present closed).1
      exact (setupAccounts_of_trace run).isPassed_of_pass past pass
  have sound : state.fatal.isNone = true ↔ ¬ Lossy moves := by
    rw [← fatal_iff_lossy run closed]
    simp
  simp only [State.report, Bool.and_eq_true, List.all_eq_true, beq_iff_eq, setup, sound, and_assoc]

theorem tells_of_closed (run : Trace graph moves state)
    (present : ∀ message, state.setup ≠ .lost message) (closed : state.closed = true) :
    Tells graph moves state state.report := by
  have final : ∀ entry ∈ state.report.nodes, entry.status.Final := by
    intro entry member
    obtain ⟨position, node, past⟩ := exists_cell_of_entry run present closed member
    exact (recorded_of_trace run position node _ past).final
  have names := names_of_closed run present closed
  constructor
  · exact names
  · exact final
  · apply RunSummary.total_ofStatuses
    intro status member
    obtain ⟨entry, listed, rfl⟩ := List.mem_map.mp member
    exact final entry listed
  · have size := congrArg List.length names
    simpa [Report.summary, RunSummary.ofStatuses] using size
  · intro entry member skipped
    obtain ⟨position, node, past⟩ := exists_cell_of_entry run present closed member
    exact (recorded_of_trace run position node _ past).tasks_of_skipped skipped
  · exact (setupAccounts_of_trace run).prefix_of_results
  · exact fatal_iff_lossy run closed
  · exact ok_iff run present closed
  · intro position node entry known stored well
    obtain ⟨report, past⟩ := exists_report_of_closed run present closed known
    rw [nodes_report_of_finished past, Option.some.injEq] at stored
    subst stored
    exact (recorded_of_trace run position node _ past).pass_of_succeeded well

end Tells

-- Which moves come next is left open here, and so are the answers; neither can keep a run going.
theorem report_of_run (graph : ExecutionGraph) :
    (∀ states : Nat → State, states 0 = start graph →
      ¬ ∀ time, ∃ move, (states time).move? move = some (states (time + 1))) ∧
    ∀ (moves : List Move) (state : State), Trace graph moves state →
      (∀ script, Follows script moves → ∃ rest ending, .cancel ∉ rest ∧
        Trace graph (moves ++ rest) ending ∧ Follows script (moves ++ rest) ∧
          ending.closed = true) ∧
      (state.closed = true →
        ((∃ report, state.result = .ok report) ↔
          ∀ message, .panic message ∉ answersTo none moves)) ∧
      ∀ report, state.closed = true → state.result = .ok report →
        Tells graph moves state report := by
  refine ⟨fun states _ => not_endless states, ?_⟩
  intro moves state run
  have reported : (∃ report, state.result = .ok report) ↔
      ∀ message, state.setup ≠ .lost message := by
    constructor
    · rintro ⟨report, told⟩ message lost
      rw [State.result, lost] at told
      cases told
    · intro present
      exact ⟨_, result_of_present present⟩
  refine ⟨fun script follows => follows.exists_end run, ?_, ?_⟩
  · intro closed
    exact reported.trans (present_iff run)
  · intro report closed told
    have present := reported.mp ⟨report, told⟩
    rw [result_of_present present] at told
    cases told
    exact tells_of_closed run present closed

-- Two nodes of one name, one that waits for them, and one that waits for itself.
def tangle : ExecutionGraph where
  config := .standard
  runConfig := .standard
  warehouse := .duckdb
  setup := [.plain "create schema"]
  nodes :=
    [⟨⟨"twin", by decide⟩, .operation, none, ["twin"], [], [.plain "insert"], .pending⟩,
      ⟨⟨"twin", by decide⟩, .operation, none, ["nobody"], [], [.plain "create table"], .pending⟩,
      ⟨⟨"after", by decide⟩, .operation, none, ["twin"], [], [.plain "select"], .pending⟩,
      ⟨⟨"ring", by decide⟩, .operation, none, ["ring"], [], [.plain "select"], .pending⟩]

-- The second twin fails, which the nodes that wait for it are told; the last one is given up.
def tangleMoves : List Move :=
  [.issueSetup, .replySetup (.rows Rows.empty), .issueSetup, .take, .act, .start 1, .issue 1,
    .reply 1 (.error (.execution "no such table")), .collect 1, .take, .act, .take, .act,
    .resolve, .act, .close]

example :
    ((start tangle).moves? tangleMoves).map (fun state => state.report.summary) =
      some ⟨4, 0, 1, 0, 3⟩ := by decide

theorem tangle_report :
    ∃ state report, Trace tangle tangleMoves state ∧ state.closed = true ∧
      state.result = .ok report ∧ Tells tangle tangleMoves state report := by
  obtain ⟨state, reached⟩ := Option.isSome_iff_exists.mp
    (show ((start tangle).moves? tangleMoves).isSome = true by decide)
  have closed : state.closed = true := by
    cases reached
    rfl
  have run := trace_of_moves? reached
  obtain ⟨_, told, tells⟩ := (report_of_run tangle).2 tangleMoves state run
  obtain ⟨report, told⟩ := (told closed).mpr (by simp [answersTo, tangleMoves, Move.answerTo?])
  exact ⟨state, report, run, closed, told, tells report closed told⟩

-- Nobody catches a panic in the setup; it takes the coordinator along, and with it the report.
theorem no_report_of_setup_panic :
    ¬ ∀ (graph : ExecutionGraph) (moves : List Move) (state : State), Trace graph moves state →
      state.closed = true → ∃ report, state.result = .ok report := by
  intro always
  have reached : (start tangle).moves? [.issueSetup, .replySetup (.panic none)] =
      some { start tangle with
        setup := .lost none, handovers := [⟨none, "create schema"⟩], closed := true } := by decide
  obtain ⟨report, told⟩ := always tangle _ _ (trace_of_moves? reached) rfl
  cases told

end Run
end SqlPipeline
