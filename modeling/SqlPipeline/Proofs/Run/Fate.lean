import SqlPipeline.Proofs.Run.Handover
import SqlPipeline.Proofs.Run.Plan

/-!
The fates of nodes. Which nodes succeed, fail or are skipped in a planned run is settled by the
graph and the plan, before the run and without regard to the order of its moves: the nodes that
succeed are the least set closed under having all dependencies in it and all tasks pass.
-/

namespace SqlPipeline
namespace ExecutionGraph

inductive Succeeds (graph : ExecutionGraph) (passes : Nat → Nat → Bool) : Nat → Prop where
  | node {position : Nat} {node : ExecutionNode} (known : graph.nodes[position]? = some node)
      (dependencies : ∀ dependency, graph.DependsOn position dependency →
        Succeeds graph passes dependency)
      (tasks : ∀ index < node.tasks.length, passes position index = true) :
      Succeeds graph passes position

/-- The node gets its turn, and one of its tasks does not pass. -/
def Fails (graph : ExecutionGraph) (passes : Nat → Nat → Bool) (position : Nat) : Prop :=
  ∃ node, graph.nodes[position]? = some node ∧
    (∀ dependency, graph.DependsOn position dependency → graph.Succeeds passes dependency) ∧
    ∃ index < node.tasks.length, passes position index = false

open Classical in
noncomputable def fate (graph : ExecutionGraph) (passes : Nat → Nat → Bool) (position : Nat) :
    NodeStatus :=
  if graph.Succeeds passes position then .succeeded
  else if graph.Fails passes position then .failed
  else .skipped

section Fates
variable {graph : ExecutionGraph} {passes : Nat → Nat → Bool} {position : Nat}

theorem Fails.not_succeeds (fails : graph.Fails passes position) :
    ¬ graph.Succeeds passes position := by
  obtain ⟨node, known, _, index, inside, stops⟩ := fails
  rintro ⟨same, _, tasks⟩
  rw [known, Option.some.injEq] at same
  subst same
  rw [tasks index inside] at stops
  cases stops

theorem fate_of_succeeds (succeeds : graph.Succeeds passes position) :
    graph.fate passes position = .succeeded := if_pos succeeds

theorem fate_of_fails (fails : graph.Fails passes position) :
    graph.fate passes position = .failed := by
  rw [fate, if_neg fails.not_succeeds, if_pos fails]

theorem succeeds_of_fate (fate : graph.fate passes position = .succeeded) :
    graph.Succeeds passes position := by
  by_contra ill
  rw [ExecutionGraph.fate, if_neg ill] at fate
  split at fate <;> cases fate

-- One dependency that does not succeed is enough, whatever its own fate is.
theorem fate_of_stuck {dependency : Nat} (depends : graph.DependsOn position dependency)
    (ill : ¬ graph.Succeeds passes dependency) : graph.fate passes position = .skipped := by
  have stuck : ¬ graph.Succeeds passes position := by
    rintro ⟨_, dependencies, _⟩
    exact ill (dependencies dependency depends)
  have turnless : ¬ graph.Fails passes position := by
    rintro ⟨_, _, dependencies, _⟩
    exact ill (dependencies dependency depends)
  rw [fate, if_neg stuck, if_neg turnless]

end Fates
end ExecutionGraph

namespace Run

section Ends
variable {graph : ExecutionGraph} {passes : Nat → Nat → Bool} {moves : List Move} {state : State}
  {position : Nat} {node : ExecutionNode}

theorem passes_of_pass (planned : Planned graph passes moves)
    (known : graph.nodes[position]? = some node) {before rest : List Task} {outcomes : List Outcome}
    (tasks : node.tasks = before ++ rest) (pass : Pass before outcomes)
    (answers : answersTo (some position) moves = outcomes) :
    ∀ index < before.length, passes position index = true := by
  intro index inside
  have within : index < outcomes.length := pass.length_eq ▸ inside
  have listed : node.tasks[index]? = some before[index] := by
    rw [tasks, List.getElem?_append_left inside, List.getElem?_eq_getElem inside]
  have found : (answersTo (some position) moves)[index]? = some outcomes[index] := by
    rw [answers, List.getElem?_eq_getElem within]
  have meets := planned.nodes position node index _ _ known listed found
  have passed : Verdict.judge before[index].kind outcomes[index] = .passed :=
    pass.get inside within
  rw [passed] at meets
  by_contra stops
  rw [eq_false_of_ne_true stops] at meets
  cases meets

theorem stops_of_judged (planned : Planned graph passes moves)
    (known : graph.nodes[position]? = some node) {before rest : List Task} {task : Task}
    {outcomes : List Outcome} {outcome : Outcome} (tasks : node.tasks = before ++ task :: rest)
    (pass : Pass before outcomes)
    (answers : answersTo (some position) moves = outcomes ++ [outcome])
    (fails : Verdict.judge task.kind outcome ≠ .passed) :
    passes position before.length = false := by
  have listed := next_of_split tasks
  have found : (answersTo (some position) moves)[before.length]? = some outcome := by
    rw [answers, pass.length_eq, List.getElem?_concat_length]
  have meets := planned.nodes position node _ task outcome known listed found
  apply eq_false_of_ne_true
  intro passed
  rw [passed] at meets
  exact fails meets

theorem Calm.fate_of_ended (calm : Calm state) (run : Trace graph moves state)
    (planned : Planned graph passes moves) {report : NodeReport} {fatal : Option String}
    (found : state.cells[position]? = some ⟨node, .ended report fatal⟩)
    (dependencies : ∀ dependency, graph.DependsOn position dependency →
      graph.Succeeds passes dependency) :
    report.status = graph.fate passes position := by
  have known := known_of_found (nodes_of_trace run) found
  have uncancelled : report.status ≠ .cancelled := (calm.nodes _ (List.mem_of_getElem? found)).2
  have accounts := recorded_of_trace run position node _ found
  generalize answers : answersTo (some position) moves = outcomes at accounts
  generalize state.handedTo (some position) = handed at accounts
  cases accounts with
  | ended ends =>
    cases ends with
    | whole pass =>
      have tasks := passes_of_pass planned known (List.append_nil _).symm pass answers
      rw [ExecutionGraph.fate_of_succeeds ⟨known, dependencies, tasks⟩]
    | halted => exact absurd rfl uncancelled
    | @judged before task rest _ outcome _ _ tasks pass verdict =>
      obtain ⟨fails, status⟩ := not_passed_of_judged verdict
      have stops := stops_of_judged planned known tasks pass answers fails
      have inside : before.length < node.tasks.length := by simp [tasks]
      have failed := status.resolve_right uncancelled
      rw [failed, ExecutionGraph.fate_of_fails ⟨node, known, dependencies, _, inside, stops⟩]

end Ends

/-! ## The statuses of finished nodes -/

def Fated (graph : ExecutionGraph) (passes : Nat → Nat → Bool) (state : State) : Prop :=
  ∀ position report, state.progress? position = some (.finished report) →
    report.status = graph.fate passes position

section Steps
variable {graph : ExecutionGraph} {passes : Nat → Nat → Bool} {state next : State}

theorem Fated.keep (fated : Fated graph passes state) (cells : next.cells = state.cells) :
    Fated graph passes next := by
  intro position report past
  rw [State.progress?, cells] at past
  exact fated position report past

theorem Fated.update (fated : Fated graph passes state) {position : Nat} {progress : Progress}
    (cells : next.cells = (state.setProgress position progress).cells)
    (own : ∀ report, progress = .finished report → report.status = graph.fate passes position) :
    Fated graph passes next := by
  intro other report past
  rw [progress?_of_cells cells] at past
  split at past
  · rename_i same
    subst same
    obtain ⟨_, _, finished⟩ := Option.map_eq_some_iff.mp past
    exact own report finished
  · exact fated other report past

theorem Fated.succeeds (fated : Fated graph passes state) {position : Nat}
    (well : state.Succeeded position) : graph.Succeeds passes position := by
  obtain ⟨report, past, status⟩ := well
  exact ExecutionGraph.succeeds_of_fate (status ▸ (fated position report past).symm)

-- By induction on what succeeds: its dependencies were counted, so it cannot have got stuck.
theorem Tracked.counted_of_succeeds {done : List Nat} (tracked : Tracked graph done state)
    (distinct : graph.nodeNames.Nodup) (nodes : state.cells.map Cell.node = graph.nodes)
    (idle : state.isIdle = true) (passed : state.setup.isPassed = true) {position : Nat}
    (succeeds : graph.Succeeds passes position) : position ∈ done := by
  induction succeeds with
  | node known dependencies tasks ih =>
    by_contra absent
    have inside := (List.getElem?_eq_some_iff.mp known).1
    obtain ⟨dependency, needs, uncounted⟩ := tracked.stuck nodes idle passed inside absent
    exact uncounted (ih dependency ((needs_iff_dependsOn distinct _ dependency).mp needs))

theorem Fated.fate_of_blocked (fated : Fated graph passes state) (distinct : graph.nodeNames.Nodup)
    (nodes : state.cells.map Cell.node = graph.nodes) {position : Nat} {node : ExecutionNode}
    (found : state.cells[position]? = some ⟨node, .waiting⟩)
    (blocked : state.isBlocked node = true) : graph.fate passes position = .skipped := by
  obtain ⟨dependency, report, needs, past, ill⟩ :=
    exists_of_blocked nodes (known_of_found nodes found) blocked
  apply ExecutionGraph.fate_of_stuck ((needs_iff_dependsOn distinct position dependency).mp needs)
  intro succeeds
  exact ill ((fated dependency report past).trans (ExecutionGraph.fate_of_succeeds succeeds))

theorem Tracked.fate_of_waiting {done : List Nat} (tracked : Tracked graph done state)
    (distinct : graph.nodeNames.Nodup) (nodes : state.cells.map Cell.node = graph.nodes)
    (idle : state.isIdle = true) (passed : state.setup.isPassed = true) {position : Nat}
    {node : ExecutionNode} (found : state.cells[position]? = some ⟨node, .waiting⟩) :
    graph.fate passes position = .skipped := by
  have absent : position ∉ done := by
    intro member
    obtain ⟨report, past⟩ := tracked.finished position member
    rw [state.progress?_of_getElem? found] at past
    cases past
  have inside := inside_of_progress? nodes (state.progress?_of_getElem? found)
  obtain ⟨dependency, needs, uncounted⟩ := tracked.stuck nodes idle passed inside absent
  apply ExecutionGraph.fate_of_stuck ((needs_iff_dependsOn distinct position dependency).mp needs)
  intro succeeds
  exact uncounted (tracked.counted_of_succeeds distinct nodes idle passed succeeds)

theorem Calm.isPassed (calm : Calm state) (past : state.setup.isOver = true) :
    state.setup.isPassed = true := by
  have good := calm.setup
  cases current : state.setup <;> simp_all [Setup.Calm, Setup.isOver, Setup.isPassed]

theorem fated_of_trace {moves : List Move} (distinct : graph.nodeNames.Nodup)
    (run : Trace graph moves state) (planned : Planned graph passes moves) :
    Fated graph passes state := by
  induction run with
  | start =>
    intro position report past
    simp [start, State.progress?] at past
  | move move run moved ih =>
    have fated := ih planned.before
    have calm := calm_of_trace run planned.before
    have calmNext := calm_of_trace (run.move move moved) planned
    have nodes := nodes_of_trace run
    obtain ⟨done, tracked⟩ := tracked_of_trace run
    cases step_of_move? moved with
    | cancelled | setupHanded | setupDone | setupPassed | setupLost | dropped | doomed | admitted
    | resolved | closed => exact fated.keep rfl
    | setupHalted | setupFailed => exact calmNext.setup.elim
    | refused meant queue found =>
      refine fated.update rfl ?_
      rintro _ ⟨rfl⟩
      rcases ((backed_of_trace run).reason meant queue found).2 with alarm | ⟨rfl, blocked⟩
      · simp [calm.aborted] at alarm
      · exact (fated.fate_of_blocked distinct nodes found blocked).symm
    | dispatched | started | succeeded | halted | handed =>
      refine fated.update rfl ?_
      intro report same
      cases same
    | replied =>
      refine fated.update rfl ?_
      intro report same
      exact absurd same ((moving_judged _ _ _ _ _).2 report)
    | @collected position node report fatal queue found =>
      refine fated.update rfl ?_
      rintro _ ⟨rfl⟩
      apply calm.fate_of_ended run planned.before found
      intro dependency depends
      have moving : Progress.Moving (.ended report fatal) := by simp [Progress.Moving]
      have ended := State.progress?_of_getElem? _ found
      exact fated.succeeds (ordered_of_trace run position _ ended (Or.inl moving)
        dependency ((needs_iff_dependsOn distinct position dependency).mpr depends))
    | gaveUp meant found =>
      refine fated.update rfl ?_
      rintro _ ⟨rfl⟩
      obtain ⟨idle, rests⟩ := (backed_of_trace run).idle meant
      have passed := calm.isPassed (isOver_of_isIdle idle)
      rw [tracked.fate_of_waiting distinct nodes idle passed found]
      exact rests.skipped calm.silent

end Steps

/-! ## The report -/

theorem finished_of_closed {graph : ExecutionGraph} {moves : List Move} {state : State}
    (run : Trace graph moves state) (calm : Calm state) (closed : state.closed = true) {cell : Cell}
    (member : cell ∈ state.cells) : ∃ report, cell.progress = .finished report :=
  settled_of_closed run calm.present closed member

theorem Accounts.quiet_of_skipped {node : ExecutionNode} {report : NodeReport}
    {handed : List String} {outcomes : List Outcome}
    (accounts : Accounts node (.finished report) handed outcomes)
    (skipped : report.status = .skipped) : handed = [] := by
  cases accounts with
  | notRun => rfl
  | collected ends =>
    cases ends with
    | whole | halted => cases skipped
    | judged _ _ verdict =>
      have ill := (not_passed_of_judged verdict).2
      simp [skipped] at ill

theorem fates_of_planned_run {graph : ExecutionGraph} {passes : Nat → Nat → Bool}
    (distinct : graph.nodeNames.Nodup) {moves : List Move} {state : State}
    (run : Trace graph moves state) (planned : Planned graph passes moves) :
    (∃ rest ending, Trace graph (moves ++ rest) ending ∧ Planned graph passes (moves ++ rest) ∧
      ending.closed = true) ∧
    (state.closed = true →
      state.result = .ok state.report ∧
      state.report.nodes.map NodeReport.status =
        (List.range graph.nodes.length).map (graph.fate passes) ∧
      ∀ position < graph.nodes.length, graph.fate passes position = .skipped →
        state.handedTo (some position) = []) := by
  refine ⟨planned.exists_end run, ?_⟩
  intro closed
  have calm := calm_of_trace run planned
  have fated := fated_of_trace distinct run planned
  have size : state.cells.length = graph.nodes.length := by
    rw [← nodes_of_trace run, List.length_map]
  have finished : ∀ position, position < state.cells.length →
      ∃ node report, state.cells[position]? = some ⟨node, .finished report⟩ := by
    intro position inside
    have found : ∃ cell, state.cells[position]? = some cell :=
      ⟨_, List.getElem?_eq_getElem inside⟩
    obtain ⟨⟨node, progress⟩, found⟩ := found
    obtain ⟨report, past⟩ := finished_of_closed run calm closed (List.mem_of_getElem? found)
    exact ⟨node, report, found.trans (congrArg some (congrArg (Cell.mk node) past))⟩
  refine ⟨?_, ?_, ?_⟩
  · have good := calm.setup
    unfold State.result
    split
    · rename_i lost
      simp [lost, Setup.Calm] at good
    · rfl
  · apply List.ext_getElem
    · simp [State.report, size]
    intro position inside _
    obtain ⟨node, report, past⟩ := finished position (by simpa [State.report] using inside)
    have status := fated position report (state.progress?_of_getElem? past)
    have cell := (List.getElem?_eq_some_iff.mp past).2
    simpa [State.report, Cell.report, Cell.report?, cell] using status
  · intro position inside skipped
    obtain ⟨node, report, past⟩ := finished position (size ▸ inside)
    have status := fated position report (state.progress?_of_getElem? past)
    exact (recorded_of_trace run position node _ past).quiet_of_skipped (status.trans skipped)

-- The two nodes of a pair, and one that waits for itself.
def knot : ExecutionGraph :=
  { pair with
    nodes := pair.nodes ++
      [⟨⟨"loop", by decide⟩, .operation, none, ["loop"], [], [.plain "select"], .pending⟩] }

-- A whole run in which the node that the other one of the pair waits for fails.
def knotMoves : List Move :=
  [.issueSetup, .replySetup (.rows Rows.empty), .issueSetup, .take, .act, .start 1, .issue 1,
    .reply 1 (.error (.execution "no such table")), .collect 1, .take, .act, .resolve, .act, .close]

example :
    ((start knot).moves? knotMoves).map (fun state => state.report.nodes.map NodeReport.status) =
      some [.skipped, .failed, .skipped] := by decide

theorem knot_planned : Planned knot (fun position _ => position == 0) knotMoves := by
  have answers : ∀ position outcome, outcome ∈ answersTo (some position) knotMoves →
      position = 1 ∧ outcome = .error (.execution "no such table") := by
    intro position outcome member
    simpa [answersTo, knotMoves, Move.answerTo?, eq_comm] using member
  constructor
  · simp [knotMoves]
  · intro index task outcome known found
    have member := List.mem_of_getElem? found
    have same : outcome = .rows Rows.empty := by
      simpa [answersTo, knotMoves, Move.answerTo?, eq_comm] using member
    subst same
    cases task.kind <;> rfl
  · intro position node index task outcome known listed found
    obtain ⟨rfl, rfl⟩ := answers position outcome (List.mem_of_getElem? found)
    rfl

theorem knot_fates :
    ∃ state, Trace knot knotMoves state ∧ state.closed = true ∧
      state.result = .ok state.report ∧
      state.report.nodes.map NodeReport.status =
        (List.range 3).map (knot.fate fun position _ => position == 0) ∧
      ∀ position < 3, (knot.fate fun position _ => position == 0) position = .skipped →
        state.handedTo (some position) = [] := by
  obtain ⟨state, reached⟩ := Option.isSome_iff_exists.mp
    (show ((start knot).moves? knotMoves).isSome = true by decide)
  have closed : state.closed = true := by
    cases reached
    rfl
  have run := trace_of_moves? reached
  exact ⟨state, run, closed, (fates_of_planned_run (by decide) run knot_planned).2 closed⟩

end Run
end SqlPipeline
