import SqlPipeline.Proofs.Run.Abort
import SqlPipeline.Proofs.Run.Fate
import SqlPipeline.Proofs.Run.Report

/-!
Runs on a database that accepts everything. Where dependencies stand before their dependents, such a
run comes to a report in which every node has succeeded, and by then every statement of the graph
was handed over once, in an order that the setup and the dependencies allow.
-/

namespace SqlPipeline

/-- A statement is accepted with any rows; where they are asked for a count, they count nothing. -/
def Outcome.Accepts (outcome : Outcome) (kind : TaskKind) : Prop :=
  ∃ result, outcome = .rows result ∧ (kind = .assertion → result.offending = .ok 0)

theorem Outcome.Accepts.passed {outcome : Outcome} {kind : TaskKind}
    (accepts : outcome.Accepts kind) : Verdict.judge kind outcome = .passed := by
  obtain ⟨result, rfl, counts⟩ := accepts
  cases kind with
  | statement => rfl
  | assertion => simp [Verdict.judge, Verdict.ofRows, counts rfl]

namespace Run

/-- The script of a database that accepts every statement of a graph. -/
structure Accepting (graph : ExecutionGraph) (script : Option Nat → Nat → Outcome) : Prop where
  setup : ∀ (index : Nat) (task : Task), graph.setup[index]? = some task →
    (script none index).Accepts task.kind
  nodes : ∀ (position : Nat) (node : ExecutionNode) (index : Nat) (task : Task),
    graph.nodes[position]? = some node → node.tasks[index]? = some task →
      (script (some position) index).Accepts task.kind

/-- Every statement of a graph was handed over, once and in its turn. -/
structure HandsOver (graph : ExecutionGraph) (state : State) : Prop where
  setup : state.handedTo none = graph.setup.map Task.statement
  nodes : ∀ position node, graph.nodes[position]? = some node →
    state.handedTo (some position) = node.tasks.map Task.statement
  inside : ∀ handover ∈ state.handovers, ∀ position, handover.node = some position →
    position < graph.nodes.length
  order : state.handovers.Pairwise fun first second => ¬ graph.Precedes second.node first.node

/-- What stands at the end of a run in which everything went well. -/
structure Fulfils (graph : ExecutionGraph) (state : State) : Prop where
  conclusion : state.conclusion = .ok state.report
  ok : state.report.ok = true
  names : state.report.nodes.map NodeReport.name = graph.nodes.map ExecutionNode.name
  succeeded : ∀ entry ∈ state.report.nodes, entry.status = .succeeded
  handed : HandsOver graph state

section Accepted
variable {graph : ExecutionGraph} {script : Option Nat → Nat → Outcome} {moves : List Move}
  {state : State}

theorem Accepting.planned (accepting : Accepting graph script) (follows : Follows script moves)
    (calm : .cancel ∉ moves) : Planned graph (fun _ _ => true) moves := by
  refine ⟨calm, ?_, ?_⟩
  · intro index task outcome known found
    rw [follows none index outcome found]
    exact (accepting.setup index task known).passed
  · intro position node index task outcome known listed found
    rw [follows (some position) index outcome found]
    exact (accepting.nodes position node index task known listed).passed

-- By induction on the position, since whatever a node depends on stands before it.
theorem succeeds_of_first
    (first : ∀ dependent dependency, graph.DependsOn dependent dependency → dependency < dependent)
    {position : Nat} (inside : position < graph.nodes.length) :
    graph.Succeeds (fun _ _ => true) position := by
  induction position using Nat.strongRecOn with
  | ind position ih =>
    refine .node (List.getElem?_eq_getElem inside) ?_ fun _ _ => rfl
    intro dependency depends
    have before := first position dependency depends
    exact ih dependency before (Nat.lt_trans before inside)

section Closed
variable (distinct : graph.nodeNames.Nodup)
  (first : ∀ dependent dependency, graph.DependsOn dependent dependency → dependency < dependent)
  (run : Trace graph moves state) (planned : Planned graph (fun _ _ => true) moves)
  (closed : state.closed = true)
include distinct first run planned

theorem status_of_planned {position : Nat} {node : ExecutionNode} {report : NodeReport}
    (past : state.cells[position]? = some ⟨node, .finished report⟩) :
    report.status = .succeeded := by
  have found := state.progress?_of_getElem? past
  rw [fated_of_trace distinct run planned position report found]
  exact ExecutionGraph.fate_of_succeeds
    (succeeds_of_first first (inside_of_progress? (nodes_of_trace run) found))

include closed

theorem handsOver_of_planned : HandsOver graph state := by
  have calm := calm_of_trace run planned
  constructor
  · have past := isOver_of_isIdle (idle_of_closed run calm.present closed).1
    exact (setup_pass_of_trace run (calm.isPassed past)).1
  · intro position node known
    obtain ⟨report, past⟩ := exists_report_of_closed run calm.present closed known
    have well := status_of_planned distinct first run planned past
    exact ((recorded_of_trace run position node _ past).pass_of_succeeded well).1
  · intro handover member position owner
    exact inside_of_handed run member owner
  · exact inOrder_of_trace distinct run

theorem fulfils_of_planned : Fulfils graph state := by
  have calm := calm_of_trace run planned
  have succeeded : ∀ entry ∈ state.report.nodes, entry.status = .succeeded := by
    intro entry member
    obtain ⟨position, node, past⟩ := exists_cell_of_entry run calm.present closed member
    exact status_of_planned distinct first run planned past
  constructor
  · exact conclusion_of_sound calm.sound calm.present
  · have past := isOver_of_isIdle (idle_of_closed run calm.present closed).1
    have all : (state.report.nodes.all fun entry => entry.status == .succeeded) = true := by
      simpa using succeeded
    simp only [State.report] at all ⊢
    simp [calm.isPassed past, calm.sound, all]
  · exact names_of_closed run calm.present closed
  · exact succeeded
  · exact handsOver_of_planned distinct first run planned closed

end Closed
end Accepted
end Run
end SqlPipeline
