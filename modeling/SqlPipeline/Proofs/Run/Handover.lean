import SqlPipeline.Proofs.Run.Precedence
import SqlPipeline.Run.Schedule

/-!
Handing over. At the moment at which a statement of a node goes to the database, the setup and
everything the node depends on are done: every statement of theirs was handed over before, and the
answers to all of them have passed.
-/

namespace SqlPipeline

/-- One node lists the name of another one. -/
def ExecutionGraph.DependsOn (graph : ExecutionGraph) (dependent dependency : Nat) : Prop :=
  ∃ node other, graph.nodes[dependent]? = some node ∧ graph.nodes[dependency]? = some other ∧
    other.name.text ∈ node.dependencies

theorem ExecutionGraph.nodeNames_of_known {graph : ExecutionGraph} {position : Nat}
    {node : ExecutionNode} (known : graph.nodes[position]? = some node) :
    graph.nodeNames[position]? = some node.name.text := by
  rw [nodeNames, List.getElem?_map, known, Option.map_some]

namespace Run

theorem needs_iff_dependsOn {graph : ExecutionGraph} (distinct : graph.nodeNames.Nodup)
    (dependent dependency : Nat) :
    graph.Needs dependent dependency ↔ graph.DependsOn dependent dependency := by
  constructor
  · rintro ⟨node, known, name, member, found⟩
    have named := Readiness.getElem?_of_position? found
    rw [ExecutionGraph.nodeNames, List.getElem?_map] at named
    obtain ⟨other, stored, rfl⟩ := Option.map_eq_some_iff.mp named
    exact ⟨node, other, known, stored, member⟩
  · rintro ⟨node, other, known, stored, member⟩
    have named := ExecutionGraph.nodeNames_of_known stored
    exact ⟨node, known, other.name.text, member,
      Readiness.position?_of_getElem? distinct named⟩

-- Only a node between two statements hands one over.
theorem running_of_handed {state next : State} {move : Move} (step : Step state move next)
    {position : Nat} {statement : String}
    (handed : next.handovers = state.handovers ++ [⟨some position, statement⟩]) :
    ∃ results rest, state.progress? position = some (.running results rest) := by
  cases step with
  | setupHanded =>
    have same := List.append_cancel_left handed
    simp at same
  | handed found =>
    have same := List.append_cancel_left handed
    simp only [List.cons.injEq, Handover.mk.injEq, Option.some.injEq] at same
    obtain ⟨⟨rfl, _⟩, _⟩ := same
    exact ⟨_, _, state.progress?_of_getElem? found⟩
  | cancelled | setupHalted | setupDone | setupPassed | setupFailed | setupLost | dropped | doomed
  | admitted | refused | dispatched | started | succeeded | halted | replied | collected | resolved
  | gaveUp | closed =>
    have longer := congrArg List.length handed
    simp [State.stopSetup, State.finish, State.giveUp, State.setProgress, State.emit] at longer

theorem State.Succeeded.pass {graph : ExecutionGraph} {moves : List Move} {state : State}
    (run : Trace graph moves state) {position : Nat} (well : state.Succeeded position)
    {node : ExecutionNode} (known : graph.nodes[position]? = some node) :
    state.handedTo (some position) = node.tasks.map Task.statement ∧
      Pass node.tasks (answersTo (some position) moves) := by
  obtain ⟨report, past, status⟩ := well
  obtain ⟨⟨other, progress⟩, stored, same⟩ := Option.map_eq_some_iff.mp past
  have same : progress = .finished report := same
  subst same
  rw [← nodes_of_trace run, List.getElem?_map, stored, Option.map_some, Option.some.injEq] at known
  have known : other = node := known
  subst known
  exact (recorded_of_trace run position other _ stored).pass_of_succeeded status

theorem passed_before_handover {graph : ExecutionGraph} (distinct : graph.nodeNames.Nodup)
    {moves : List Move} {state next : State} {move : Move} (run : Trace graph moves state)
    (moved : state.move? move = some next) {position : Nat} {statement : String}
    (handed : next.handovers = state.handovers ++ [⟨some position, statement⟩]) :
    state.handedTo none = graph.setup.map Task.statement ∧
      Pass graph.setup (answersTo none moves) ∧
      ∀ dependency node, graph.DependsOn position dependency →
        graph.nodes[dependency]? = some node →
        state.Succeeded dependency ∧
          state.handedTo (some dependency) = node.tasks.map Task.statement ∧
          Pass node.tasks (answersTo (some dependency) moves) := by
  -- The node is between two statements, so it was dispatched once.
  obtain ⟨results, rest, found⟩ := running_of_handed (step_of_move? moved) handed
  have moving : Progress.Moving (.running results rest) := by simp [Progress.Moving]
  obtain ⟨done, tracked⟩ := tracked_of_trace run
  have passed := (tracked.moving position _ found moving).1
  obtain ⟨setupHanded, setupPass⟩ := setup_pass_of_trace run passed
  refine ⟨setupHanded, setupPass, ?_⟩
  intro dependency node depends known
  have needs := (needs_iff_dependsOn distinct position dependency).mpr depends
  have well := ordered_of_trace run position _ found (Or.inl moving) dependency needs
  exact ⟨well, well.pass run known⟩

-- Two nodes, the first of which waits for the second.
def pair : ExecutionGraph where
  config := .standard
  runConfig := .standard
  warehouse := .duckdb
  setup := [.plain "create schema"]
  nodes :=
    [⟨⟨"late", by decide⟩, .operation, none, ["early"], [], [.plain "insert"], .pending⟩,
      ⟨⟨"early", by decide⟩, .operation, none, [], [], [.plain "create table"], .pending⟩]

-- The moves up to the only statement of the node that has waited.
def pairMoves : List Move :=
  [.issueSetup, .replySetup (.rows Rows.empty), .issueSetup, .take, .act, .start 1, .issue 1,
    .reply 1 (.rows Rows.empty), .issue 1, .collect 1, .take, .act, .start 0]

theorem pair_passed_before_handover :
    ∃ state next, Trace pair pairMoves state ∧ state.move? (.issue 0) = some next ∧
      next.handovers = state.handovers ++ [⟨some 0, "insert"⟩] ∧
      state.handedTo none = pair.setup.map Task.statement ∧
      Pass pair.setup (answersTo none pairMoves) ∧
      ∀ dependency node, pair.DependsOn 0 dependency → pair.nodes[dependency]? = some node →
        state.Succeeded dependency ∧
          state.handedTo (some dependency) = node.tasks.map Task.statement ∧
          Pass node.tasks (answersTo (some dependency) pairMoves) := by
  obtain ⟨state, reached⟩ := Option.isSome_iff_exists.mp
    (show ((start pair).moves? pairMoves).isSome = true by decide)
  have moved : state.move? (.issue 0) = some
      ((state.setProgress 0 (.inFlight [] (.plain "insert") [])).handOver (some 0) "insert") := by
    cases reached
    rfl
  have run := trace_of_moves? reached
  exact ⟨state, _, run, moved, rfl, passed_before_handover (by decide) run moved rfl⟩

/-! ## One thread -/

theorem Reachable.step? {graph : ExecutionGraph} {script : Script} {schedule after : Schedule}
    (reached : Reachable graph schedule.state) (step : schedule.step? script = some after) :
    Reachable graph after.state := by
  obtain ⟨moves, run⟩ := reached
  obtain ⟨next, moved, rfl⟩ := Option.map_eq_some_iff.mp step
  rw [Schedule.state_settle] at moved
  rw [Schedule.state_record]
  exact ⟨_, run.move _ moved⟩

theorem reachable_complete {graph : ExecutionGraph} (script : Script) (schedule : Schedule)
    (reached : Reachable graph schedule.state) :
    Reachable graph (schedule.complete script).state := by
  induction schedule using Schedule.complete.induct script with
  | case1 schedule after step ih =>
    rw [Schedule.complete]
    split
    · rename_i other same
      cases step.symm.trans same
      exact ih (reached.step? step)
    · rename_i none
      cases step.symm.trans none
  | case2 schedule stuck =>
    rw [Schedule.complete]
    split
    · rename_i other same
      cases stuck.symm.trans same
    · exact reached

-- So what holds of every run holds of the run of one thread.
theorem reachable_finalState (graph : ExecutionGraph) (script : Script) (cancelled : Bool) :
    Reachable graph (finalState graph script cancelled) := by
  apply reachable_complete
  cases cancelled with
  | false => exact ⟨[], Trace.start⟩
  | true => exact ⟨_, Trace.start.move .cancel rfl⟩

end Run
end SqlPipeline
