import SqlPipeline.Proofs.Run.Step

/-!
The phases of a run. As long as the setup is not over no node is touched and none is in the queue;
once the setup has passed it stays passed; and once nothing is left to run, that stays so until the
end. The nodes themselves are those of the graph all along.
-/

namespace SqlPipeline.Run

/-- Dispatched and not collected. -/
def Progress.Moving (progress : Progress) : Prop :=
  progress ≠ .waiting ∧ ∀ report, progress ≠ .finished report

theorem isBusy_iff (cell : Cell) : cell.isBusy = true ↔ cell.progress.Moving := by
  obtain ⟨node, progress⟩ := cell
  cases progress <;> simp [Cell.isBusy, Progress.Moving]

theorem moving_judged (cell : Cell) (results : List TaskResult) (task : Task) (rest : List Task)
    (verdict : Verdict) : (cell.judged results task rest verdict).Moving := by
  cases verdict <;> simp [Cell.judged, Cell.fail, Progress.Moving]

section Cells
variable {state : State} {position : Nat}

theorem nodes_finish (report : NodeReport) :
    (state.finish position report).cells.map Cell.node = state.cells.map Cell.node :=
  state.nodes_setProgress position (.finished report)

theorem not_busy_of_isIdle (idle : state.isIdle = true) {cell : Cell}
    (member : cell ∈ state.cells) : cell.isBusy = false := by
  simp only [State.isIdle, Bool.and_eq_true, Bool.not_eq_true', List.any_eq_false] at idle
  simpa using idle.2 cell member

theorem ready_of_isIdle (idle : state.isIdle = true) : state.ready = [] := by
  simp only [State.isIdle, Bool.and_eq_true, List.isEmpty_iff] at idle
  exact idle.1.2

theorem isOver_of_isIdle (idle : state.isIdle = true) : state.setup.isOver = true := by
  simp only [State.isIdle, Bool.and_eq_true] at idle
  exact idle.1.1

theorem isIdle_of_cells {state : State} (past : state.setup.isOver = true)
    (empty : state.ready = []) (free : ∀ cell ∈ state.cells, cell.isBusy = false) :
    state.isIdle = true := by
  simp only [State.isIdle, past, empty, List.isEmpty_nil, Bool.and_self, Bool.true_and,
    Bool.not_eq_true', List.any_eq_false]
  intro cell member
  simp [free cell member]

end Cells

theorem nodes_of_trace {graph : ExecutionGraph} {moves : List Move} {state : State}
    (run : Trace graph moves state) : state.cells.map Cell.node = graph.nodes := by
  induction run with
  | start => simp [start, Function.comp_def]
  | move move _ moved ih =>
    cases step_of_move? moved with
    | cancelled | setupHalted | setupHanded | setupDone | setupPassed | setupFailed | setupLost
    | dropped | doomed | admitted | resolved | closed => exact ih
    | refused | collected => exact (nodes_finish _).trans ih
    | dispatched | started | succeeded | halted | handed | replied | gaveUp =>
      exact (State.nodes_setProgress _ _ _).trans ih

theorem known_of_found {graph : ExecutionGraph} {state : State}
    (nodes : state.cells.map Cell.node = graph.nodes) {position : Nat} {cell : Cell}
    (found : state.cells[position]? = some cell) : graph.nodes[position]? = some cell.node := by
  rw [← nodes, List.getElem?_map, found, Option.map_some]

theorem found_of_known {graph : ExecutionGraph} {state : State}
    (nodes : state.cells.map Cell.node = graph.nodes) {position : Nat} {node : ExecutionNode}
    (known : graph.nodes[position]? = some node) :
    ∃ progress, state.cells[position]? = some ⟨node, progress⟩ := by
  rw [← nodes, List.getElem?_map] at known
  obtain ⟨⟨_, progress⟩, found, rfl⟩ := Option.map_eq_some_iff.mp known
  exact ⟨progress, found⟩

theorem inside_of_progress? {graph : ExecutionGraph} {state : State}
    (nodes : state.cells.map Cell.node = graph.nodes) {position : Nat} {progress : Progress}
    (found : state.progress? position = some progress) : position < graph.nodes.length := by
  obtain ⟨cell, stored, _⟩ := Option.map_eq_some_iff.mp found
  exact (List.getElem?_eq_some_iff.mp (known_of_found nodes stored)).1

/-- While the setup goes on, all nodes wait outside the queue, and the coordinator means none. -/
structure Untouched (state : State) : Prop where
  ready : state.ready = []
  waits : ∀ cell ∈ state.cells, cell.progress = .waiting
  intent : state.intent = none

theorem Untouched.not_found {state : State} (untouched : Untouched state) {position : Nat}
    {node : ExecutionNode} {progress : Progress} (other : progress ≠ .waiting) :
    state.cells[position]? ≠ some ⟨node, progress⟩ := by
  intro found
  exact other (untouched.waits _ (List.mem_of_getElem? found))

theorem Untouched.waiting {state : State} (untouched : Untouched state) {position : Nat}
    {progress : Progress} (found : state.progress? position = some progress) :
    progress = .waiting := by
  obtain ⟨cell, stored, rfl⟩ := Option.map_eq_some_iff.mp found
  exact untouched.waits cell (List.mem_of_getElem? stored)

theorem untouched_of_trace {graph : ExecutionGraph} {moves : List Move} {state : State}
    (run : Trace graph moves state) (going : state.setup.isOver = false) : Untouched state := by
  induction run with
  | start => exact ⟨rfl, by simp [start], rfl⟩
  | move move _ moved ih =>
    cases step_of_move? moved with
    | cancelled =>
      have untouched := ih going
      exact ⟨untouched.ready, untouched.waits, untouched.intent⟩
    | setupHalted | setupFailed | setupDone => simp [State.stopSetup, Setup.isOver] at going
    | setupHanded current | setupPassed current | setupLost current =>
      have untouched := ih (by simp [current, Setup.isOver])
      exact ⟨untouched.ready, untouched.waits, untouched.intent⟩
    | dropped _ queue | doomed _ queue | admitted _ queue =>
      rw [(ih going).ready] at queue
      cases queue
    | refused meant | dispatched meant =>
      rw [(ih going).intent] at meant
      cases meant
    | gaveUp meant => simp [(ih going).intent] at meant
    | started found | succeeded found | halted found | handed found | replied found =>
      exact absurd found ((ih going).not_found (by simp))
    | collected _ found => exact absurd found ((ih going).not_found (by simp))
    | resolved _ idle | closed idle =>
      have past := isOver_of_isIdle idle
      exact absurd past (ne_true_of_eq_false going)

section Idle
variable {state : State} {position : Nat}

theorem isIdle_giveUp (name : ActionName) (status : NodeStatus) (idle : state.isIdle = true) :
    (state.giveUp position name status).isIdle = true := by
  have past := isOver_of_isIdle idle
  have empty := ready_of_isIdle idle
  apply isIdle_of_cells
  · exact past
  · exact empty
  intro cell member
  have member : cell ∈
      (state.setProgress position (.finished (.notRun name status))).cells := member
  rcases state.mem_setProgress member with old | same
  · exact not_busy_of_isIdle idle old
  · obtain ⟨node, progress⟩ := cell
    have same : progress = .finished (.notRun name status) := same
    subst same
    rfl

end Idle
end SqlPipeline.Run
