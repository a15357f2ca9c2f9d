import SqlPipeline.Proofs.Run.Ending

/-!
Planned runs. Which tasks pass is fixed before the run, and nobody cancels. Nothing alarms such a
run: no node ends as cancelled and the setup comes to no bad end. Nor does it get stuck: until the
report is put together some move is possible that the plan allows, so every planned run can be
brought to its end.
-/

namespace SqlPipeline

-- A node fails on either, and other nodes are told only of that.
def Verdict.isFailure : Verdict → Bool
  | .failed _ | .panicked _ => true
  | .passed | .cancelled _ | .fatal _ => false

def Verdict.Meets (verdict : Verdict) (pass : Bool) : Prop :=
  if pass then verdict = .passed else verdict.isFailure = true

namespace Run

/-- Nobody cancels, the setup passes, and every task of a node passes or fails as it was fixed for
the position of the node and the place of the task in it. -/
structure Planned (graph : ExecutionGraph) (passes : Nat → Nat → Bool) (moves : List Move) :
    Prop where
  silent : .cancel ∉ moves
  setup : ∀ (index : Nat) (task : Task) (outcome : Outcome), graph.setup[index]? = some task →
    (answersTo none moves)[index]? = some outcome → Verdict.judge task.kind outcome = .passed
  nodes : ∀ (position : Nat) (node : ExecutionNode) (index : Nat) (task : Task)
    (outcome : Outcome), graph.nodes[position]? = some node → node.tasks[index]? = some task →
    (answersTo (some position) moves)[index]? = some outcome →
      (Verdict.judge task.kind outcome).Meets (passes position index)

section Answers
variable {graph : ExecutionGraph} {passes : Nat → Nat → Bool} {moves : List Move} {state : State}

theorem Planned.before {move : Move} (planned : Planned graph passes (moves ++ [move])) :
    Planned graph passes moves := by
  constructor
  · intro member
    exact planned.silent (List.mem_append_left _ member)
  · intro index task outcome known found
    exact planned.setup index task outcome known (answersTo_of_before none move found)
  · intro position node index task outcome known listed found
    exact planned.nodes position node index task outcome known listed
      (answersTo_of_before (some position) move found)

theorem Planned.quiet {move : Move} (planned : Planned graph passes moves) (other : move ≠ .cancel)
    (silent : ∀ owner, move.answerTo? owner = none) : Planned graph passes (moves ++ [move]) := by
  have same : ∀ owner, answersTo owner (moves ++ [move]) = answersTo owner moves := by
    intro owner
    rw [answersTo_append, silent, Option.toList_none, List.append_nil]
  constructor
  · intro member
    rcases List.mem_append.mp member with earlier | last
    · exact planned.silent earlier
    · exact other (List.mem_singleton.mp last).symm
  · simpa only [same] using planned.setup
  · simpa only [same] using planned.nodes

-- The answers so far are exactly those to the tasks that stand before the one with the database.
theorem inFlight_of_trace (run : Trace graph moves state) {position : Nat} {node : ExecutionNode}
    {results : List TaskResult} {task : Task} {rest : List Task}
    (found : state.cells[position]? = some ⟨node, .inFlight results task rest⟩) :
    node.tasks[(answersTo (some position) moves).length]? = some task := by
  have accounts := recorded_of_trace run position node _ found
  generalize answersTo (some position) moves = outcomes at accounts ⊢
  generalize state.handedTo (some position) = handed at accounts
  cases accounts with
  | inFlight tasks pass => exact pass.length_eq ▸ next_of_split tasks

theorem setup_inFlight_of_trace (run : Trace graph moves state) {results : List TaskResult}
    {task : Task} {rest : List Task} (current : state.setup = .inFlight results task rest) :
    graph.setup[(answersTo none moves).length]? = some task := by
  obtain ⟨before, split, pass⟩ := setup_inFlight_split run current
  exact pass.length_eq ▸ next_of_split split

theorem Planned.meets {position : Nat} {outcome : Outcome}
    (planned : Planned graph passes (moves ++ [.reply position outcome]))
    (run : Trace graph moves state) {node : ExecutionNode} {results : List TaskResult}
    {task : Task} {rest : List Task}
    (found : state.cells[position]? = some ⟨node, .inFlight results task rest⟩) :
    ∃ pass, (Verdict.judge task.kind outcome).Meets pass := by
  have known := known_of_found (nodes_of_trace run) found
  refine ⟨_, planned.nodes position node _ task outcome known (inFlight_of_trace run found) ?_⟩
  simp [answersTo_append, Move.answerTo?]

theorem Planned.setup_passes {outcome : Outcome}
    (planned : Planned graph passes (moves ++ [.replySetup outcome]))
    (run : Trace graph moves state) {results : List TaskResult} {task : Task} {rest : List Task}
    (current : state.setup = .inFlight results task rest) :
    Verdict.judge task.kind outcome = .passed := by
  apply planned.setup _ task outcome (setup_inFlight_of_trace run current)
  simp [answersTo_append, Move.answerTo?]

end Answers

/-! ## Nothing alarms a planned run -/

def Progress.Calm : Progress → Prop
  | .ended report fatal => fatal = none ∧ report.status ≠ .cancelled
  | .finished report => report.status ≠ .cancelled
  | .waiting | .dispatched | .running _ _ | .inFlight _ _ _ => True

def Setup.Calm : Setup → Prop
  | .running _ _ | .inFlight _ _ _ | .passed _ => True
  | .stopped _ | .lost _ => False

structure Calm (state : State) : Prop where
  silent : state.token = false
  sound : state.fatal = none
  setup : state.setup.Calm
  nodes : ∀ cell ∈ state.cells, cell.progress.Calm

section Steps
variable {state next : State}

theorem Calm.aborted (calm : Calm state) : state.aborted = false := by
  simp [State.aborted, calm.silent, calm.sound]

theorem Calm.present (calm : Calm state) (message : Option String) :
    state.setup ≠ .lost message := by
  intro lost
  have good := calm.setup
  simp [lost, Setup.Calm] at good

theorem Calm.update (calm : Calm state) {position : Nat} {progress : Progress}
    (cells : next.cells = (state.setProgress position progress).cells)
    (silent : next.token = state.token) (sound : next.fatal = none)
    (setup : next.setup = state.setup) (own : progress.Calm) : Calm next := by
  constructor
  · rw [silent]
    exact calm.silent
  · exact sound
  · rw [setup]
    exact calm.setup
  · rw [cells]
    intro cell member
    rcases state.mem_setProgress member with old | same
    · exact calm.nodes cell old
    · exact same ▸ own

theorem calm_judged {cell : Cell} {results : List TaskResult} {task : Task} {rest : List Task}
    {verdict : Verdict} {pass : Bool} (meets : verdict.Meets pass) :
    (cell.judged results task rest verdict).Calm := by
  cases verdict with
  | passed => trivial
  | failed message | panicked message => simp [Cell.judged, Cell.fail, Progress.Calm]
  | cancelled message | fatal message =>
    cases pass <;> simp [Verdict.Meets, Verdict.isFailure] at meets

theorem calm_of_trace {graph : ExecutionGraph} {passes : Nat → Nat → Bool} {moves : List Move}
    {state : State} (run : Trace graph moves state) (planned : Planned graph passes moves) :
    Calm state := by
  induction run with
  | start =>
    refine ⟨rfl, rfl, trivial, ?_⟩
    intro cell member
    obtain ⟨node, _, rfl⟩ := List.mem_map.mp member
    trivial
  | move move run moved ih =>
    have calm := ih planned.before
    cases step_of_move? moved with
    | cancelled => exact absurd (List.mem_append_right _ List.mem_cons_self) planned.silent
    | setupHalted _ fired => simp [calm.silent] at fired
    | setupHanded | setupDone | setupPassed =>
      exact ⟨calm.silent, calm.sound, trivial, calm.nodes⟩
    | setupFailed current fails =>
      simp [planned.setup_passes run current] at fails
    | setupLost current panics =>
      simp [planned.setup_passes run current] at panics
    | dropped | doomed | admitted | resolved | closed =>
      exact ⟨calm.silent, calm.sound, calm.setup, calm.nodes⟩
    | refused meant queue found =>
      have rests := ((backed_of_trace run).reason meant queue found).1
      refine calm.update rfl rfl calm.sound rfl ?_
      simp [Progress.Calm, NodeReport.notRun, rests.skipped calm.silent]
    | dispatched | started | handed => exact calm.update rfl rfl calm.sound rfl trivial
    | succeeded => exact calm.update rfl rfl calm.sound rfl (by simp [Progress.Calm])
    | halted _ alarm => simp [calm.aborted] at alarm
    | replied found =>
      obtain ⟨pass, meets⟩ := planned.meets run found
      exact calm.update rfl rfl calm.sound rfl (calm_judged meets)
    | collected _ found =>
      obtain ⟨sound, well⟩ := calm.nodes _ (List.mem_of_getElem? found)
      refine calm.update rfl rfl ?_ rfl well
      simp [State.finish, State.emit, State.setProgress, calm.sound, sound]
    | gaveUp meant =>
      have rests := ((backed_of_trace run).idle meant).2
      refine calm.update rfl rfl calm.sound rfl ?_
      simp [Progress.Calm, NodeReport.notRun, rests.skipped calm.silent]

end Steps

/-! ## A planned run comes to its end -/

section Progress
variable {graph : ExecutionGraph} {passes : Nat → Nat → Bool} {moves : List Move} {state : State}

-- Some outcome meets the plan whatever kind of task it is for.
theorem exists_outcome (kind : TaskKind) (pass : Bool) :
    ∃ outcome, (Verdict.judge kind outcome).Meets pass := by
  cases pass with
  | true => exact ⟨.rows Rows.empty, by cases kind <;> rfl⟩
  | false => exact ⟨.error (.execution ""), rfl⟩

theorem Planned.reply (planned : Planned graph passes moves) {position : Nat}
    {node : ExecutionNode} {task : Task} {outcome : Outcome}
    (known : graph.nodes[position]? = some node)
    (current : node.tasks[(answersTo (some position) moves).length]? = some task)
    (meets : (Verdict.judge task.kind outcome).Meets
      (passes position (answersTo (some position) moves).length)) :
    Planned graph passes (moves ++ [.reply position outcome]) := by
  constructor
  · simpa using planned.silent
  · intro index other answer listed found
    apply planned.setup index other answer listed
    simpa [answersTo_append, Move.answerTo?] using found
  · intro other otherNode index otherTask answer otherKnown listed found
    by_cases same : other = position
    · subst same
      rw [known, Option.some.injEq] at otherKnown
      subst otherKnown
      have answers : Move.answerTo? (some other) (.reply other outcome) = some outcome := if_pos rfl
      rcases answersTo_cases answers found with earlier | ⟨rfl, rfl⟩
      · exact planned.nodes other node index otherTask answer known listed earlier
      · rw [current, Option.some.injEq] at listed
        exact listed ▸ meets
    · apply planned.nodes other otherNode index otherTask answer otherKnown listed
      simpa [answersTo_append, Move.answerTo?, same] using found

theorem Planned.replySetup (planned : Planned graph passes moves) {task : Task} {outcome : Outcome}
    (current : graph.setup[(answersTo none moves).length]? = some task)
    (passed : Verdict.judge task.kind outcome = .passed) :
    Planned graph passes (moves ++ [.replySetup outcome]) := by
  constructor
  · simpa using planned.silent
  · intro index other answer listed found
    rcases answersTo_cases rfl found with earlier | ⟨rfl, rfl⟩
    · exact planned.setup index other answer listed earlier
    · rw [current, Option.some.injEq] at listed
      exact listed ▸ passed
  · intro position node index other answer known listed found
    apply planned.nodes position node index other answer known listed
    simpa [answersTo_append, Move.answerTo?] using found

theorem Planned.exists_move (run : Trace graph moves state) (planned : Planned graph passes moves)
    (isOpen : state.closed = false) :
    ∃ move, (state.move? move).isSome = true ∧ Planned graph passes (moves ++ [move]) := by
  cases turn_of_trace run isOpen with
  | own move uncancelled silent possible =>
    exact ⟨move, possible, planned.quiet uncancelled silent⟩
  | @setup results task rest current possible =>
    obtain ⟨outcome, passed⟩ := exists_outcome task.kind true
    exact ⟨.replySetup outcome, possible outcome,
      planned.replySetup (setup_inFlight_of_trace run current) passed⟩
  | @node position node results task rest found possible =>
    obtain ⟨outcome, meets⟩ := exists_outcome task.kind
      (passes position (answersTo (some position) moves).length)
    exact ⟨.reply position outcome, possible outcome,
      planned.reply (known_of_found (nodes_of_trace run) found) (inFlight_of_trace run found) meets⟩

end Progress

-- Every move leaves less to be done, so going on with possible moves comes to an end.
theorem Planned.exists_end {graph : ExecutionGraph} {passes : Nat → Nat → Bool}
    {moves : List Move} {state : State} (run : Trace graph moves state)
    (planned : Planned graph passes moves) :
    ∃ rest ending, Trace graph (moves ++ rest) ending ∧ Planned graph passes (moves ++ rest) ∧
      ending.closed = true := by
  by_cases past : state.closed = true
  · exact ⟨[], state, by simpa using run, by simpa using planned, past⟩
  · obtain ⟨move, possible, further⟩ := planned.exists_move run (eq_false_of_ne_true past)
    obtain ⟨next, moved⟩ := Option.isSome_iff_exists.mp possible
    obtain ⟨rest, ending, ended, whole, closed⟩ := further.exists_end (run.move move moved)
    rw [List.append_assoc] at ended whole
    exact ⟨_, ending, ended, whole, closed⟩
termination_by state.measure
decreasing_by exact State.measure_move? moved
end Run
end SqlPipeline
