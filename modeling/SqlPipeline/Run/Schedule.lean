import SqlPipeline.Report
import SqlPipeline.Run.Work
import SqlPipeline.Text.Quoted

/-!
One thread. Here a script says how the database answers every statement, and one thread decides
which move of a run comes next. The coordinator takes its queue until it is empty, then collects
what has ended, and goes on as long as that releases nodes, up to a limit. Only then the dispatched
nodes have their turn, one after another in the order of dispatch, each until it ends or until the
database keeps its statement waiting for a cancellation. Waiting nodes go on, in the order in which
they came to wait, at the end of a turn in which or before which the run was aborted. Where nobody
can go on but them, the run is cancelled.
-/

namespace SqlPipeline.Run

/-- How a statement that waits for a cancellation answers when that comes. -/
inductive Wait where
  | aborts
  | finishes
  deriving DecidableEq

/-- How the database treats one statement. -/
structure Behaviour where
  wait : Option Wait
  /-- Whether the statement cancels the run before it answers. -/
  cancels : Bool
  outcome : Outcome

namespace Behaviour

def accepting : Behaviour := ⟨none, false, .rows Rows.empty⟩

-- The answer; a statement that was stopped answers with its own text.
def reply (behaviour : Behaviour) (statement : String) : Outcome :=
  match behaviour.wait with
  | some .aborts => .error (.cancelled statement)
  | _ => behaviour.outcome

-- A statement that is stopped while it waits does nothing else.
def cancelsRun (behaviour : Behaviour) : Bool :=
  behaviour.cancels && behaviour.wait != some .aborts

end Behaviour

abbrev Script := String → Behaviour

/-- A run and what the thread keeps of it: positions of nodes, in order. -/
structure Schedule where
  state : State
  /-- Those whose turn it is; the first one is at work. -/
  turn : List Nat
  /-- Those dispatched since the last turn. -/
  wave : List Nat
  /-- Those to be collected. -/
  ended : List Nat
  /-- Those whose statement is kept waiting. -/
  parked : List Nat
  /-- How many the coordinator has collected since the last turn. -/
  collected : Nat

namespace Schedule

def ofState (state : State) : Schedule := ⟨state, [], [], [], [], 0⟩

-- Begins the next turn, if there is anyone to have it.
def beginTurn (schedule : Schedule) : Schedule :=
  let schedule := { schedule with collected := 0 }
  if schedule.wave ≠ [] then { schedule with turn := schedule.wave, wave := [] }
  else if schedule.state.aborted then
    { schedule with turn := schedule.parked, parked := [] }
  else schedule

-- How many nodes the coordinator collects before it lets others go on.
def patience : Nat := 128

/-- When the coordinator has nothing to do, the next turn begins. It also begins when the
coordinator has lost its patience; whoever was to be collected next then goes to the end of the
line. -/
def settle (schedule : Schedule) : Schedule :=
  if schedule.turn = [] ∧ schedule.state.ready = [] then
    match schedule.ended with
    | [] => schedule.beginTurn
    | first :: rest =>
        if schedule.collected = patience then
          { schedule with ended := rest ++ [first] }.beginTurn
        else schedule
  else schedule

-- The move with which a statement is answered.
def answer (script : Script) (state : State) (statement : String) (reply : Outcome → Move) : Move :=
  let behaviour := script statement
  if behaviour.cancelsRun ∧ ¬state.token then .cancel else reply (behaviour.reply statement)

-- The next move of the setup. A statement that waits has nobody to wait for.
def setupMove (script : Script) (state : State) (task : Task) : Move :=
  if (script task.statement).wait.isSome ∧ ¬state.token then .cancel
  else answer script state task.statement .replySetup

-- The next move of the node at work.
def nodeMove (script : Script) (state : State) (position : Nat) : Move :=
  match state.progress? position with
  | some (.running _ _) => .issue position
  | some (.inFlight _ task _) => answer script state task.statement (.reply position)
  | _ => .start position

-- What the coordinator looks at next, or the move of the caller where only the caller can help.
def lookMove (schedule : Schedule) : Move :=
  if schedule.state.ready ≠ [] then .take
  else
    match schedule.ended with
    | position :: _ => .collect position
    | [] =>
        if schedule.parked ≠ [] then .cancel
        else if schedule.state.firstWaiting?.isSome then .resolve
        else .close

-- The next move of the coordinator: what it is about to do, or a look at what there is to do.
def coordinatorMove (schedule : Schedule) : Move :=
  match schedule.state.intent with
  | some (.giveUpAll _) => if schedule.state.firstWaiting?.isSome then .act else .close
  | some _ => .act
  | none => schedule.lookMove

def next (script : Script) (schedule : Schedule) : Move :=
  match schedule.state.setup with
  | .running _ _ => .issueSetup
  | .inFlight _ task _ => setupMove script schedule.state task
  | .passed _ | .stopped _ | .lost _ =>
      match schedule.turn with
      | position :: _ => nodeMove script schedule.state position
      | [] => schedule.coordinatorMove

-- Whether the statement of a node is kept waiting.
def isParked (script : Script) (state : State) (position : Nat) : Bool :=
  match state.progress? position with
  | some (.inFlight _ task _) => (script task.statement).wait.isSome && !state.aborted
  | _ => false

def hasEnded (state : State) (position : Nat) : Bool :=
  match state.progress? position with
  | some (.ended _ _) => true
  | _ => false

-- After a turn in an aborted run those that were kept waiting have theirs.
def endTurn (schedule : Schedule) : Schedule :=
  if schedule.turn = [] ∧ schedule.state.aborted then
    { schedule with turn := schedule.parked, parked := [] }
  else schedule

-- The node at work stays at work unless it has ended or has to wait.
def afterNode (script : Script) (schedule : Schedule) (position : Nat) : Schedule :=
  if hasEnded schedule.state position then
    { schedule with
      turn := schedule.turn.drop 1, ended := schedule.ended ++ [position] }.endTurn
  else if isParked script schedule.state position then
    { schedule with
      turn := schedule.turn.drop 1, parked := schedule.parked ++ [position] }.endTurn
  else schedule

-- A node joins the wave when it has been dispatched.
def afterAct (schedule : Schedule) (position : Nat) : Schedule :=
  if schedule.state.progress? position = some .dispatched then
    { schedule with wave := schedule.wave ++ [position] }
  else schedule

-- What the thread keeps after a move that led to a state.
def record (script : Script) (schedule : Schedule) (move : Move) (state : State) : Schedule :=
  let moved := { schedule with state }
  match move with
  | .act =>
      match schedule.state.ready with
      | position :: _ => moved.afterAct position
      | [] => moved
  | .collect _ =>
      { moved with ended := schedule.ended.drop 1, collected := schedule.collected + 1 }
  | .start position => moved.afterNode script position
  | .issue position => moved.afterNode script position
  | .reply position _ => moved.afterNode script position
  | .cancel | .issueSetup | .replySetup _ | .take | .resolve | .close => moved

theorem state_endTurn (schedule : Schedule) : schedule.endTurn.state = schedule.state := by
  unfold endTurn; split <;> rfl

theorem state_beginTurn (schedule : Schedule) : schedule.beginTurn.state = schedule.state := by
  simp only [beginTurn]; split
  · rfl
  · split <;> rfl

theorem state_settle (schedule : Schedule) : schedule.settle.state = schedule.state := by
  unfold settle; split
  · split
    · rw [state_beginTurn]
    · split
      · rw [state_beginTurn]
      · rfl
  · rfl

theorem state_afterNode (script : Script) (schedule : Schedule) (position : Nat) :
    (schedule.afterNode script position).state = schedule.state := by
  unfold afterNode; split
  · rw [state_endTurn]
  · split
    · rw [state_endTurn]
    · rfl

theorem state_record (script : Script) (schedule : Schedule) (move : Move) (state : State) :
    (schedule.record script move state).state = state := by
  unfold record
  cases move <;> simp only [state_afterNode]
  split
  · unfold afterAct; split <;> rfl
  · rfl

-- One move; none when the run is over.
def step? (script : Script) (schedule : Schedule) : Option Schedule :=
  let settled := schedule.settle
  let move := settled.next script
  (settled.state.move? move).map (settled.record script move)

theorem measure_step? {script : Script} {schedule after : Schedule}
    (step : schedule.step? script = some after) :
    Prod.Lex (· < ·) (· < ·) after.state.measure schedule.state.measure := by
  simp only [step?, Option.map_eq_some_iff] at step
  obtain ⟨state, moved, same⟩ := step
  have less := State.measure_move? moved
  rw [state_settle] at less
  rw [← same, state_record]
  exact less

-- Moves until no move is left.
def complete (script : Script) (schedule : Schedule) : Schedule :=
  match _step : schedule.step? script with
  | some after => complete script after
  | none => schedule
termination_by schedule.state.measure
decreasing_by exact measure_step? _step

end Schedule

/-! ## The report -/

/-- The report of a run, without the times at which things happened. -/
structure Report where
  ok : Bool
  cancelled : Bool
  fatal : Option String
  setup : List TaskResult
  nodes : List NodeReport
  deriving DecidableEq

/-- Why there is no report. -/
structure Lost where
  message : Option String
  deriving DecidableEq

/-- What callers are told of a coordinator that was lost; its task goes by a number. -/
def Lost.text (lost : Lost) (task : Nat) : String :=
  "[X006] Run coordinator failed: task " ++ toString task ++ " panicked" ++
    match lost.message with
    | some message => " with message " ++ Text.quoted message
    | none => ""

def Report.summary (report : Report) : RunSummary :=
  RunSummary.ofStatuses (report.nodes.map NodeReport.status)

def Report.failedNodes (report : Report) : List NodeReport :=
  report.nodes.filter fun node => node.status == .failed

/-- Why a run is an error to its callers. One that lost the database has a report all the same. -/
inductive RunError where
  | lost (lost : Lost)
  | aborted (reason : String) (report : Report)
  deriving DecidableEq

-- What callers are told about a run that was aborted.
def abortedText (reason : String) : String := "[X007] Run aborted: " ++ reason

def Cell.report (cell : Cell) : NodeReport := cell.report?.getD (.notRun cell.name .pending)

namespace State

/-- The report of a run that is over. Nodes that ended as cancelled make the run cancelled, unless
it was the loss of the database that stopped them. -/
def report (state : State) : Report :=
  let nodes := state.cells.map Cell.report
  { ok :=
      state.setup.isPassed && state.fatal.isNone
        && nodes.all fun node => node.status == .succeeded
    cancelled :=
      state.token || (state.fatal.isNone && nodes.any fun node => node.status == .cancelled)
    fatal := state.fatal
    setup := state.setup.results
    nodes }

def result (state : State) : Except Lost Report :=
  match state.setup with
  | .lost message => .error ⟨message⟩
  | _ => .ok state.report

/-- What callers are given who wait for the end of a run. -/
def conclusion (state : State) : Except RunError Report :=
  match state.result with
  | .error lost => .error (.lost lost)
  | .ok report =>
      match report.fatal with
      | some reason => .error (.aborted reason report)
      | none => .ok report

end State

-- Runs a graph on one thread, cancelled from the start or not.
def finalState (graph : ExecutionGraph) (script : Script) (cancelled : Bool) : State :=
  ((Schedule.ofState { Run.start graph with token := cancelled }).complete script).state

end SqlPipeline.Run
