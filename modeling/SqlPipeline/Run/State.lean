import SqlPipeline.Execution
import SqlPipeline.Run.Readiness
import SqlPipeline.Run.Verdict

/-!
The states of a run and its moves. First the setup statements are run one after another. Then the
coordinator takes nodes off the ready queue and either finishes them at once or dispatches them;
dispatched nodes work through their tasks independently of each other, and the coordinator collects
them when they have ended. Nodes that were never released are given up one by one in the end, and so
are all nodes when the setup comes to nothing. The caller can cancel at any time, and an outcome
that shows the database lost aborts the run when it is collected. Handing over a statement and
checking for cancellation before it are one move. But the coordinator looks first and acts later:
what it makes of a node is decided by one move and done by another, and others can move in between.
Which of the possible moves comes next is not decided here.
-/

namespace SqlPipeline

/-- What became of one node. -/
structure NodeReport where
  name : ActionName
  status : NodeStatus
  tasks : List TaskResult
  /-- Whether the node has anything to show for having run. -/
  started : Bool
  error : Option String
  deriving DecidableEq

/-- A node that came to its status without running. -/
def NodeReport.notRun (name : ActionName) (status : NodeStatus) : NodeReport :=
  ⟨name, status, [], false, none⟩

namespace Run

/-! ## Nodes -/

inductive Progress where
  | waiting
  | dispatched
  /-- Between two statements. -/
  | running (results : List TaskResult) (rest : List Task)
  /-- A statement is with the database. -/
  | inFlight (results : List TaskResult) (task : Task) (rest : List Task)
  /-- Done, but not collected yet. The second part is what makes the outcome fatal. -/
  | ended (report : NodeReport) (fatal : Option String)
  | finished (report : NodeReport)
  deriving DecidableEq

structure Cell where
  node : ExecutionNode
  progress : Progress
  deriving DecidableEq

namespace Cell

def name (cell : Cell) : ActionName := cell.node.name

def report? (cell : Cell) : Option NodeReport :=
  match cell.progress with
  | .finished report => some report
  | _ => none

/-- Dispatched and not collected. -/
def isBusy (cell : Cell) : Bool :=
  match cell.progress with
  | .dispatched | .running _ _ | .inFlight _ _ _ | .ended _ _ => true
  | .waiting | .finished _ => false

/-- Ends the node at a task that did not pass, or panicked. -/
def fail (cell : Cell) (status : NodeStatus) (results : List TaskResult) (task : Task)
    (message : String) (fatal : Option String) : Progress :=
  .ended ⟨cell.name, status, results ++ [.failed task message], true, some message⟩ fatal

def panicText (message : Option String) : String :=
  "node panicked: " ++ message.getD "unknown panic"

/-- What the verdict on a task makes of the node. A node that panicked keeps nothing but the
message. -/
def judged (cell : Cell) (results : List TaskResult) (task : Task) (rest : List Task) :
    Verdict → Progress
  | .passed => .running (results ++ [.passed task]) rest
  | .failed message => cell.fail .failed results task message none
  | .cancelled message => cell.fail .cancelled results task message none
  | .fatal message => cell.fail .failed results task message (some message)
  | .panicked message =>
      .ended ⟨cell.name, .failed, [], false, some (panicText message)⟩ none

end Cell

def cancelledText : String := "run cancelled"

/-! ## Setup -/

inductive Setup where
  | running (results : List TaskResult) (rest : List Task)
  | inFlight (results : List TaskResult) (task : Task) (rest : List Task)
  | passed (results : List TaskResult)
  | stopped (results : List TaskResult)
  /-- The driver panicked, and nobody is left to report. -/
  | lost (message : Option String)
  deriving DecidableEq

/-- The results recorded for setup statements. -/
def Setup.results : Setup → List TaskResult
  | .running results _ => results
  | .inFlight results _ _ => results
  | .passed results => results
  | .stopped results => results
  | .lost _ => []

/-- Whether the nodes are or were scheduled. -/
def Setup.isPassed : Setup → Bool
  | .passed _ => true
  | _ => false

/-- Whether no setup statement is to come. -/
def Setup.isOver : Setup → Bool
  | .passed _ | .stopped _ => true
  | .running _ _ | .inFlight _ _ _ | .lost _ => false

/-! ## The state -/

/-- A statement that went to the database, for a node or for the setup. -/
structure Handover where
  node : Option Nat
  statement : String
  deriving DecidableEq

/-- The beginning or the end of a node. -/
structure Event where
  name : ActionName
  status : NodeStatus
  deriving DecidableEq

/-- What the coordinator is about to do. -/
inductive Intent where
  /-- To dispatch the first node of the queue. -/
  | dispatch
  /-- To finish the first node of the queue without running it. -/
  | refuse (status : NodeStatus)
  /-- To give up a node that was never released. -/
  | giveUp (position : Nat) (status : NodeStatus)
  /-- To give up all nodes, in graph order. -/
  | giveUpAll (status : NodeStatus)
  deriving DecidableEq

structure State where
  setup : Setup
  cells : List Cell
  readiness : Readiness
  ready : List Nat
  intent : Option Intent
  /-- Whether the caller has cancelled. -/
  token : Bool
  /-- The first outcome that showed the database lost. -/
  fatal : Option String
  events : List Event
  handovers : List Handover
  closed : Bool
  deriving DecidableEq

def start (graph : ExecutionGraph) : State where
  setup := .running [] graph.setup
  cells := graph.nodes.map fun node => ⟨node, .waiting⟩
  readiness :=
    Readiness.ofNodes (graph.nodes.map fun node => node.name.text)
      (graph.nodes.map ExecutionNode.dependencies)
  ready := []
  intent := none
  token := false
  fatal := none
  events := []
  handovers := []
  closed := false

namespace State

def aborted (state : State) : Bool := state.token || state.fatal.isSome

/-- The status of nodes that are not going to run. -/
def leftOver (state : State) : NodeStatus := if state.token then .cancelled else .skipped

def progress? (state : State) (position : Nat) : Option Progress :=
  (state.cells[position]?).map Cell.progress

def setProgress (state : State) (position : Nat) (progress : Progress) : State :=
  { state with cells := state.cells.modify position fun cell => { cell with progress } }

def emit (state : State) (name : ActionName) (status : NodeStatus) : State :=
  { state with events := state.events ++ [⟨name, status⟩] }

def handOver (state : State) (node : Option Nat) (statement : String) : State :=
  { state with handovers := state.handovers ++ [⟨node, statement⟩] }

/-- The final status of the last node of a name. -/
def statusOf? (state : State) (name : String) : Option NodeStatus :=
  (state.cells.reverse.find? fun cell => cell.name.text == name).bind fun cell =>
    cell.report?.map NodeReport.status

/-- Whether nothing is left to run: no node is in the queue and none is under way. -/
def isIdle (state : State) : Bool :=
  state.setup.isOver && state.ready.isEmpty && !state.cells.any Cell.isBusy

/-- Whether some dependency has come to an end without success. -/
def isBlocked (state : State) (node : ExecutionNode) : Bool :=
  node.dependencies.any fun name =>
    match state.statusOf? name with
    | some status => status != .succeeded
    | none => false

/-- A node comes to its end, and what waited only for it joins the queue. -/
def finish (state : State) (position : Nat) (report : NodeReport) : State :=
  let released := state.readiness.complete position
  { (state.setProgress position (.finished report)).emit report.name report.status with
    readiness := released.2
    ready := state.ready ++ released.1 }

/-- A node comes to its end without being released; nothing waits for it any more. -/
def giveUp (state : State) (position : Nat) (name : ActionName) (status : NodeStatus) : State :=
  (state.setProgress position (.finished (.notRun name status))).emit name status

/-- The setup has come to nothing, and no node is going to run. -/
def stopSetup (state : State) (results : List TaskResult) (fatal : Option String) : State :=
  { state with setup := .stopped results, fatal }

/-- The node at a position, if it waits. -/
def waiting? (state : State) (position : Nat) : Option ExecutionNode :=
  match state.cells[position]? with
  | some ⟨node, .waiting⟩ => some node
  | _ => none

/-- The first node that waits. -/
def firstWaiting? (state : State) : Option Nat :=
  (state.cells.zipIdx.find? fun entry => entry.1.progress == .waiting).map Prod.snd

theorem waiting?_eq_some_iff {state : State} {position : Nat} {node : ExecutionNode} :
    state.waiting? position = some node ↔ state.cells[position]? = some ⟨node, .waiting⟩ := by
  unfold waiting?
  split
  · rename_i other found
    simp [found]
  · rename_i moved
    simpa using moved node

theorem waiting_of_firstWaiting? {state : State} {position : Nat}
    (first : state.firstWaiting? = some position) :
    ∃ node, state.cells[position]? = some ⟨node, .waiting⟩ := by
  obtain ⟨⟨⟨node, progress⟩, _⟩, found, rfl⟩ := Option.map_eq_some_iff.mp first
  have waiting : progress = .waiting := by simpa using List.find?_some found
  subst waiting
  exact ⟨node, List.mem_zipIdx_iff_getElem?.mp (List.mem_of_find?_eq_some found)⟩

/-! ## Moves -/

/-- The coordinator looks at the first node of the queue: whether it may run. -/
def take (state : State) (position : Nat) (rest : List Nat) : State :=
  match state.waiting? position with
  | some node =>
      if state.aborted then { state with intent := some (.refuse state.leftOver) }
      else if state.isBlocked node then { state with intent := some (.refuse .skipped) }
      else { state with intent := some .dispatch }
  | none => { state with ready := rest }

/-- The coordinator looks at the first node that is left. After a setup that has come to nothing it
looks only once, for all nodes. -/
def resolve (state : State) : Option State :=
  state.firstWaiting?.map fun position =>
    let intent := if state.setup.isPassed then Intent.giveUp position else .giveUpAll
    { state with intent := some (intent state.leftOver) }

-- What the coordinator does with the first node of the queue.
def actOnFirst (state : State) (act : State → Nat → ExecutionNode → State) : Option State :=
  match state.ready with
  | position :: rest =>
      (state.waiting? position).map
        (act { state with ready := rest, intent := none } position)
  | [] => none

/-- The coordinator does what it is about to do. -/
def act (state : State) : Option State :=
  match state.intent with
  | some .dispatch =>
      state.actOnFirst fun left position _ => left.setProgress position .dispatched
  | some (.refuse status) =>
      state.actOnFirst fun left position node => left.finish position (.notRun node.name status)
  | some (.giveUp position status) =>
      (state.waiting? position).map fun node =>
        ({ state with intent := none } : State).giveUp position node.name status
  | some (.giveUpAll status) =>
      state.firstWaiting?.bind fun position =>
        (state.waiting? position).map fun node => state.giveUp position node.name status
  | none => none

/-- The next statement of the setup. -/
def issueSetup (state : State) : Option State :=
  match state.setup with
  | .running results (task :: rest) =>
      if state.token then some (state.stopSetup results none)
      else
        some { state.handOver none task.statement with setup := .inFlight results task rest }
  | .running results [] =>
      some { state with setup := .passed results, ready := state.readiness.initial }
  | _ => none

def replySetup (state : State) (outcome : Outcome) : Option State :=
  match state.setup with
  | .inFlight results task rest =>
      let stop (message : String) (fatal : Option String) : State :=
        state.stopSetup (results ++ [.failed task message]) fatal
      match Verdict.judge task.kind outcome with
      | .passed => some { state with setup := .running (results ++ [.passed task]) rest }
      | .failed message => some (stop message none)
      | .cancelled message => some (stop message none)
      | .fatal message => some (stop message (some message))
      | .panicked message => some { state with setup := .lost message, closed := true }
  | _ => none

def startNode (state : State) (position : Nat) : Option State :=
  match state.cells[position]? with
  | some ⟨node, .dispatched⟩ =>
      some ((state.setProgress position (.running [] node.tasks)).emit node.name .running)
  | _ => none

/-- The next statement of a node, or its end. -/
def issue (state : State) (position : Nat) : Option State :=
  match state.cells[position]? with
  | some ⟨node, .running results []⟩ =>
      some (state.setProgress position (.ended ⟨node.name, .succeeded, results, true, none⟩ none))
  | some ⟨node, .running results (task :: rest)⟩ =>
      if state.aborted then
        some (state.setProgress position
          (.ended ⟨node.name, .cancelled, results, true, some cancelledText⟩ none))
      else
        some ((state.setProgress position (.inFlight results task rest)).handOver (some position)
          task.statement)
  | _ => none

def reply (state : State) (position : Nat) (outcome : Outcome) : Option State :=
  match state.cells[position]? with
  | some ⟨node, .inFlight results task rest⟩ =>
      let verdict := Verdict.judge task.kind outcome
      some (state.setProgress position
        (Cell.judged ⟨node, .inFlight results task rest⟩ results task rest verdict))
  | _ => none

/-- Takes in a node that has ended. Only the first fatal outcome counts. -/
def collect (state : State) (position : Nat) : Option State :=
  match state.cells[position]? with
  | some ⟨_, .ended report fatal⟩ =>
      some ({ state with fatal := state.fatal <|> fatal }.finish position report)
  | _ => none

end State

inductive Move where
  /-- The caller cancels. -/
  | cancel
  | issueSetup
  | replySetup (outcome : Outcome)
  /-- The coordinator looks at the first node of the queue. -/
  | take
  /-- The coordinator does what it is about to do. -/
  | act
  | start (position : Nat)
  | issue (position : Nat)
  | reply (position : Nat) (outcome : Outcome)
  /-- The coordinator takes in a node that has ended; the queue is empty then. -/
  | collect (position : Nat)
  /-- The coordinator looks at what was never released; nothing is left to run then. -/
  | resolve
  /-- The report is put together. -/
  | close

/-- The state after a move; none where the move is not possible. -/
def State.move? (state : State) (move : Move) : Option State :=
  if state.closed then none
  else
    match move with
    | .cancel => if state.token then none else some { state with token := true }
    | .issueSetup => state.issueSetup
    | .replySetup outcome => state.replySetup outcome
    | .take =>
        match state.intent, state.ready with
        | none, position :: rest => some (state.take position rest)
        | _, _ => none
    | .act => state.act
    | .start position => state.startNode position
    | .issue position => state.issue position
    | .reply position outcome => state.reply position outcome
    | .collect position => if state.ready = [] then state.collect position else none
    | .resolve => if state.isIdle ∧ state.intent = none then state.resolve else none
    | .close =>
        if state.isIdle ∧ ¬state.cells.any fun cell => cell.progress == .waiting then
          some { state with closed := true }
        else none

/-- The moves of a run from its start, and the state they lead to. -/
inductive Trace (graph : ExecutionGraph) : List Move → State → Prop where
  | start : Trace graph [] (Run.start graph)
  | move {moves : List Move} {state next : State} (move : Move) :
      Trace graph moves state → state.move? move = some next → Trace graph (moves ++ [move]) next

/-- A state that moves lead to from the start. -/
def Reachable (graph : ExecutionGraph) (state : State) : Prop := ∃ moves, Trace graph moves state

end Run
end SqlPipeline
