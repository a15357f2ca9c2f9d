import SqlPipeline.Run.State

/-!
What one move does. `Step` lists every way in which a move changes a state, with the condition for
it, and `step_of_move?` says that there is no other way; what a run preserves is proved by cases on
it. The lemmas after it tell what the updates do to the progress of nodes and to the statements
handed over.
-/

namespace SqlPipeline.Run

inductive Step (state : State) : Move → State → Prop where
  | cancelled (silent : state.token = false) : Step state .cancel { state with token := true }
  | setupHalted {results : List TaskResult} {task : Task} {rest : List Task}
      (current : state.setup = .running results (task :: rest)) (fired : state.token = true) :
      Step state .issueSetup (state.stopSetup results none)
  | setupHanded {results : List TaskResult} {task : Task} {rest : List Task}
      (current : state.setup = .running results (task :: rest)) (silent : state.token = false) :
      Step state .issueSetup
        { state.handOver none task.statement with setup := .inFlight results task rest }
  | setupDone {results : List TaskResult} (current : state.setup = .running results []) :
      Step state .issueSetup
        { state with setup := .passed results, ready := state.readiness.initial }
  | setupPassed {results : List TaskResult} {task : Task} {rest : List Task} {outcome : Outcome}
      (current : state.setup = .inFlight results task rest)
      (passes : Verdict.judge task.kind outcome = .passed) :
      Step state (.replySetup outcome)
        { state with setup := .running (results ++ [.passed task]) rest }
  | setupFailed {results : List TaskResult} {task : Task} {rest : List Task} {outcome : Outcome}
      {message : String} {fatal : Option String}
      (current : state.setup = .inFlight results task rest)
      (fails : Verdict.judge task.kind outcome = .failed message ∧ fatal = none ∨
        Verdict.judge task.kind outcome = .cancelled message ∧ fatal = none ∨
        Verdict.judge task.kind outcome = .fatal message ∧ fatal = some message) :
      Step state (.replySetup outcome)
        (state.stopSetup (results ++ [.failed task message]) fatal)
  | setupLost {results : List TaskResult} {task : Task} {rest : List Task} {outcome : Outcome}
      {message : Option String} (current : state.setup = .inFlight results task rest)
      (panics : Verdict.judge task.kind outcome = .panicked message) :
      Step state (.replySetup outcome) { state with setup := .lost message, closed := true }
  | dropped {position : Nat} {rest : List Nat} (free : state.intent = none)
      (queue : state.ready = position :: rest)
      (settled : state.progress? position ≠ some .waiting) :
      Step state .take { state with ready := rest }
  | doomed {position : Nat} {rest : List Nat} {node : ExecutionNode} {status : NodeStatus}
      (free : state.intent = none) (queue : state.ready = position :: rest)
      (found : state.cells[position]? = some ⟨node, .waiting⟩)
      (reason : state.aborted = true ∧ status = state.leftOver ∨
        state.aborted = false ∧ state.isBlocked node = true ∧ status = .skipped) :
      Step state .take { state with intent := some (.refuse status) }
  | admitted {position : Nat} {rest : List Nat} {node : ExecutionNode}
      (free : state.intent = none) (queue : state.ready = position :: rest)
      (found : state.cells[position]? = some ⟨node, .waiting⟩)
      (calm : state.aborted = false) (clear : state.isBlocked node = false) :
      Step state .take { state with intent := some .dispatch }
  | refused {position : Nat} {rest : List Nat} {node : ExecutionNode} {status : NodeStatus}
      (meant : state.intent = some (.refuse status)) (queue : state.ready = position :: rest)
      (found : state.cells[position]? = some ⟨node, .waiting⟩) :
      Step state .act
        (({ state with ready := rest, intent := none } : State).finish position
          (.notRun node.name status))
  | dispatched {position : Nat} {rest : List Nat} {node : ExecutionNode}
      (meant : state.intent = some .dispatch) (queue : state.ready = position :: rest)
      (found : state.cells[position]? = some ⟨node, .waiting⟩) :
      Step state .act
        (({ state with ready := rest, intent := none } : State).setProgress position .dispatched)
  | started {position : Nat} {node : ExecutionNode}
      (found : state.cells[position]? = some ⟨node, .dispatched⟩) :
      Step state (.start position)
        ((state.setProgress position (.running [] node.tasks)).emit node.name .running)
  | succeeded {position : Nat} {node : ExecutionNode} {results : List TaskResult}
      (found : state.cells[position]? = some ⟨node, .running results []⟩) :
      Step state (.issue position)
        (state.setProgress position (.ended ⟨node.name, .succeeded, results, true, none⟩ none))
  | halted {position : Nat} {node : ExecutionNode} {results : List TaskResult} {task : Task}
      {rest : List Task}
      (found : state.cells[position]? = some ⟨node, .running results (task :: rest)⟩)
      (alarm : state.aborted = true) :
      Step state (.issue position)
        (state.setProgress position
          (.ended ⟨node.name, .cancelled, results, true, some cancelledText⟩ none))
  | handed {position : Nat} {node : ExecutionNode} {results : List TaskResult} {task : Task}
      {rest : List Task}
      (found : state.cells[position]? = some ⟨node, .running results (task :: rest)⟩)
      (calm : state.aborted = false) :
      Step state (.issue position)
        ((state.setProgress position (.inFlight results task rest)).handOver (some position)
          task.statement)
  | replied {position : Nat} {node : ExecutionNode} {results : List TaskResult} {task : Task}
      {rest : List Task} {outcome : Outcome}
      (found : state.cells[position]? = some ⟨node, .inFlight results task rest⟩) :
      Step state (.reply position outcome)
        (state.setProgress position
          (Cell.judged ⟨node, .inFlight results task rest⟩ results task rest
            (Verdict.judge task.kind outcome)))
  | collected {position : Nat} {node : ExecutionNode} {report : NodeReport} {fatal : Option String}
      (queue : state.ready = [])
      (found : state.cells[position]? = some ⟨node, .ended report fatal⟩) :
      Step state (.collect position)
        (({ state with fatal := state.fatal <|> fatal } : State).finish position report)
  | resolved {intent : Intent} (free : state.intent = none) (idle : state.isIdle = true)
      (looked : state.setup.isPassed = true ∧
          (∃ position node, state.cells[position]? = some ⟨node, .waiting⟩ ∧
            intent = .giveUp position state.leftOver) ∨
        state.setup.isPassed = false ∧ intent = .giveUpAll state.leftOver) :
      Step state .resolve { state with intent := some intent }
  | gaveUp {position : Nat} {node : ExecutionNode} {status : NodeStatus} {later : Option Intent}
      (meant : state.intent = some (.giveUp position status) ∧ later = none ∨
        state.intent = some (.giveUpAll status) ∧ later = state.intent)
      (found : state.cells[position]? = some ⟨node, .waiting⟩) :
      Step state .act
        (({ state with intent := later } : State).giveUp position node.name status)
  | closed (idle : state.isIdle = true)
      (settled : ∀ cell ∈ state.cells, cell.progress ≠ .waiting) :
      Step state .close { state with closed := true }

section Moves
variable {state next : State} {position : Nat}

theorem open_of_move? {move : Move} (step : state.move? move = some next) :
    state.closed = false := by
  unfold State.move? at step
  split at step
  · cases step
  · rename_i isOpen
    simpa using isOpen

theorem step_of_issueSetup (step : state.issueSetup = some next) :
    Step state .issueSetup next := by
  unfold State.issueSetup at step
  split at step
  · rename_i results task rest current
    split at step
    · rename_i fired
      cases step
      exact .setupHalted current fired
    · rename_i silent
      cases step
      exact .setupHanded current (by simpa using silent)
  · rename_i results current
    cases step
    exact .setupDone current
  · cases step

theorem step_of_replySetup {outcome : Outcome} (step : state.replySetup outcome = some next) :
    Step state (.replySetup outcome) next := by
  unfold State.replySetup at step
  split at step
  · rename_i results task rest current
    simp only at step
    split at step
    · rename_i passes
      cases step
      exact .setupPassed current passes
    · rename_i message fails
      cases step
      exact .setupFailed current (Or.inl ⟨fails, rfl⟩)
    · rename_i message fails
      cases step
      exact .setupFailed current (Or.inr (Or.inl ⟨fails, rfl⟩))
    · rename_i message fails
      cases step
      exact .setupFailed current (Or.inr (Or.inr ⟨fails, rfl⟩))
    · rename_i message panics
      cases step
      exact .setupLost current panics
  · cases step

theorem step_of_take {rest : List Nat} (free : state.intent = none)
    (queue : state.ready = position :: rest) : Step state .take (state.take position rest) := by
  unfold State.take
  split
  · rename_i node waiting
    have found := State.waiting?_eq_some_iff.mp waiting
    split
    · rename_i alarm
      exact .doomed free queue found (Or.inl ⟨alarm, rfl⟩)
    · rename_i alarm
      have calm : state.aborted = false := eq_false_of_ne_true alarm
      split
      · rename_i blocked
        exact .doomed free queue found (Or.inr ⟨calm, blocked, rfl⟩)
      · rename_i blocked
        exact .admitted free queue found calm (eq_false_of_ne_true blocked)
  · rename_i moved
    apply Step.dropped free queue
    intro waiting
    obtain ⟨⟨node, progress⟩, found, same⟩ := Option.map_eq_some_iff.mp waiting
    have same : progress = .waiting := same
    subst same
    rw [State.waiting?_eq_some_iff.mpr found] at moved
    cases moved

theorem of_actOnFirst {act : State → Nat → ExecutionNode → State}
    (acted : state.actOnFirst act = some next) :
    ∃ position rest node, state.ready = position :: rest ∧
      state.cells[position]? = some ⟨node, .waiting⟩ ∧
      next = act { state with ready := rest, intent := none } position node := by
  unfold State.actOnFirst at acted
  split at acted
  · rename_i position rest queue
    obtain ⟨node, waiting, rfl⟩ := Option.map_eq_some_iff.mp acted
    exact ⟨position, rest, node, queue, State.waiting?_eq_some_iff.mp waiting, rfl⟩
  · cases acted

theorem step_of_act (acted : state.act = some next) : Step state .act next := by
  unfold State.act at acted
  split at acted
  · rename_i meant
    obtain ⟨position, rest, node, queue, found, rfl⟩ := of_actOnFirst acted
    exact .dispatched meant queue found
  · rename_i status meant
    obtain ⟨position, rest, node, queue, found, rfl⟩ := of_actOnFirst acted
    exact .refused meant queue found
  · rename_i position status meant
    obtain ⟨node, waiting, rfl⟩ := Option.map_eq_some_iff.mp acted
    exact .gaveUp (Or.inl ⟨meant, rfl⟩) (State.waiting?_eq_some_iff.mp waiting)
  · rename_i status meant
    obtain ⟨position, _, acted⟩ := Option.bind_eq_some_iff.mp acted
    obtain ⟨node, waiting, rfl⟩ := Option.map_eq_some_iff.mp acted
    exact .gaveUp (Or.inr ⟨meant, rfl⟩) (State.waiting?_eq_some_iff.mp waiting)
  · cases acted

theorem step_of_startNode (step : state.startNode position = some next) :
    Step state (.start position) next := by
  unfold State.startNode at step
  split at step
  · rename_i node found
    cases step
    exact .started found
  · cases step

theorem step_of_issue (step : state.issue position = some next) :
    Step state (.issue position) next := by
  unfold State.issue at step
  split at step
  · rename_i node results found
    cases step
    exact .succeeded found
  · rename_i node results task rest found
    split at step
    · rename_i alarm
      cases step
      exact .halted found alarm
    · rename_i calm
      cases step
      exact .handed found (by simpa using calm)
  · cases step

theorem step_of_reply {outcome : Outcome} (step : state.reply position outcome = some next) :
    Step state (.reply position outcome) next := by
  unfold State.reply at step
  split at step
  · rename_i node results task rest found
    cases step
    exact .replied found
  · cases step

theorem step_of_collect (queue : state.ready = []) (step : state.collect position = some next) :
    Step state (.collect position) next := by
  unfold State.collect at step
  split at step
  · rename_i node report fatal found
    cases step
    exact .collected queue found
  · cases step

theorem step_of_resolve (free : state.intent = none) (idle : state.isIdle = true)
    (step : state.resolve = some next) : Step state .resolve next := by
  obtain ⟨position, first, rfl⟩ := Option.map_eq_some_iff.mp step
  obtain ⟨node, found⟩ := State.waiting_of_firstWaiting? first
  refine .resolved free idle ?_
  split
  · rename_i passed
    exact Or.inl ⟨passed, position, node, found, rfl⟩
  · rename_i stopped
    exact Or.inr ⟨eq_false_of_ne_true stopped, rfl⟩

-- There is no other way in which a state can change.
theorem step_of_move? {move : Move} (step : state.move? move = some next) :
    Step state move next := by
  have isOpen : ¬ state.closed = true := by simp [open_of_move? step]
  unfold State.move? at step
  rw [if_neg isOpen] at step
  cases move with
  | cancel =>
    simp only at step
    split at step
    · cases step
    · rename_i silent
      cases step
      exact .cancelled (by simpa using silent)
  | issueSetup => exact step_of_issueSetup step
  | replySetup outcome => exact step_of_replySetup step
  | take =>
    simp only at step
    split at step
    · rename_i position rest free queue
      cases step
      exact step_of_take free queue
    · cases step
  | act => exact step_of_act step
  | start position => exact step_of_startNode step
  | issue position => exact step_of_issue step
  | reply position outcome => exact step_of_reply step
  | collect position =>
    simp only at step
    split at step
    · rename_i queue
      exact step_of_collect queue step
    · cases step
  | resolve =>
    simp only at step
    split at step
    · rename_i able
      exact step_of_resolve able.2 able.1 step
    · cases step
  | close =>
    simp only at step
    split at step
    · rename_i past
      cases step
      refine .closed past.1 ?_
      intro cell member waiting
      exact past.2 (List.any_eq_true.mpr ⟨cell, member, by simp [waiting]⟩)
    · cases step

end Moves

/-! ## Runs by their moves -/

/-- The state after a list of moves; none where one of them is not possible. -/
def State.moves? (state : State) : List Move → Option State
  | [] => some state
  | move :: rest => (state.move? move).bind fun next => next.moves? rest

theorem Trace.extend {graph : ExecutionGraph} {before after : List Move} {state next : State}
    (run : Trace graph before state) (moved : state.moves? after = some next) :
    Trace graph (before ++ after) next := by
  induction after generalizing before state with
  | nil =>
    cases moved
    rwa [List.append_nil]
  | cons move rest ih =>
    obtain ⟨middle, first, later⟩ := Option.bind_eq_some_iff.mp moved
    rw [List.append_cons]
    exact ih (run.move move first) later

theorem trace_of_moves? {graph : ExecutionGraph} {moves : List Move} {state : State}
    (moved : (start graph).moves? moves = some state) : Trace graph moves state :=
  Trace.start.extend moved

theorem State.moves?_append (state : State) (before after : List Move) :
    state.moves? (before ++ after) = (state.moves? before).bind fun next => next.moves? after := by
  induction before generalizing state with
  | nil => rfl
  | cons move rest ih =>
    rw [List.cons_append, State.moves?, State.moves?, Option.bind_assoc]
    exact Option.bind_congr fun next _ => ih next

theorem Trace.moves? {graph : ExecutionGraph} {moves : List Move} {state : State}
    (run : Trace graph moves state) : (Run.start graph).moves? moves = some state := by
  induction run with
  | start => rfl
  | move move _ moved ih =>
    rw [State.moves?_append, ih, Option.bind_some, State.moves?, moved]
    rfl

-- What comes after a part of a run comes after the only state that the part leads to.
theorem Trace.rest {graph : ExecutionGraph} {before after : List Move} {state next : State}
    (run : Trace graph before state) (whole : Trace graph (before ++ after) next) :
    state.moves? after = some next := by
  have moved := whole.moves?
  rwa [State.moves?_append, run.moves?, Option.bind_some] at moved

/-! ## Updates -/

namespace State
variable (state : State)

/-- The statements handed over for one owner, in order. -/
def handedTo (owner : Option Nat) : List String :=
  (state.handovers.filter fun handover => handover.node == owner).map Handover.statement

theorem handedTo_handOver (owner other : Option Nat) (statement : String) :
    (state.handOver owner statement).handedTo other =
      if owner = other then state.handedTo other ++ [statement] else state.handedTo other := by
  by_cases same : owner = other <;> simp [handedTo, handOver, List.filter_append, same]

theorem getElem?_setProgress (position other : Nat) (progress : Progress) :
    (state.setProgress position progress).cells[other]? =
      if position = other then
        state.cells[other]?.map fun cell => { cell with progress }
      else state.cells[other]? := by
  simp only [setProgress, List.getElem?_modify]
  by_cases same : position = other <;> simp [same]

theorem progress?_setProgress (position other : Nat) (progress : Progress) :
    (state.setProgress position progress).progress? other =
      if position = other then (state.progress? other).map fun _ => progress
      else state.progress? other := by
  simp only [progress?, getElem?_setProgress]
  by_cases same : position = other <;> simp [same, Function.comp_def]

-- A node after an update: the one that was updated, or one that was so before.
theorem cases_setProgress {next : State} {position other : Nat} {node otherNode : ExecutionNode}
    {old progress current : Progress} (found : state.cells[position]? = some ⟨node, old⟩)
    (cells : next.cells = (state.setProgress position progress).cells)
    (stored : next.cells[other]? = some ⟨otherNode, current⟩) :
    position = other ∧ otherNode = node ∧ current = progress ∨
      position ≠ other ∧ state.cells[other]? = some ⟨otherNode, current⟩ := by
  rw [cells, getElem?_setProgress] at stored
  by_cases same : position = other
  · subst same
    simp only [if_true, found, Option.map_some, Option.some.injEq, Cell.mk.injEq] at stored
    exact Or.inl ⟨rfl, stored.1.symm, stored.2.symm⟩
  · rw [if_neg same] at stored
    exact Or.inr ⟨same, stored⟩

theorem mem_setProgress {position : Nat} {progress : Progress} {cell : Cell}
    (member : cell ∈ (state.setProgress position progress).cells) :
    cell ∈ state.cells ∨ cell.progress = progress := by
  obtain ⟨other, found⟩ := List.mem_iff_getElem?.mp member
  rw [getElem?_setProgress] at found
  split at found
  · obtain ⟨old, _, rfl⟩ := Option.map_eq_some_iff.mp found
    exact Or.inr rfl
  · exact Or.inl (List.mem_of_getElem? found)

theorem nodes_setProgress (position : Nat) (progress : Progress) :
    (state.setProgress position progress).cells.map Cell.node = state.cells.map Cell.node := by
  apply List.ext_getElem?
  intro other
  simp only [List.getElem?_map, getElem?_setProgress]
  by_cases same : position = other <;> simp [same, Function.comp_def]

theorem progress?_of_getElem? {position : Nat} {cell : Cell}
    (found : state.cells[position]? = some cell) :
    state.progress? position = some cell.progress := by
  simp [progress?, found]

end State
end SqlPipeline.Run
