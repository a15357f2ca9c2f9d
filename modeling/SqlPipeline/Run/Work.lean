import SqlPipeline.Run.State

/-!
Runs come to an end. The work that is left in a state is a number that every move makes smaller,
except that the coordinator may drop a position from its queue without doing anything; so work and
length of the queue, in this order, go down with every move whatever order the moves come in.
-/

namespace SqlPipeline.Run

/-- Two for each statement to come, and some for the stages around them. -/
def Progress.work (tasks : Nat) : Progress → Nat
  | .waiting => 2 * tasks + 7
  | .dispatched => 2 * tasks + 5
  | .running _ rest => 2 * rest.length + 3
  | .inFlight _ _ rest => 2 * rest.length + 4
  | .ended _ _ => 2
  | .finished _ => 0

def Cell.work (cell : Cell) : Nat := cell.progress.work cell.node.tasks.length

def Setup.work : Setup → Nat
  | .running _ rest => 2 * rest.length + 1
  | .inFlight _ _ rest => 2 * rest.length + 2
  | .passed _ | .stopped _ | .lost _ => 0

def cellsWork (cells : List Cell) : Nat := cells.foldr (fun cell later => cell.work + later) 0

namespace State

def work (state : State) : Nat :=
  (!state.token).toNat + (!state.closed).toNat + state.intent.isNone.toNat + state.setup.work
    + cellsWork state.cells

/-- What goes down with every move. -/
def measure (state : State) : Nat × Nat := (state.work, state.ready.length)

end State

theorem cellsWork_modify {cells : List Cell} {position : Nat} {cell : Cell} (progress : Progress)
    (found : cells[position]? = some cell) {less : Nat}
    (goesOn : progress.work cell.node.tasks.length + less ≤ cell.work) :
    cellsWork (cells.modify position fun cell => { cell with progress }) + less ≤
      cellsWork cells := by
  induction cells generalizing position with
  | nil => simp at found
  | cons first rest ih =>
    cases position with
    | zero =>
      simp only [List.getElem?_cons_zero, Option.some.injEq] at found
      subst found
      simp only [cellsWork, List.modify_zero_cons, List.foldr_cons, Cell.work] at goesOn ⊢
      omega
    | succ position =>
      simp only [List.getElem?_cons_succ] at found
      have smaller := ih found
      simp only [cellsWork, List.modify_succ_cons, List.foldr_cons] at smaller ⊢
      omega

namespace State

theorem work_setProgress_add (state : State) {position : Nat} {cell : Cell} {progress : Progress}
    (found : state.cells[position]? = some cell) (less : Nat)
    (goesOn : progress.work cell.node.tasks.length + less ≤ cell.work) :
    (state.setProgress position progress).work + less ≤ state.work := by
  have smaller := cellsWork_modify progress found goesOn
  simp only [work, setProgress] at smaller ⊢
  omega

theorem work_setProgress (state : State) {position : Nat} {cell : Cell} {progress : Progress}
    (found : state.cells[position]? = some cell)
    (less : progress.work cell.node.tasks.length < cell.work) :
    (state.setProgress position progress).work < state.work :=
  work_setProgress_add state found 1 less

-- What carries out an intent makes room for the next one, and has to take away more than that.
theorem work_of_freed {state next : State} {ready : List Nat} {intent : Option Intent}
    (less : next.work + 2 ≤ ({ state with ready, intent } : State).work) :
    next.work < state.work := by
  have room : intent.isNone.toNat ≤ 1 := Bool.toNat_le _
  have freed : ({ state with ready, intent } : State).work ≤ state.work + 1 := by
    simp only [work]
    omega
  omega

theorem measure_of_work {before after : State} (less : after.work < before.work) :
    Prod.Lex (· < ·) (· < ·) after.measure before.measure :=
  Prod.Lex.left _ _ less

theorem work_intend {state : State} (free : state.intent = none) (intent : Intent) :
    ({ state with intent := some intent } : State).work < state.work := by
  simp only [work, free, Option.isNone_none, Option.isNone_some, Bool.toNat_true, Bool.toNat_false]
  omega

theorem measure_take {state : State} {position : Nat} {rest : List Nat}
    (free : state.intent = none) (queue : state.ready = position :: rest) :
    Prod.Lex (· < ·) (· < ·) (state.take position rest).measure state.measure := by
  unfold take
  split
  · split
    · exact measure_of_work (work_intend free _)
    · split <;> exact measure_of_work (work_intend free _)
  · simp only [measure, work, queue, List.length_cons]
    exact Prod.Lex.right _ (Nat.lt_succ_self _)

theorem work_resolve {state next : State} (free : state.intent = none)
    (step : state.resolve = some next) : next.work < state.work := by
  obtain ⟨position, _, rfl⟩ := Option.map_eq_some_iff.mp step
  exact work_intend free _

theorem work_actOnFirst {state next : State} {act : State → Nat → ExecutionNode → State}
    (goesOn : ∀ left position node, left.cells[position]? = some ⟨node, .waiting⟩ →
      (act left position node).work + 2 ≤ left.work)
    (step : state.actOnFirst act = some next) : next.work < state.work := by
  unfold actOnFirst at step
  split at step
  · rename_i position rest _
    obtain ⟨node, waiting, rfl⟩ := Option.map_eq_some_iff.mp step
    exact work_of_freed (goesOn { state with ready := rest, intent := none } position node
      (waiting?_eq_some_iff.mp waiting))
  · cases step

theorem work_act {state next : State} (step : state.act = some next) : next.work < state.work := by
  unfold act at step
  split at step
  · refine work_actOnFirst ?_ step
    intro left position node found
    exact work_setProgress_add left found 2 (by simp [Cell.work, Progress.work])
  · refine work_actOnFirst ?_ step
    intro left position node found
    exact work_setProgress_add left found 2 (by simp [Cell.work, Progress.work])
  · rename_i position status _
    obtain ⟨node, waiting, rfl⟩ := Option.map_eq_some_iff.mp step
    have found := waiting?_eq_some_iff.mp waiting
    exact work_of_freed (work_setProgress_add { state with intent := none } found 2
      (by simp [Cell.work, Progress.work]))
  · rename_i status _
    obtain ⟨position, _, step⟩ := Option.bind_eq_some_iff.mp step
    obtain ⟨node, waiting, rfl⟩ := Option.map_eq_some_iff.mp step
    exact work_setProgress state (waiting?_eq_some_iff.mp waiting)
      (by simp [Cell.work, Progress.work])
  · cases step

theorem work_stopSetup {state : State} (results : List TaskResult) (fatal : Option String)
    (busy : 0 < state.setup.work) : (state.stopSetup results fatal).work < state.work := by
  have stopped : (Setup.stopped results).work = 0 := rfl
  simp only [work, stopSetup, stopped]
  omega

theorem work_issueSetup {state next : State} (step : state.issueSetup = some next) :
    next.work < state.work := by
  unfold issueSetup at step
  split at step
  · rename_i results task rest current
    split at step <;> cases step
    · exact work_stopSetup _ _ (by simp [current, Setup.work])
    · simp only [work, handOver, current, Setup.work, List.length_cons]
      omega
  · rename_i results current
    cases step
    simp only [work, current, Setup.work]
    omega
  · cases step

theorem work_replySetup {state next : State} {outcome : Outcome} (isOpen : state.closed = false)
    (step : state.replySetup outcome = some next) : next.work < state.work := by
  unfold replySetup at step
  split at step
  · rename_i results task rest current
    have busy : 0 < state.setup.work := by simp [current, Setup.work]
    simp only at step
    split at step <;> cases step
    · simp only [work, current, Setup.work]
      omega
    · exact work_stopSetup _ _ busy
    · exact work_stopSetup _ _ busy
    · exact work_stopSetup _ _ busy
    · simp only [work, current, Setup.work, isOpen, Bool.not_false, Bool.not_true,
        Bool.toNat_false, Bool.toNat_true]
      omega
  · cases step

theorem work_startNode {state next : State} {position : Nat}
    (step : state.startNode position = some next) : next.work < state.work := by
  unfold startNode at step
  split at step
  · rename_i node found
    cases step
    exact work_setProgress state found (by simp [Cell.work, Progress.work])
  · cases step

theorem work_issue {state next : State} {position : Nat}
    (step : state.issue position = some next) : next.work < state.work := by
  unfold issue at step
  split at step
  · rename_i node results found
    cases step
    exact work_setProgress state found (by simp [Cell.work, Progress.work])
  · rename_i node results task rest found
    split at step <;> cases step
    · exact work_setProgress state found (by simp [Cell.work, Progress.work])
    · exact work_setProgress state found (by simp [Cell.work, Progress.work]; omega)
  · cases step

theorem work_reply {state next : State} {position : Nat} {outcome : Outcome}
    (step : state.reply position outcome = some next) : next.work < state.work := by
  unfold reply at step
  split at step
  · rename_i node results task rest found
    cases step
    refine work_setProgress state found ?_
    cases Verdict.judge task.kind outcome <;>
      simp [Cell.judged, Cell.fail, Cell.work, Progress.work]
  · cases step

theorem work_collect {state next : State} {position : Nat}
    (step : state.collect position = some next) : next.work < state.work := by
  unfold collect at step
  split at step
  · rename_i node report fatal found
    cases step
    exact work_setProgress { state with fatal := state.fatal <|> fatal } found
      (by simp [Cell.work, Progress.work])
  · cases step

-- No sequence of moves goes on forever.
theorem measure_move? {state next : State} {move : Move} (step : state.move? move = some next) :
    Prod.Lex (· < ·) (· < ·) next.measure state.measure := by
  unfold move? at step
  split at step
  · cases step
  · rename_i isOpen
    have isOpen : state.closed = false := by simpa using isOpen
    cases move with
    | cancel =>
      simp only at step
      split at step
      · cases step
      · rename_i fresh
        cases step
        apply measure_of_work
        have fresh : state.token = false := by simpa using fresh
        simp only [work, fresh, Bool.not_false, Bool.not_true, Bool.toNat_false, Bool.toNat_true]
        omega
    | issueSetup => exact measure_of_work (work_issueSetup step)
    | replySetup outcome => exact measure_of_work (work_replySetup isOpen step)
    | take =>
      simp only at step
      split at step
      · rename_i position rest free queue
        cases step
        exact measure_take free queue
      · cases step
    | act => exact measure_of_work (work_act step)
    | start position => exact measure_of_work (work_startNode step)
    | issue position => exact measure_of_work (work_issue step)
    | reply position outcome => exact measure_of_work (work_reply step)
    | collect position =>
      simp only at step
      split at step
      · exact measure_of_work (work_collect step)
      · cases step
    | resolve =>
      simp only at step
      split at step
      · rename_i able
        exact measure_of_work (work_resolve able.2 step)
      · cases step
    | close =>
      simp only at step
      split at step
      · cases step
        apply measure_of_work
        simp only [work, isOpen, Bool.not_false, Bool.not_true, Bool.toNat_false,
          Bool.toNat_true]
        omega
      · cases step

end State
end SqlPipeline.Run
