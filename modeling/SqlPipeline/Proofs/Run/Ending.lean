import Mathlib.Order.WellFounded
import SqlPipeline.Proofs.Run.Preparation
import SqlPipeline.Run.Schedule

/-!
How runs end. Every move leaves less to be done, so no run goes on forever; and until the report is
put together somebody can go on: the run itself, or the database, which can give any answer to a
statement it was handed. Only a driver that panics on a setup statement ends a run before all nodes
have finished.
-/

namespace SqlPipeline.Run

/-! ## Nothing gets stuck -/

/-- Who can go on in a state without the help of the caller. -/
inductive Turn (state : State) : Prop where
  | own (move : Move) (uncancelled : move ≠ .cancel) (silent : ∀ owner, move.answerTo? owner = none)
      (possible : (state.move? move).isSome = true)
  | setup {results : List TaskResult} {task : Task} {rest : List Task}
      (current : state.setup = .inFlight results task rest)
      (possible : ∀ outcome, (state.move? (.replySetup outcome)).isSome = true)
  | node {position : Nat} {node : ExecutionNode} {results : List TaskResult} {task : Task}
      {rest : List Task} (found : state.cells[position]? = some ⟨node, .inFlight results task rest⟩)
      (possible : ∀ outcome, (state.move? (.reply position outcome)).isSome = true)

section Turns
variable {graph : ExecutionGraph} {moves : List Move} {state : State}

theorem closed_of_lost (run : Trace graph moves state) {message : Option String}
    (lost : state.setup = .lost message) : state.closed = true := by
  induction run with
  | start => cases lost
  | move move _ moved ih =>
    cases step_of_move? moved with
    | setupLost | closed => rfl
    | setupHalted | setupHanded | setupDone | setupPassed | setupFailed => cases lost
    | cancelled | dropped | doomed | admitted | refused | dispatched | started | succeeded | halted
    | handed | replied | collected | resolved | gaveUp => exact ih lost

theorem exists_moving_cell (past : state.setup.isOver = true) (empty : state.ready = [])
    (busy : ¬ state.isIdle = true) :
    ∃ (position : Nat) (cell : Cell),
      state.cells[position]? = some cell ∧ cell.progress.Moving := by
  by_contra none
  apply busy
  apply isIdle_of_cells past empty
  intro cell member
  obtain ⟨position, found⟩ := List.mem_iff_getElem?.mp member
  apply eq_false_of_ne_true
  intro moves
  exact none ⟨position, cell, found, (isBusy_iff cell).mp moves⟩

theorem exists_firstWaiting?
    (waits : state.cells.any (fun cell => cell.progress == .waiting) = true) :
    ∃ position node, state.firstWaiting? = some position ∧
      state.waiting? position = some node := by
  obtain ⟨cell, member, waiting⟩ := List.any_eq_true.mp waits
  obtain ⟨position, found⟩ := List.mem_iff_getElem?.mp member
  have some : state.firstWaiting?.isSome = true := by
    rw [State.firstWaiting?, Option.isSome_map, List.find?_isSome]
    exact ⟨(cell, position), List.mem_zipIdx_iff_getElem?.mpr found, waiting⟩
  obtain ⟨first, same⟩ := Option.isSome_iff_exists.mp some
  obtain ⟨node, stored⟩ := State.waiting_of_firstWaiting? same
  exact ⟨first, node, same, State.waiting?_eq_some_iff.mpr stored⟩

theorem turn_of_setup (run : Trace graph moves state) (isOpen : state.closed = false)
    (going : state.setup.isOver = false) : Turn state := by
  cases current : state.setup with
  | running results rest =>
    refine .own .issueSetup (by simp) (fun _ => rfl) ?_
    cases rest with
    | nil => simp [State.move?, isOpen, State.issueSetup, current]
    | cons task rest =>
      rw [State.move?, if_neg (by simp [isOpen])]
      simp only [State.issueSetup, current]
      split <;> rfl
  | inFlight results task rest =>
    refine .setup current ?_
    intro outcome
    rw [State.move?, if_neg (by simp [isOpen])]
    simp only [State.replySetup, current]
    cases Verdict.judge task.kind outcome <;> rfl
  | passed | stopped => simp [current, Setup.isOver] at going
  | lost message => simp [closed_of_lost run current] at isOpen

-- A node that is under way can always make its next step.
theorem turn_of_moving (isOpen : state.closed = false) (empty : state.ready = []) {position : Nat}
    {cell : Cell} (found : state.cells[position]? = some cell) (moving : cell.progress.Moving) :
    Turn state := by
  obtain ⟨node, progress⟩ := cell
  cases progress with
  | waiting => exact absurd rfl moving.1
  | finished report => exact absurd rfl (moving.2 report)
  | dispatched =>
    refine .own (.start position) (by simp) (fun _ => rfl) ?_
    simp [State.move?, isOpen, State.startNode, found]
  | running results rest =>
    refine .own (.issue position) (by simp) (fun _ => rfl) ?_
    cases rest with
    | nil => simp [State.move?, isOpen, State.issue, found]
    | cons task rest =>
      rw [State.move?, if_neg (by simp [isOpen])]
      simp only [State.issue, found]
      split <;> rfl
  | inFlight results task rest =>
    refine .node found ?_
    intro outcome
    simp [State.move?, isOpen, State.reply, found]
  | ended report fatal =>
    refine .own (.collect position) (by simp) (fun _ => rfl) ?_
    simp [State.move?, isOpen, State.collect, found, empty]

theorem turn_of_act (isOpen : state.closed = false) (possible : state.act.isSome = true) :
    Turn state := by
  refine .own .act (by simp) (fun _ => rfl) ?_
  simpa [State.move?, isOpen] using possible

theorem turn_of_close (isOpen : state.closed = false) (idle : state.isIdle = true)
    (settled : ¬ state.cells.any (fun cell => cell.progress == .waiting) = true) : Turn state := by
  refine .own .close (by simp) (fun _ => rfl) ?_
  simp [State.move?, isOpen, idle, settled]

theorem exists_actOnFirst {node : ExecutionNode} (first : state.First node)
    (act : State → Nat → ExecutionNode → State) : (state.actOnFirst act).isSome = true := by
  obtain ⟨position, rest, queue, found⟩ := first
  simp [State.actOnFirst, queue, State.waiting?_eq_some_iff.mpr found]

-- What the coordinator is about to do it can do.
theorem turn_of_intent (isOpen : state.closed = false) {intent : Intent}
    (meant : state.intent = some intent) (backs : state.Backs intent) : Turn state := by
  cases intent with
  | dispatch =>
    obtain ⟨node, first, _⟩ := backs
    refine turn_of_act isOpen ?_
    rw [State.act, meant]
    exact exists_actOnFirst first _
  | refuse status =>
    obtain ⟨node, first, _⟩ := backs
    refine turn_of_act isOpen ?_
    rw [State.act, meant]
    exact exists_actOnFirst first _
  | giveUp position status =>
    obtain ⟨_, _, _, node, found⟩ := backs
    refine turn_of_act isOpen ?_
    simp [State.act, meant, State.waiting?_eq_some_iff.mpr found]
  | giveUpAll status =>
    by_cases waits : state.cells.any (fun cell => cell.progress == .waiting) = true
    · obtain ⟨position, node, first, found⟩ := exists_firstWaiting? waits
      refine turn_of_act isOpen ?_
      simp [State.act, meant, first, found]
    · exact turn_of_close isOpen backs.1 waits

-- Without anything in mind the coordinator looks at what there is to do.
theorem turn_of_free (isOpen : state.closed = false) (past : state.setup.isOver = true)
    (free : state.intent = none) : Turn state := by
  by_cases empty : state.ready = []
  · by_cases idle : state.isIdle = true
    · by_cases waits : state.cells.any (fun cell => cell.progress == .waiting) = true
      · obtain ⟨position, _, first, _⟩ := exists_firstWaiting? waits
        refine .own .resolve (by simp) (fun _ => rfl) ?_
        simp [State.move?, isOpen, idle, free, State.resolve, first]
      · exact turn_of_close isOpen idle waits
    · obtain ⟨position, cell, found, moving⟩ := exists_moving_cell past empty idle
      exact turn_of_moving isOpen empty found moving
  · refine .own .take (by simp) (fun _ => rfl) ?_
    obtain ⟨position, rest, queue⟩ := List.exists_cons_of_ne_nil empty
    simp [State.move?, isOpen, free, queue]

theorem turn_of_trace (run : Trace graph moves state) (isOpen : state.closed = false) :
    Turn state := by
  by_cases past : state.setup.isOver = true
  · cases meant : state.intent with
    | none => exact turn_of_free isOpen past meant
    | some intent => exact turn_of_intent isOpen meant (backed_of_trace run intent meant)
  · exact turn_of_setup run isOpen (eq_false_of_ne_true past)

end Turns

/-! ## Every run comes to its end -/

theorem not_endless (run : Nat → State) :
    ¬ ∀ time, ∃ move, (run time).move? move = some (run (time + 1)) := by
  intro endless
  obtain ⟨time, stays⟩ := WellFounded.not_rel_apply_succ (r := Prod.Lex (· < ·) (· < ·))
    fun time => (run time).measure
  obtain ⟨move, moved⟩ := endless time
  exact stays (State.measure_move? moved)

/-- The answers are those of a script, which has one for every statement by the place it takes among
those of its owner. -/
def Follows (script : Option Nat → Nat → Outcome) (moves : List Move) : Prop :=
  ∀ owner index outcome, (answersTo owner moves)[index]? = some outcome →
    outcome = script owner index

section Ends
variable {graph : ExecutionGraph} {script : Option Nat → Nat → Outcome} {moves : List Move}
  {state : State}

theorem Follows.silent (follows : Follows script moves) {move : Move}
    (silent : ∀ owner, move.answerTo? owner = none) : Follows script (moves ++ [move]) := by
  intro owner index outcome found
  rw [answersTo_append, silent, Option.toList_none, List.append_nil] at found
  exact follows owner index outcome found

theorem Follows.answer (follows : Follows script moves) {move : Move} (owner : Option Nat)
    (own : move.answerTo? owner = some (script owner (answersTo owner moves).length))
    (others : ∀ other, other ≠ owner → move.answerTo? other = none) :
    Follows script (moves ++ [move]) := by
  intro other index outcome found
  by_cases same : other = owner
  · subst same
    rcases answersTo_cases own found with earlier | ⟨rfl, rfl⟩
    · exact follows other index outcome earlier
    · rfl
  · rw [answersTo_append, others other same, Option.toList_none, List.append_nil] at found
    exact follows other index outcome found

theorem Follows.exists_move (run : Trace graph moves state) (follows : Follows script moves)
    (isOpen : state.closed = false) :
    ∃ move, move ≠ .cancel ∧ (state.move? move).isSome = true ∧
      Follows script (moves ++ [move]) := by
  cases turn_of_trace run isOpen with
  | own move uncancelled silent possible =>
    exact ⟨move, uncancelled, possible, follows.silent silent⟩
  | setup _ possible =>
    refine ⟨.replySetup (script none (answersTo none moves).length), by simp, possible _,
      follows.answer none rfl ?_⟩
    intro other different
    exact if_neg different
  | @node position _ _ _ _ _ possible =>
    refine ⟨.reply position (script (some position) (answersTo (some position) moves).length),
      by simp, possible _, follows.answer (some position) (if_pos rfl) ?_⟩
    intro other different
    exact if_neg different

end Ends

theorem Follows.exists_end {graph : ExecutionGraph} {script : Option Nat → Nat → Outcome}
    {moves : List Move} {state : State} (run : Trace graph moves state)
    (follows : Follows script moves) :
    ∃ rest ending, .cancel ∉ rest ∧ Trace graph (moves ++ rest) ending ∧
      Follows script (moves ++ rest) ∧ ending.closed = true := by
  by_cases past : state.closed = true
  · exact ⟨[], state, by simp, by simpa using run, by simpa using follows, past⟩
  · obtain ⟨move, uncancelled, possible, further⟩ :=
      follows.exists_move run (eq_false_of_ne_true past)
    obtain ⟨next, moved⟩ := Option.isSome_iff_exists.mp possible
    obtain ⟨rest, ending, calm, ended, whole, closed⟩ := further.exists_end (run.move move moved)
    rw [List.append_assoc] at ended whole
    refine ⟨_, ending, ?_, ended, whole, closed⟩
    simpa [Ne.symm uncancelled] using calm
termination_by state.measure
decreasing_by exact State.measure_move? moved

/-! ## What stands at the end -/

section Closed
variable {graph : ExecutionGraph} {moves : List Move} {state : State}

theorem judge_eq_panicked_iff {kind : TaskKind} {outcome : Outcome} {message : Option String} :
    Verdict.judge kind outcome = .panicked message ↔ outcome = .panic message := by
  cases outcome with
  | panic other => simp [Verdict.judge]
  | rows result =>
    simp only [Verdict.judge, Verdict.ofRows, reduceCtorEq, iff_false]
    cases kind <;> grind
  | error error => cases error <;> simp [Verdict.judge, Verdict.ofError]

theorem Pass.not_panic {tasks : List Task} {outcomes : List Outcome} (pass : Pass tasks outcomes)
    (message : Option String) : .panic message ∉ outcomes := by
  induction pass with
  | nil => exact List.not_mem_nil
  | cons passed _ ih =>
    intro member
    rcases List.mem_cons.mp member with rfl | later
    · cases passed
    · exact ih later

-- The setup is lost to a panic, and to nothing else.
theorem lost_iff_panic (run : Trace graph moves state) (message : Option String) :
    state.setup = .lost message ↔ .panic message ∈ answersTo none moves := by
  have accounts := setupAccounts_of_trace run
  generalize state.setup = setup at accounts ⊢
  generalize state.handedTo none = handed at accounts
  generalize answersTo none moves = outcomes at accounts ⊢
  cases accounts with
  | running _ pass | inFlight _ pass | halted _ pass | passed pass => simp [pass.not_panic]
  | failed _ pass fails =>
    simp only [reduceCtorEq, List.mem_append, pass.not_panic, List.mem_singleton, false_or,
      false_iff]
    rintro rfl
    simp [Verdict.judge] at fails
  | lost _ pass panics =>
    simp [pass.not_panic, judge_eq_panicked_iff.mp panics, eq_comm]

theorem present_iff (run : Trace graph moves state) :
    (∀ message, state.setup ≠ .lost message) ↔
      ∀ message, .panic message ∉ answersTo none moves :=
  forall_congr' fun message => not_congr (lost_iff_panic run message)

theorem idle_of_closed (run : Trace graph moves state)
    (present : ∀ message, state.setup ≠ .lost message) (closed : state.closed = true) :
    state.isIdle = true ∧ ∀ cell ∈ state.cells, cell.progress ≠ .waiting := by
  cases run with
  | start => cases closed
  | @move _ before _ move run moved =>
    have isOpen := open_of_move? moved
    cases step_of_move? moved with
    | closed idle settled => exact ⟨idle, settled⟩
    | setupLost => exact absurd rfl (present _)
    | cancelled | setupHalted | setupHanded | setupDone | setupPassed | setupFailed | dropped
    | doomed | admitted | refused | dispatched | started | succeeded | halted | handed | replied
    | collected | resolved | gaveUp =>
      have closed : before.closed = true := closed
      rw [isOpen] at closed
      cases closed

theorem settled_of_closed (run : Trace graph moves state)
    (present : ∀ message, state.setup ≠ .lost message) (closed : state.closed = true) {cell : Cell}
    (member : cell ∈ state.cells) : ∃ report, cell.progress = .finished report := by
  obtain ⟨idle, settled⟩ := idle_of_closed run present closed
  have still : ¬ cell.progress.Moving := by
    rw [← isBusy_iff, not_busy_of_isIdle idle member]
    simp
  by_contra unfinished
  push Not at unfinished
  exact still ⟨settled cell member, unfinished⟩

-- Nobody is under way any more in a run that is over, unless the setup was lost and nobody began.
theorem open_of_moving (run : Trace graph moves state) {position : Nat} {node : ExecutionNode}
    {progress : Progress} (found : state.cells[position]? = some ⟨node, progress⟩)
    (moving : progress.Moving) : state.closed = false := by
  apply eq_false_of_ne_true
  intro closed
  by_cases present : ∀ message, state.setup ≠ .lost message
  · obtain ⟨report, past⟩ :=
      settled_of_closed run present closed (List.mem_of_getElem? found)
    exact moving.2 report past
  · push Not at present
    obtain ⟨_, lost⟩ := present
    have untouched := untouched_of_trace run (by simp [lost, Setup.isOver])
    exact untouched.not_found moving.1 found

theorem exists_report_of_closed (run : Trace graph moves state)
    (present : ∀ message, state.setup ≠ .lost message) (closed : state.closed = true)
    {position : Nat} {node : ExecutionNode} (known : graph.nodes[position]? = some node) :
    ∃ report, state.cells[position]? = some ⟨node, .finished report⟩ := by
  obtain ⟨progress, found⟩ := found_of_known (nodes_of_trace run) known
  obtain ⟨report, past⟩ := settled_of_closed run present closed (List.mem_of_getElem? found)
  exact ⟨report, found.trans (congrArg some (congrArg (Cell.mk node) past))⟩

theorem result_of_present (present : ∀ message, state.setup ≠ .lost message) :
    state.result = .ok state.report := by
  unfold State.result
  split
  · rename_i lost
    exact absurd lost (present _)
  · rfl

theorem nodes_report_of_finished {position : Nat} {node : ExecutionNode} {report : NodeReport}
    (past : state.cells[position]? = some ⟨node, .finished report⟩) :
    state.report.nodes[position]? = some report := by
  simp [State.report, past, Cell.report, Cell.report?]

end Closed
end SqlPipeline.Run
