import SqlPipeline.Proofs.Run.Alarm
import SqlPipeline.Proofs.Run.Chronology
import SqlPipeline.Proofs.Run.Loss

/-!
Aborted runs. A run that nobody cancels is reported as aborted exactly when an answer showed the
database lost. Once the run has been told of the loss nothing follows: no statement, no node, and
whatever had not been dispatched is skipped. No other failure makes the run an error to its callers,
but for a driver that panics in the setup.
-/

namespace SqlPipeline.Run

/-! ## What callers are told -/

section Conclusion
variable {graph : ExecutionGraph} {moves : List Move} {state : State}

theorem present_of_fatal (run : Trace graph moves state) (told : state.fatal.isSome = true)
    (message : Option String) : state.setup ≠ .lost message := by
  intro lost
  have past := isOver_of_fatal run told
  simp [lost, Setup.isOver] at past

theorem conclusion_of_fatal (run : Trace graph moves state) {reason : String}
    (told : state.fatal = some reason) :
    state.conclusion = .error (.aborted reason state.report) := by
  have present := present_of_fatal run (told ▸ Option.isSome_some)
  have shown : state.report.fatal = some reason := told
  simp only [State.conclusion, result_of_present present, shown]

theorem conclusion_of_sound (sound : state.fatal = none)
    (present : ∀ message, state.setup ≠ .lost message) : state.conclusion = .ok state.report := by
  have shown : state.report.fatal = none := sound
  simp only [State.conclusion, result_of_present present, shown]

theorem conclusion_of_lost {message : Option String} (lost : state.setup = .lost message) :
    state.conclusion = .error (.lost ⟨message⟩) := by
  simp only [State.conclusion, State.result, lost]

theorem conclusion_eq_aborted_iff (run : Trace graph moves state) {reason : String}
    {report : Report} :
    state.conclusion = .error (.aborted reason report) ↔
      state.fatal = some reason ∧ report = state.report := by
  constructor
  · intro aborted
    cases told : state.fatal with
    | some other =>
      rw [conclusion_of_fatal run told] at aborted
      cases aborted
      exact ⟨rfl, rfl⟩
    | none =>
      by_cases present : ∀ message, state.setup ≠ .lost message
      · rw [conclusion_of_sound told present] at aborted
        cases aborted
      · push Not at present
        obtain ⟨message, lost⟩ := present
        rw [conclusion_of_lost lost] at aborted
        cases aborted
  · rintro ⟨told, rfl⟩
    exact conclusion_of_fatal run told

theorem conclusion_eq_ok_iff (run : Trace graph moves state) :
    (∃ report, state.conclusion = .ok report) ↔
      state.fatal = none ∧ ∀ message, state.setup ≠ .lost message := by
  constructor
  · rintro ⟨report, good⟩
    constructor
    · by_contra told
      obtain ⟨reason, told⟩ := Option.ne_none_iff_exists'.mp told
      rw [conclusion_of_fatal run told] at good
      cases good
    · intro message lost
      rw [conclusion_of_lost lost] at good
      cases good
  · rintro ⟨sound, present⟩
    exact ⟨_, conclusion_of_sound sound present⟩

end Conclusion

/-- What callers are told at the end of a run that nobody cancelled. -/
structure Concludes (moves : List Move) (state : State) : Prop where
  aborted : (∃ reason report, state.conclusion = .error (.aborted reason report)) ↔ Lossy moves
  reason : ∀ reason report, state.conclusion = .error (.aborted reason report) →
    (∃ owner, ∃ outcome ∈ answersTo owner moves, outcome.Loses reason) ∧
      report.fatal = some reason ∧ report.ok = false ∧ report.cancelled = false ∧
      report = state.report

section Concludes
variable {graph : ExecutionGraph} {moves : List Move} {state : State}

theorem concludes_of_closed (run : Trace graph moves state) (calm : .cancel ∉ moves)
    (closed : state.closed = true) : Concludes moves state := by
  constructor
  · rw [← fatal_iff_lossy run closed, Option.isSome_iff_exists]
    constructor
    · rintro ⟨reason, report, aborted⟩
      exact ⟨reason, ((conclusion_eq_aborted_iff run).mp aborted).1⟩
    · rintro ⟨reason, told⟩
      exact ⟨reason, _, conclusion_of_fatal run told⟩
  · intro reason report aborted
    obtain ⟨told, rfl⟩ := (conclusion_eq_aborted_iff run).mp aborted
    refine ⟨loses_of_fatal run told, told, ?_, ?_, rfl⟩
    · simp [State.report, told]
    · simp [State.report, told, silent_of_calm run calm]

theorem unhanded_of_setup_loss (run : Trace graph moves state) {outcome : Outcome}
    {message : String} (member : outcome ∈ answersTo none moves) (loses : outcome.Loses message)
    {handover : Handover} (handed : handover ∈ state.handovers) : handover.node = none := by
  cases owner : handover.node with
  | none => rfl
  | some position =>
    obtain ⟨_, pass⟩ := setup_pass_of_trace run (passed_of_handed run handed owner)
    exact absurd loses (pass.not_loses member message)

end Concludes

/-! ## What follows the loss -/

/-- Nothing is begun after a moment; whatever had not been dispatched by then is skipped. -/
structure GivesUp (graph : ExecutionGraph) (before : List Move) (alarm : State)
    (moves : List Move) (state : State) : Prop where
  handovers : state.handovers = alarm.handovers
  dispatched : ∀ position, Dispatched graph moves position → Dispatched graph before position
  skipped : state.closed = true → ∀ position node, graph.nodes[position]? = some node →
    ¬ Dispatched graph before position →
      state.report.nodes[position]? = some (.notRun node.name .skipped)

section GivesUp
variable {graph : ExecutionGraph} {before after : List Move} {alarm state : State}

theorem stopped_of_fatal (run : Trace graph before alarm) (told : alarm.fatal.isSome = true)
    (whole : Trace graph (before ++ after) state) (calm : .cancel ∉ before ++ after) :
    Stopped alarm state := by
  refine stopped_of_moves (.refl ?_) run (run.rest whole) (Or.inr ?_)
  · simp [State.aborted, told]
  · exact fun member => calm (List.mem_append_right _ member)

-- The coordinator means to dispatch nothing when the database is lost, and nobody has cancelled.
theorem lot_of_fatal (run : Trace graph before alarm) (told : alarm.fatal.isSome = true)
    (calm : .cancel ∉ before) (position : Nat) : alarm.lot position = .finished .skipped := by
  have silent := silent_of_calm run calm
  have backed := backed_of_trace run
  cases meant : alarm.lot? position with
  | none => rw [lot_of_none meant, leftOver_of_silent silent]
  | some lot =>
    rw [lot_of_some meant]
    cases lot with
    | finished status => rw [status_of_lot? backed silent meant]
    | dispatched =>
      obtain ⟨_, _, sound, _⟩ := backed _ (intent_of_dispatched meant)
      rw [sound] at told
      cases told

theorem dispatched_before (run : Trace graph before alarm) (told : alarm.fatal.isSome = true)
    (calm : .cancel ∉ before ++ after) {position : Nat}
    (dispatched : Dispatched graph (before ++ after) position) :
    Dispatched graph before position := by
  obtain ⟨first, last, state, split, part, found⟩ := dispatched
  rcases List.append_eq_append_iff.mp split with ⟨between, rfl, rfl⟩ | ⟨between, rfl, _⟩
  · -- The node was dispatched after the alarm at most if it was dispatched at it already.
    have calm : .cancel ∉ before ++ between := by
      rw [← List.append_assoc] at calm
      exact fun member => calm (List.mem_append_left _ member)
    have stopped := stopped_of_fatal run told part calm
    obtain ⟨old, stored⟩ := found_of_known (nodes_of_trace run)
      (List.getElem?_eq_getElem (inside_of_progress? (nodes_of_trace part) found))
    obtain ⟨new, later, winds⟩ := stopped.nodes position _ old stored
    rw [state.progress?_of_getElem? later, Option.some.injEq] at found
    have found : new = .dispatched := found
    subst found
    have calmBefore : .cancel ∉ before := fun member => calm (List.mem_append_left _ member)
    rw [lot_of_fatal run told calmBefore] at winds
    have same := not_winds_dispatched winds
    subst same
    exact ⟨before, [], alarm, (List.append_nil _).symm, run, alarm.progress?_of_getElem? stored⟩
  · exact ⟨first, between, state, rfl, part, found⟩

theorem givesUp_of_fatal (run : Trace graph before alarm) (told : alarm.fatal.isSome = true)
    (whole : Trace graph (before ++ after) state) (calm : .cancel ∉ before ++ after) :
    GivesUp graph before alarm (before ++ after) state := by
  have stopped := stopped_of_fatal run told whole calm
  have calmBefore : .cancel ∉ before := fun member => calm (List.mem_append_left _ member)
  refine ⟨stopped.handovers, fun _ => dispatched_before run told calm, ?_⟩
  intro closed position node known never
  obtain ⟨old, found⟩ := found_of_known (nodes_of_trace run) known
  obtain ⟨new, stored, winds⟩ := stopped.nodes position node old found
  have still : state.fatal.isSome = true := by
    have aborted := stopped.aborted
    rwa [State.aborted, silent_of_calm whole calm, Bool.false_or] at aborted
  have present := present_of_fatal whole still
  obtain ⟨report, past⟩ := exists_report_of_closed whole present closed known
  cases stored.symm.trans past
  rw [nodes_report_of_finished stored]
  rcases spared_of_trace run calmBefore never node old found with rfl | rfl
  · rw [lot_of_fatal run told calmBefore] at winds
    rw [report_of_waiting winds]
  · cases eq_of_finished_winds winds
    rfl

end GivesUp

-- A panic of the driver in the setup is the only other way to an error.
theorem aborted_by_loss {graph : ExecutionGraph} {moves : List Move} {state : State}
    (run : Trace graph moves state) (calm : .cancel ∉ moves) :
    (state.closed = true → Concludes moves state) ∧
    (state.closed = true → (∀ message, .panic message ∉ answersTo none moves) →
      ((∃ report, state.conclusion = .ok report) ↔ ¬ Lossy moves)) ∧
    (∀ message, .panic message ∈ answersTo none moves →
      state.conclusion = .error (.lost ⟨message⟩)) ∧
    (∀ outcome message, outcome ∈ answersTo none moves → outcome.Loses message →
      ∀ handover ∈ state.handovers, handover.node = none) ∧
    ∀ before after alarm, moves = before ++ after → Trace graph before alarm →
      alarm.fatal.isSome = true → GivesUp graph before alarm moves state := by
  refine ⟨concludes_of_closed run calm, ?_, ?_, ?_, ?_⟩
  · intro closed sane
    rw [conclusion_eq_ok_iff run, and_iff_left ((present_iff run).mpr sane),
      ← fatal_iff_lossy run closed]
    simp
  · intro message panics
    exact conclusion_of_lost ((lost_iff_panic run message).mpr panics)
  · intro outcome message member loses handover
    exact unhanded_of_setup_loss run member loses
  · rintro before after alarm rfl first told
    exact givesUp_of_fatal first told run calm

-- Two nodes side by side, and one that waits for both.
def fork : ExecutionGraph where
  config := .standard
  runConfig := .standard
  warehouse := .duckdb
  setup := []
  nodes :=
    [⟨⟨"left", by decide⟩, .operation, none, [], [], [.plain "insert"], .pending⟩,
      ⟨⟨"right", by decide⟩, .operation, none, [], [], [.plain "drop", .plain "create"], .pending⟩,
      ⟨⟨"join", by decide⟩, .operation, none, ["left", "right"], [], [.plain "select"], .pending⟩]

-- Both are at work when the left one loses the connection, and the run is told.
def forkBefore : List Move :=
  [.issueSetup, .take, .act, .take, .act, .start 0, .start 1, .issue 0, .issue 1,
    .reply 0 (.error (.connection "gone")), .collect 0]

-- The right one is stopped between its statements; the node that waits is taken and skipped.
def forkAfter : List Move :=
  [.reply 1 (.rows Rows.empty), .issue 1, .collect 1, .take, .act, .close]

example :
    ((start fork).moves? (forkBefore ++ forkAfter)).map
        (fun state => (state.report.cancelled, state.report.nodes.map NodeReport.status)) =
      some (false, [.failed, .cancelled, .skipped]) := by decide

theorem fork_aborted :
    ∃ alarm state, Trace fork forkBefore alarm ∧ alarm.fatal.isSome = true ∧
      Trace fork (forkBefore ++ forkAfter) state ∧ state.closed = true ∧
      Lossy (forkBefore ++ forkAfter) ∧ Concludes (forkBefore ++ forkAfter) state ∧
      ((∃ report, state.conclusion = .ok report) ↔ ¬ Lossy (forkBefore ++ forkAfter)) ∧
      GivesUp fork forkBefore alarm (forkBefore ++ forkAfter) state := by
  obtain ⟨alarm, reached⟩ := Option.isSome_iff_exists.mp
    (show ((start fork).moves? forkBefore).isSome = true by decide)
  obtain ⟨state, ended⟩ := Option.isSome_iff_exists.mp
    (show ((start fork).moves? (forkBefore ++ forkAfter)).isSome = true by decide)
  have told : alarm.fatal.isSome = true := by
    cases reached
    rfl
  have closed : state.closed = true := by
    cases ended
    rfl
  have calm : .cancel ∉ forkBefore ++ forkAfter := by simp [forkBefore, forkAfter]
  have lossy : Lossy (forkBefore ++ forkAfter) :=
    ⟨some 0, .error (.connection "gone"), by simp [answersTo, forkBefore, Move.answerTo?], _,
      _, rfl, rfl, rfl⟩
  have first := trace_of_moves? reached
  have run := trace_of_moves? ended
  have sane : ∀ message, .panic message ∉ answersTo none (forkBefore ++ forkAfter) := by
    simp [answersTo, forkBefore, forkAfter, Move.answerTo?]
  obtain ⟨concludes, good, _, _, later⟩ := aborted_by_loss run calm
  exact ⟨alarm, state, first, told, run, closed, lossy, concludes closed, good closed sane,
    later forkBefore forkAfter alarm rfl first told⟩

-- A setup of one statement, on which the driver panics.
def single : ExecutionGraph where
  config := .standard
  runConfig := .standard
  warehouse := .duckdb
  setup := [.plain "create schema weft"]
  nodes := [⟨⟨"a", by decide⟩, .operation, none, [], [], [.plain "run a"], .pending⟩]

def singleMoves : List Move := [.issueSetup, .replySetup (.panic (some "driver crashed"))]

theorem error_of_setup_panic :
    ¬ ∀ (graph : ExecutionGraph) (moves : List Move) (state : State), Trace graph moves state →
      .cancel ∉ moves → state.closed = true → ¬ Lossy moves →
        ∃ report, state.conclusion = .ok report := by
  intro always
  obtain ⟨state, reached⟩ := Option.isSome_iff_exists.mp
    (show ((start single).moves? singleMoves).isSome = true by decide)
  have run := trace_of_moves? reached
  have closed : state.closed = true := by
    cases reached
    rfl
  have sound : state.fatal = none := by
    cases reached
    rfl
  have unharmed : ¬ Lossy singleMoves := by
    rw [← fatal_iff_lossy run closed, sound]
    simp
  obtain ⟨report, good⟩ := always single _ state run (by simp [singleMoves]) closed unharmed
  cases reached
  cases good

end SqlPipeline.Run
