import SqlPipeline.Proofs.Run.Alarm
import SqlPipeline.Proofs.Run.Report

/-!
Cancellation. When the caller cancels, no statement follows. Nodes that were not dispatched come to
nothing; of the others only a statement that is with the database can still decide. Nothing that was
left undone is called skipped, and the report tells that the run was cancelled. All this holds of
the nodes about which the coordinator had not made up its mind by then.
-/

namespace SqlPipeline.Run

section Cancelled
variable {graph : ExecutionGraph} {moves rest : List Move} {before fired state : State}

theorem cancelled_of_move? (cancels : before.move? .cancel = some fired) :
    before.token = false ∧ fired = { before with token := true } := by
  cases step_of_move? cancels with
  | cancelled silent => exact ⟨silent, rfl⟩

theorem stopped_of_cancel (run : Trace graph moves before)
    (cancels : before.move? .cancel = some fired) (later : fired.moves? rest = some state) :
    Stopped fired state := by
  obtain ⟨_, rfl⟩ := cancelled_of_move? cancels
  exact stopped_of_moves (.refl rfl) (run.move .cancel cancels) later (Or.inl rfl)

theorem waiting_of_not_dispatched (run : Trace graph moves before) (silent : before.token = false)
    {position : Nat} (never : ¬ Dispatched graph moves position) {node : ExecutionNode}
    {progress : Progress} (found : before.cells[position]? = some ⟨node, progress⟩)
    (unfinished : ∀ report, progress ≠ .finished report) : progress = .waiting := by
  have calm : .cancel ∉ moves := by
    rw [← token_iff_cancel run, silent]
    simp
  exact (spared_of_trace run calm never node progress found).resolve_right (unfinished _)

-- The answer to a statement that was with the database is the only one that can still fail a node.
theorem status_of_winds {node : ExecutionNode} {progress : Progress} {lot : Lot}
    {report : NodeReport} (winds : Winds node lot progress (.finished report))
    (unfinished : ∀ report, progress ≠ .finished report)
    (drawn : ∀ status, progress = .waiting → lot = .finished status → status = .cancelled) :
    (report.status = .succeeded ∨ report.status = .cancelled) ∨
      (∃ results task rest outcome fatal, progress = .inFlight results task rest ∧
        Cell.judged ⟨node, progress⟩ results task rest (Verdict.judge task.kind outcome) =
          .ended report fatal) ∨
      ∃ fatal, progress = .ended report fatal := by
  cases progress with
  | waiting =>
    cases lot with
    | finished status =>
      rw [report_of_waiting winds]
      exact Or.inl (Or.inr (drawn status rfl rfl))
    | dispatched =>
      rw [report_of_late winds]
      exact Or.inl (status_of_interrupted _ _ _)
  | dispatched =>
    rw [report_of_dispatched winds]
    exact Or.inl (status_of_interrupted _ _ _)
  | running results rest =>
    rw [report_of_running winds]
    exact Or.inl (status_of_interrupted _ _ _)
  | inFlight results task rest =>
    rcases judged_of_inFlight winds with well | ⟨outcome, fatal, verdict⟩
    · exact Or.inl well
    · exact Or.inr (Or.inl ⟨results, task, rest, outcome, fatal, rfl, verdict⟩)
  | ended ended fatal =>
    rw [report_of_ended winds]
    exact Or.inr (Or.inr ⟨fatal, rfl⟩)
  | finished report => exact absurd rfl (unfinished report)

end Cancelled

/-- How a node ends that had not finished when the caller cancelled: as cancelled, or in success
with nothing left to hand over, or in failure by a statement that was then with the database or had
failed already. -/
structure WoundUp (node : ExecutionNode) (progress : Progress) (handed : List String)
    (report : NodeReport) : Prop where
  name : report.name = node.name
  status : report.status = .cancelled ∨
    report.status = .succeeded ∧ handed = node.tasks.map Task.statement ∨
    report.status = .failed ∧
      ((∃ results task rest outcome fatal, progress = .inFlight results task rest ∧
        Cell.judged ⟨node, progress⟩ results task rest (Verdict.judge task.kind outcome) =
          .ended report fatal) ∨
        ∃ fatal, progress = .ended report fatal)

theorem woundUp_of_winds {graph : ExecutionGraph} {moves : List Move} {before : State}
    (run : Trace graph moves before) {position : Nat} {node : ExecutionNode} {progress : Progress}
    (found : before.cells[position]? = some ⟨node, progress⟩)
    (unfinished : ∀ report, progress ≠ .finished report) {lot : Lot} {report : NodeReport}
    (winds : Winds node lot progress (.finished report))
    (drawn : ∀ status, progress = .waiting → lot = .finished status → status = .cancelled)
    {handed : List String} {outcomes : List Outcome}
    (accounts : Accounts node (.finished report) handed outcomes) :
    WoundUp node progress handed report := by
  refine ⟨accounts.name, ?_⟩
  rcases status_of_winds winds unfinished drawn with (well | cancelled) | decided
  · exact Or.inr (Or.inl ⟨well, (accounts.pass_of_succeeded well).1⟩)
  · exact Or.inl cancelled
  · rcases accounts.final with well | failed | cancelled | skipped
    · exact Or.inr (Or.inl ⟨well, (accounts.pass_of_succeeded well).1⟩)
    · exact Or.inr (Or.inr ⟨failed, decided⟩)
    · exact Or.inl cancelled
    · rcases decided with ⟨_, _, _, _, _, _, verdict⟩ | ⟨fatal, rfl⟩
      · have ill := (not_passed_of_judged verdict).2
        simp [skipped] at ill
      · cases recorded_of_trace run position node _ found with
        | ended ends =>
          have status := ends.status
          simp [skipped] at status

/-- The end of a node that had not finished when the caller cancelled. A node that the coordinator
was about to dispatch is dispatched, and one that it was about to finish is finished as it was meant
to be. -/
structure Parts (graph : ExecutionGraph) (moves : List Move) (before : State) (position : Nat)
    (node : ExecutionNode) (progress : Progress) (report : NodeReport) : Prop where
  woundUp : (∀ status, before.lot? position ≠ some (.finished status)) →
    WoundUp node progress (before.handedTo (some position)) report
  spared : before.lot? position = none → ¬ Dispatched graph moves position →
    report = .notRun node.name .cancelled
  late : before.lot? position = some .dispatched → report = Interrupted node [] node.tasks
  meant : ∀ status, before.lot? position = some (.finished status) →
    status = .skipped ∧ report = .notRun node.name .skipped

section Ends
variable {graph : ExecutionGraph} {moves rest : List Move} {before fired state : State}
  {position : Nat}

-- The cancellation itself changes no mind, and it decides about all that nobody has in mind.
theorem lot_of_cancel (cancels : before.move? .cancel = some fired) (position : Nat) :
    fired.lot position = (before.lot? position).getD (.finished .cancelled) := by
  obtain ⟨_, rfl⟩ := cancelled_of_move? cancels
  rfl

theorem parts_of_winds (run : Trace graph moves before) (silent : before.token = false)
    {node : ExecutionNode} {progress : Progress}
    (found : before.cells[position]? = some ⟨node, progress⟩)
    (unfinished : ∀ report, progress ≠ .finished report) {report : NodeReport}
    (winds : Winds node ((before.lot? position).getD (.finished .cancelled)) progress
      (.finished report)) {outcomes : List Outcome}
    (accounts : Accounts node (.finished report) (before.handedTo (some position)) outcomes) :
    Parts graph moves before position node progress report := by
  have backed := backed_of_trace run
  constructor
  · intro undecided
    refine woundUp_of_winds run found unfinished winds ?_ accounts
    intro status _ drawn
    cases meant : before.lot? position with
    | none =>
      rw [meant] at drawn
      cases drawn
      rfl
    | some lot =>
      rw [meant] at drawn
      exact absurd (meant.trans (congrArg some drawn)) (undecided status)
  · intro free never
    have waiting := waiting_of_not_dispatched run silent never found unfinished
    subst waiting
    rw [free] at winds
    exact report_of_waiting winds
  · intro meant
    have waiting := waiting_of_lot? backed meant found unfinished
    subst waiting
    rw [meant] at winds
    exact report_of_late winds
  · intro status meant
    have waiting := waiting_of_lot? backed meant found unfinished
    subst waiting
    have skipped := status_of_lot? backed silent meant
    subst skipped
    rw [meant] at winds
    exact ⟨rfl, report_of_waiting winds⟩

theorem parts_of_closed (run : Trace graph moves before)
    (cancels : before.move? .cancel = some fired) (later : fired.moves? rest = some state)
    (present : ∀ message, state.setup ≠ .lost message) (closed : state.closed = true)
    {node : ExecutionNode} {progress : Progress}
    (found : before.cells[position]? = some ⟨node, progress⟩)
    (unfinished : ∀ report, progress ≠ .finished report) :
    ∃ report, state.report.nodes[position]? = some report ∧
      Parts graph moves before position node progress report := by
  have whole := (run.move .cancel cancels).extend later
  have stopped := stopped_of_cancel run cancels later
  obtain ⟨silent, same⟩ := cancelled_of_move? cancels
  obtain ⟨new, stored, winds⟩ := stopped.nodes position node progress (same ▸ found)
  obtain ⟨report, past⟩ := exists_report_of_closed whole present closed
    (known_of_found (nodes_of_trace run) found)
  cases stored.symm.trans past
  have accounts := recorded_of_trace whole position node _ stored
  have handed : state.handedTo (some position) = before.handedTo (some position) := by
    rw [State.handedTo, State.handedTo, stopped.handovers, same]
  rw [handed] at accounts
  rw [lot_of_cancel cancels] at winds
  exact ⟨report, nodes_report_of_finished stored,
    parts_of_winds run silent found unfinished winds accounts⟩

end Ends

-- Where a driver panics on a statement of the setup, no node ends and nothing is reported. And the
-- token may fire between the coordinator's look at it and what the coordinator does then.
theorem wound_up_after_cancellation {graph : ExecutionGraph} {moves rest : List Move}
    {before fired state : State} (run : Trace graph moves before)
    (cancels : before.move? .cancel = some fired) (later : fired.moves? rest = some state) :
    state.handovers = before.handovers ∧
    (∀ states : Nat → State, states 0 = fired →
      ¬ ∀ time, ∃ move, (states time).move? move = some (states (time + 1))) ∧
    (∀ script, Follows script (moves ++ [.cancel] ++ rest) → ∃ further ending,
      Trace graph (moves ++ [.cancel] ++ rest ++ further) ending ∧
        Follows script (moves ++ [.cancel] ++ rest ++ further) ∧ ending.closed = true) ∧
    (state.closed = true →
      (∀ message, .panic message ∉ answersTo none (moves ++ [.cancel] ++ rest)) →
      state.result = .ok state.report ∧ state.report.cancelled = true ∧
      ∀ position node progress, before.cells[position]? = some ⟨node, progress⟩ →
        (∀ report, progress ≠ .finished report) →
        ∃ report, state.report.nodes[position]? = some report ∧
          Parts graph moves before position node progress report) := by
  have whole := (run.move .cancel cancels).extend later
  have stopped := stopped_of_cancel run cancels later
  have same := (cancelled_of_move? cancels).2
  refine ⟨?_, fun states _ => not_endless states, ?_, ?_⟩
  · rw [stopped.handovers, same]
  · intro script follows
    obtain ⟨further, ending, _, ended, kept, closed⟩ := follows.exists_end whole
    exact ⟨further, ending, ended, kept, closed⟩
  · intro closed sane
    have present := (present_iff whole).mpr sane
    refine ⟨result_of_present present, ?_, ?_⟩
    · have fired : state.token = true := by rw [stopped.token, same]
      simp [State.report, fired]
    · intro position node progress found unfinished
      exact parts_of_closed run cancels later present closed found unfinished

-- The second twin has its statement with the database when the caller cancels.
def tangleBefore : List Move :=
  [.issueSetup, .replySetup (.rows Rows.empty), .issueSetup, .take, .act, .start 1, .issue 1]

-- The statement succeeds, and nobody else begins.
def tangleAfter : List Move :=
  [.reply 1 (.rows Rows.empty), .issue 1, .collect 1, .take, .act, .take, .act, .resolve, .act,
    .close]

example :
    ((start tangle).moves? (tangleBefore ++ [.cancel] ++ tangleAfter)).map
        (fun state => state.report.summary) = some ⟨4, 1, 0, 3, 0⟩ := by decide

theorem tangle_wound_up :
    ∃ before fired state, Trace tangle tangleBefore before ∧
      before.move? .cancel = some fired ∧ fired.moves? tangleAfter = some state ∧
      state.closed = true ∧ state.handovers = before.handovers ∧
      state.result = .ok state.report ∧ state.report.cancelled = true ∧
      ∀ position node progress, before.cells[position]? = some ⟨node, progress⟩ →
        (∀ report, progress ≠ .finished report) →
        ∃ report, state.report.nodes[position]? = some report ∧
          Parts tangle tangleBefore before position node progress report := by
  obtain ⟨before, reached⟩ := Option.isSome_iff_exists.mp
    (show ((start tangle).moves? tangleBefore).isSome = true by decide)
  have cancels : before.move? .cancel = some { before with token := true } := by
    cases reached
    rfl
  obtain ⟨state, later⟩ := Option.isSome_iff_exists.mp
    (show (({ before with token := true } : State).moves? tangleAfter).isSome = true by
      cases reached
      decide)
  have closed : state.closed = true := by
    cases reached
    cases later
    rfl
  have run := trace_of_moves? reached
  obtain ⟨quiet, _, _, ended⟩ := wound_up_after_cancellation run cancels later
  have sane : ∀ message, .panic message ∉
      answersTo none (tangleBefore ++ [.cancel] ++ tangleAfter) := by
    simp [answersTo, tangleBefore, tangleAfter, Move.answerTo?]
  exact ⟨before, _, state, run, cancels, later, closed, quiet, ended closed sane⟩

-- The caller cancels while a setup statement is with the database, and then its driver panics.
theorem no_report_of_cancelled_setup :
    ¬ ∀ (graph : ExecutionGraph) (moves rest : List Move) (before fired state : State),
      Trace graph moves before → before.move? .cancel = some fired →
      fired.moves? rest = some state → state.closed = true →
        ∃ report, state.result = .ok report ∧ report.cancelled = true := by
  intro always
  have reached : (start tangle).moves? [.issueSetup] = some
      { start tangle with
        setup := .inFlight [] (.plain "create schema") [],
        handovers := [⟨none, "create schema"⟩] } := by decide
  obtain ⟨report, told, _⟩ := always tangle [.issueSetup] [.replySetup (.panic none)] _ _ _
    (trace_of_moves? reached) rfl rfl rfl
  cases told

-- The setup has failed, and the coordinator has looked at the token once and has skipped one node
-- when the caller cancels.
theorem skipped_after_cancellation :
    ¬ ∀ (graph : ExecutionGraph) (moves rest : List Move) (before fired state : State),
      Trace graph moves before → before.move? .cancel = some fired →
      fired.moves? rest = some state → state.closed = true →
        ∀ (position : Nat) (node : ExecutionNode) (report : NodeReport),
          before.cells[position]? = some ⟨node, .waiting⟩ →
          state.report.nodes[position]? = some report → report.status = .cancelled := by
  intro always
  obtain ⟨before, reached⟩ := Option.isSome_iff_exists.mp
    (show ((start tangle).moves? [.issueSetup, .replySetup (.error (.execution "no such user")),
      .resolve, .act]).isSome = true by decide)
  have cancels : before.move? .cancel = some { before with token := true } := by
    cases reached
    rfl
  obtain ⟨state, later⟩ := Option.isSome_iff_exists.mp
    (show (({ before with token := true } : State).moves? [.act, .act, .act, .close]).isSome = true
      by
        cases reached
        decide)
  have told := always tangle _ _ before _ state (trace_of_moves? reached) cancels later
  have skipped : state.closed = true ∧ before.waiting? 1 = tangle.nodes[1]? ∧
      state.report.nodes[1]?.map NodeReport.status = some .skipped := by
    cases reached
    cases later
    decide
  obtain ⟨closed, waits, left⟩ := skipped
  obtain ⟨report, stored, status⟩ := Option.map_eq_some_iff.mp left
  have wrong := told closed 1 _ report (State.waiting?_eq_some_iff.mp waits) stored
  rw [status] at wrong
  cases wrong

end SqlPipeline.Run
