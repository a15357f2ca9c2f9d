import SqlPipeline.Proofs.Run.Abort
import SqlPipeline.Proofs.Run.Events

/-!
The execution of a node. Its tasks are handed over from the first one on, until one does not pass or
the alarm is raised between two of them. What the execution returns can be told from how far it
came, from the answers, and from the alarm; and it returns whatever the answers are, unless the
driver panics on one.
-/

namespace SqlPipeline

/-- The driver has stopped the statement. -/
def Outcome.Stops (outcome : Outcome) : Prop := ∃ detail, outcome = .error (.cancelled detail)

namespace Verdict

/-- What is to say of a task that did not pass. -/
def message? : Verdict → Option String
  | .passed => none
  | .failed message => some message
  | .cancelled message => some message
  | .fatal message => some message
  | .panicked message => some (Run.Cell.panicText message)

/-- What is kept of a task after the answer to it. -/
def result (verdict : Verdict) (task : Task) : TaskResult :=
  ⟨task, verdict.message?.isNone, verdict.message?⟩

end Verdict

namespace Run

/-! ## Verdicts -/

section Verdicts
variable {kind : TaskKind} {outcome : Outcome}

theorem judge_error_ne_passed {error : DbError} : Verdict.judge kind (.error error) ≠ .passed := by
  cases error <;> simp [Verdict.judge, Verdict.ofError]

theorem judge_eq_cancelled_iff :
    (∃ message, Verdict.judge kind outcome = .cancelled message) ↔ outcome.Stops := by
  cases outcome with
  | panic message => simp [Verdict.judge, Outcome.Stops]
  | rows result =>
    simp only [Outcome.Stops, reduceCtorEq, exists_false, iff_false, Verdict.judge, Verdict.ofRows]
    cases kind <;> grind
  | error error => cases error <;> simp [Verdict.judge, Verdict.ofError, Outcome.Stops]

theorem Pass.not_error {tasks : List Task} {outcomes : List Outcome} (pass : Pass tasks outcomes)
    (error : DbError) : .error error ∉ outcomes := by
  induction pass with
  | nil => exact List.not_mem_nil
  | cons passed _ ih =>
    intro member
    rcases List.mem_cons.mp member with rfl | later
    · exact judge_error_ne_passed passed
    · exact ih later

/-- The results of tasks, each after the answer to it. -/
def resultsOf (tasks : List Task) (outcomes : List Outcome) : List TaskResult :=
  List.zipWith (fun task outcome => (Verdict.judge task.kind outcome).result task) tasks outcomes

theorem Pass.results {tasks : List Task} {outcomes : List Outcome} (pass : Pass tasks outcomes) :
    resultsOf tasks outcomes = tasks.map .passed := by
  induction pass with
  | nil => rfl
  | cons passed _ ih =>
    rw [resultsOf, List.zipWith_cons_cons, passed, List.map_cons, ← ih]
    rfl

theorem Pass.results_snoc {before : List Task} {outcomes : List Outcome}
    (pass : Pass before outcomes) (task : Task) (outcome : Outcome) :
    resultsOf (before ++ [task]) (outcomes ++ [outcome]) =
      before.map .passed ++ [(Verdict.judge task.kind outcome).result task] := by
  rw [← pass.results]
  exact List.zipWith_append pass.length_eq

end Verdicts

/-! ## What is returned -/

/-- What the execution of a node returns after some of its tasks, the answers to them, and perhaps
the alarm. -/
structure Returns (node : ExecutionNode) (aborted : Bool) (done rest : List Task)
    (answers : List Outcome) (report : NodeReport) (fatal : Option String) : Prop where
  name : report.name = node.name
  started : report.started = true
  results : report.tasks = resultsOf done answers
  well : ∀ result ∈ report.tasks.dropLast, result.ok = true
  succeeded : report.status = .succeeded ↔
    rest = [] ∧ ∀ result ∈ report.tasks, result.ok = true
  failed : report.status = .failed ↔
    (∃ result, report.tasks.getLast? = some result ∧ result.ok = false) ∧
      ¬ ∃ last, answers.getLast? = some last ∧ last.Stops
  cancelled : report.status = .cancelled ↔
    (∃ last, answers.getLast? = some last ∧ last.Stops) ∨
      (∀ result ∈ report.tasks, result.ok = true) ∧ rest ≠ [] ∧ aborted = true
  error : report.error.isSome = true ↔ report.status ≠ .succeeded
  message : ∀ result ∈ report.tasks, result.ok = false → report.error = result.error
  fatal : ∀ message, fatal = some message ↔
    ∃ last, answers.getLast? = some last ∧ last.Loses message

section Returns
variable {node : ExecutionNode} {aborted : Bool} {before rest : List Task} {task : Task}
  {outcomes : List Outcome}

theorem ok_of_passed {tasks : List Task} {result : TaskResult}
    (member : result ∈ tasks.map TaskResult.passed) : result.ok = true := by
  obtain ⟨task, _, rfl⟩ := List.mem_map.mp member
  rfl

theorem Pass.not_stopped (pass : Pass before outcomes) :
    ¬ ∃ last, outcomes.getLast? = some last ∧ last.Stops := by
  rintro ⟨_, last, detail, rfl⟩
  exact pass.not_error _ (List.mem_of_getLast? last)

theorem Pass.not_lost (pass : Pass before outcomes) (message : String) :
    ¬ ∃ last, outcomes.getLast? = some last ∧ last.Loses message := by
  rintro ⟨_, last, loses⟩
  exact pass.not_loses (List.mem_of_getLast? last) message loses

theorem not_ill_of_passed {tasks : List Task} :
    ¬ ∃ result, (tasks.map TaskResult.passed).getLast? = some result ∧ result.ok = false := by
  rintro ⟨result, last, ill⟩
  rw [ok_of_passed (List.mem_of_getLast? last)] at ill
  cases ill

theorem returns_of_whole (pass : Pass node.tasks outcomes) :
    Returns node aborted node.tasks [] outcomes
      ⟨node.name, .succeeded, node.tasks.map .passed, true, none⟩ none where
  name := rfl
  started := rfl
  results := pass.results.symm
  well _ member := ok_of_passed (List.dropLast_subset _ member)
  succeeded := iff_of_true rfl ⟨rfl, fun _ => ok_of_passed⟩
  failed := iff_of_false (by simp) fun ill => not_ill_of_passed ill.1
  cancelled := iff_of_false (by simp) fun stopped =>
    stopped.elim pass.not_stopped fun halted => halted.2.1 rfl
  error := by simp
  message _ member ill := by
    rw [ok_of_passed member] at ill
    cases ill
  fatal message := iff_of_false (by simp) (pass.not_lost message)

theorem returns_of_halted (pass : Pass before outcomes) (alarm : aborted = true) :
    Returns node aborted before (task :: rest) outcomes
      ⟨node.name, .cancelled, before.map .passed, true, some cancelledText⟩ none where
  name := rfl
  started := rfl
  results := pass.results.symm
  well _ member := ok_of_passed (List.dropLast_subset _ member)
  succeeded := iff_of_false (by simp) fun whole => List.cons_ne_nil _ _ whole.1
  failed := iff_of_false (by simp) fun ill => not_ill_of_passed ill.1
  cancelled := iff_of_true rfl (Or.inr ⟨fun _ => ok_of_passed, List.cons_ne_nil _ _, alarm⟩)
  error := by simp
  message _ member ill := by
    rw [ok_of_passed member] at ill
    cases ill
  fatal message := iff_of_false (by simp) (pass.not_lost message)

-- The node ends at a task that did not pass, with its result the last one.
theorem returns_of_failure {status : NodeStatus} {outcome : Outcome} {message : String}
    {fatal : Option String} (pass : Pass before outcomes)
    (shown : (Verdict.judge task.kind outcome).result task = .failed task message)
    (stops : status = .cancelled ∧ outcome.Stops ∨ status = .failed ∧ ¬ outcome.Stops)
    (loses : ∀ text, fatal = some text ↔ outcome.Loses text) :
    Returns node aborted (before ++ [task]) rest (outcomes ++ [outcome])
      ⟨node.name, status, before.map .passed ++ [.failed task message], true, some message⟩
      fatal := by
  have ill : ¬ ∀ result ∈ before.map TaskResult.passed ++ [.failed task message],
      result.ok = true := by
    intro well
    cases well _ (List.mem_append_right _ List.mem_cons_self)
  have last : (∃ last, (outcomes ++ [outcome]).getLast? = some last ∧ last.Stops) ↔
      outcome.Stops := by simp
  have unsuccessful : status ≠ .succeeded := by
    rcases stops with ⟨rfl, _⟩ | ⟨rfl, _⟩ <;> simp
  constructor
  · rfl
  · rfl
  · rw [pass.results_snoc, shown]
  · intro result member
    rw [List.dropLast_concat] at member
    exact ok_of_passed member
  · exact iff_of_false unsuccessful fun whole => ill whole.2
  · rw [last]
    rcases stops with ⟨rfl, stops⟩ | ⟨rfl, goesOn⟩
    · exact iff_of_false (by simp) fun failed => failed.2 stops
    · exact iff_of_true rfl ⟨⟨_, List.getLast?_concat, rfl⟩, goesOn⟩
  · rw [last]
    rcases stops with ⟨rfl, stops⟩ | ⟨rfl, goesOn⟩
    · exact iff_of_true rfl (Or.inl stops)
    · exact iff_of_false (by simp) fun stopped => stopped.elim goesOn fun halted => ill halted.1
  · exact iff_of_true rfl unsuccessful
  · intro result member failed
    rcases List.mem_append.mp member with earlier | same
    · rw [ok_of_passed earlier] at failed
      cases failed
    · rw [List.mem_singleton.mp same]
      rfl
  · intro text
    rw [loses]
    simp

theorem returns_of_judged {cell : Cell} {outcome : Outcome} {report : NodeReport}
    {fatal : Option String} (pass : Pass before outcomes) (sane : ∀ message, outcome ≠ .panic message)
    (verdict : cell.judged (before.map .passed) task rest (Verdict.judge task.kind outcome) =
      .ended report fatal) :
    Returns cell.node aborted (before ++ [task]) rest (outcomes ++ [outcome]) report fatal := by
  have stops := @judge_eq_cancelled_iff task.kind outcome
  have loses := fun text => @judge_eq_fatal_iff task.kind outcome text
  cases judged : Verdict.judge task.kind outcome with
  | passed =>
    rw [judged] at verdict
    cases verdict
  | panicked message => exact absurd (judge_eq_panicked_iff.mp judged) (sane message)
  | failed message | cancelled message | fatal message =>
    rw [judged] at verdict stops
    simp only [judged] at loses
    cases verdict
    refine returns_of_failure pass (by rw [judged]; rfl) ?_ ?_
    · rw [← stops]
      simp
    · intro text
      rw [← loses text]
      simp

end Returns

/-! ## The alarm -/

/-- The node was given up without a statement that failed. -/
def Progress.Quit : Progress → Prop
  | .ended report _ | .finished report =>
      report.status = .cancelled ∧ ∀ result ∈ report.tasks, result.ok = true
  | .waiting | .dispatched | .running _ _ | .inFlight _ _ _ => False

theorem not_quit_judged (cell : Cell) (results : List TaskResult) (task : Task) (rest : List Task)
    (verdict : Verdict) : ¬ (cell.judged results task rest verdict).Quit := by
  intro quit
  cases verdict with
  | passed => exact quit
  | panicked message => cases quit.1
  | failed message | cancelled message | fatal message =>
    cases quit.2 _ (List.mem_append_right _ List.mem_cons_self)

theorem aborted_of_token {state : State} (fired : state.token = true) : state.aborted = true := by
  rw [State.aborted, fired, Bool.true_or]

section Alarm
variable {graph : ExecutionGraph} {moves : List Move} {state next : State}

theorem aborted_of_move (run : Trace graph moves state) {move : Move}
    (moved : state.move? move = some next) (aborted : state.aborted = true) :
    next.aborted = true := by
  by_cases cancels : move = .cancel
  · subst cancels
    cases step_of_move? moved with
    | cancelled => exact aborted_of_token rfl
  · exact ((Stopped.refl aborted).step run moved (Or.inr cancels)).aborted

-- A node without a failed statement is given up only where the alarm has been raised.
theorem aborted_of_quit (run : Trace graph moves state) {position : Nat} {node : ExecutionNode}
    {progress : Progress} (found : state.cells[position]? = some ⟨node, progress⟩)
    (quit : progress.Quit) : state.aborted = true := by
  induction run generalizing node progress with
  | start =>
    simp only [start, List.getElem?_map, Option.map_eq_some_iff, Cell.mk.injEq] at found
    obtain ⟨_, _, _, rfl⟩ := found
    exact quit.elim
  | @move moves state next move run moved ih =>
    have later {node : ExecutionNode} {before : Progress} (stored : state.cells[position]? = some ⟨node, before⟩)
        (quit : before.Quit) : next.aborted = true :=
      aborted_of_move run moved (ih stored quit)
    have updated {other : Nat} {otherNode : ExecutionNode} {old new : Progress}
        (known : state.cells[other]? = some ⟨otherNode, old⟩)
        (cells : next.cells = (state.setProgress other new).cells)
        (own : other = position → new.Quit → next.aborted = true) : next.aborted = true := by
      rcases state.cases_setProgress known cells found with ⟨same, _, rfl⟩ | ⟨_, stored⟩
      · exact own same quit
      · exact later stored quit
    cases step_of_move? moved with
    | cancelled => exact aborted_of_token rfl
    | setupHalted | setupHanded | setupDone | setupPassed | setupFailed | setupLost | dropped
    | doomed | admitted | resolved | closed => exact later found quit
    | refused meant queue known =>
      refine updated known rfl ?_
      rintro _ ⟨cancelled, _⟩
      exact aborted_of_token
        (((backed_of_trace run).reason meant queue known).1.token cancelled)
    | dispatched _ _ known | started known | handed known =>
      exact updated known rfl fun _ => False.elim
    | succeeded known => exact updated known rfl fun _ quit => by cases quit.1
    | halted known alarm => exact updated known rfl fun _ _ => alarm
    | replied known => exact updated known rfl fun _ quit => (not_quit_judged _ _ _ _ _ quit).elim
    | collected _ known =>
      refine updated known rfl ?_
      rintro rfl quit
      exact later known quit
    | gaveUp meant known =>
      refine updated known rfl ?_
      rintro _ ⟨cancelled, _⟩
      exact aborted_of_token (((backed_of_trace run).idle meant).2.token cancelled)

end Alarm

/-! ## Returning -/

/-- The moves of one node between its dispatch and its end. -/
def Move.IsOf (position : Nat) : Move → Prop
  | .start other | .issue other | .reply other _ => other = position
  | .cancel | .issueSetup | .replySetup _ | .take | .act | .collect _ | .resolve | .close => False

section Own
variable {graph : ExecutionGraph} {script : Option Nat → Nat → Outcome} {moves : List Move}
  {state : State} {position : Nat} {node : ExecutionNode} {progress : Progress}

theorem getElem?_of_setProgress {next : State} {new : Progress}
    (found : state.cells[position]? = some ⟨node, progress⟩)
    (cells : next.cells = (state.setProgress position new).cells) :
    next.cells[position]? = some ⟨node, new⟩ := by
  rw [cells, State.getElem?_setProgress, if_pos rfl, found, Option.map_some]

theorem Follows.exists_own_move (isOpen : state.closed = false) (follows : Follows script moves)
    (found : state.cells[position]? = some ⟨node, progress⟩) (moving : progress.Moving)
    (going : ∀ report fatal, progress ≠ .ended report fatal) :
    ∃ move next after, move.IsOf position ∧ state.move? move = some next ∧
      Follows script (moves ++ [move]) ∧
      next.cells[position]? = some ⟨node, after⟩ ∧ after.Moving := by
  cases progress with
  | waiting => exact absurd rfl moving.1
  | finished report => exact absurd rfl (moving.2 report)
  | ended report fatal => exact absurd rfl (going report fatal)
  | dispatched =>
    refine ⟨.start position,
      (state.setProgress position (.running [] node.tasks)).emit node.name .running,
      .running [] node.tasks, rfl, ?_, follows.silent fun _ => rfl,
      getElem?_of_setProgress found rfl, by simp [Progress.Moving]⟩
    simp only [State.move?, isOpen, State.startNode, found]
    rfl
  | running results rest =>
    cases rest with
    | nil =>
      refine ⟨.issue position, _, .ended ⟨node.name, .succeeded, results, true, none⟩ none, rfl, ?_,
        follows.silent fun _ => rfl, getElem?_of_setProgress found rfl, by simp [Progress.Moving]⟩
      simp only [State.move?, isOpen, State.issue, found]
      rfl
    | cons task rest =>
      by_cases alarm : state.aborted = true
      · refine ⟨.issue position, _,
          .ended ⟨node.name, .cancelled, results, true, some cancelledText⟩ none, rfl, ?_,
          follows.silent fun _ => rfl, getElem?_of_setProgress found rfl, by simp [Progress.Moving]⟩
        simp only [State.move?, isOpen, State.issue, found, if_pos alarm]
        rfl
      · refine ⟨.issue position,
          (state.setProgress position (.inFlight results task rest)).handOver (some position)
            task.statement,
          .inFlight results task rest, rfl, ?_, follows.silent fun _ => rfl,
          getElem?_of_setProgress found rfl, by simp [Progress.Moving]⟩
        simp only [State.move?, isOpen, State.issue, found, if_neg alarm]
        rfl
  | inFlight results task rest =>
    let outcome := script (some position) (answersTo (some position) moves).length
    let after := Cell.judged ⟨node, .inFlight results task rest⟩ results task rest
      (Verdict.judge task.kind outcome)
    refine ⟨.reply position outcome, state.setProgress position after, after, rfl, ?_,
      follows.answer (some position) (if_pos rfl) ?_, getElem?_of_setProgress found rfl,
      moving_judged _ _ _ _ _⟩
    · simp only [State.move?, isOpen, State.reply, found]
      rfl
    · intro other different
      exact if_neg different

end Own

-- Nobody else has to move for a node to come to its end.
theorem Follows.exists_return {graph : ExecutionGraph} {script : Option Nat → Nat → Outcome}
    {moves : List Move} {state : State} (run : Trace graph moves state)
    (follows : Follows script moves) {position : Nat} {node : ExecutionNode} {progress : Progress}
    (found : state.cells[position]? = some ⟨node, progress⟩) (moving : progress.Moving) :
    ∃ rest ending report fatal, (∀ move ∈ rest, move.IsOf position) ∧
      Trace graph (moves ++ rest) ending ∧ Follows script (moves ++ rest) ∧
      ending.cells[position]? = some ⟨node, .ended report fatal⟩ := by
  by_cases past : ∃ report fatal, progress = .ended report fatal
  · obtain ⟨report, fatal, rfl⟩ := past
    exact ⟨[], state, report, fatal, by simp, by simpa using run, by simpa using follows, found⟩
  · push Not at past
    obtain ⟨move, next, after, own, moved, further, stored, going⟩ :=
      follows.exists_own_move (open_of_moving run found moving) found moving past
    obtain ⟨rest, ending, report, fatal, others, ended, whole, last⟩ :=
      further.exists_return (run.move move moved) stored going
    rw [List.append_assoc] at ended whole
    refine ⟨_, ending, report, fatal, ?_, ended, whole, last⟩
    intro other member
    rcases List.mem_cons.mp member with rfl | later
    · exact own
    · exact others other later
termination_by state.measure
decreasing_by exact State.measure_move? moved

section Execution
variable {graph : ExecutionGraph} {moves : List Move} {state : State} {position : Nat}
  {node : ExecutionNode} {report : NodeReport} {fatal : Option String}

theorem Ends.returns {aborted : Bool} {handed : List String} {answers : List Outcome}
    (ends : Ends node report fatal handed answers)
    (quit : (Progress.ended report fatal).Quit → aborted = true) :
    ∃ done rest, node.tasks = done ++ rest ∧ handed = done.map Task.statement ∧
      answers.length = done.length ∧
      (∀ message, .panic message ∈ answers →
        report = ⟨node.name, .failed, [], false, some (Cell.panicText message)⟩ ∧ fatal = none) ∧
      ((∀ message, .panic message ∉ answers) →
        Returns node aborted done rest answers report fatal) := by
  cases ends with
  | whole pass =>
    exact ⟨node.tasks, [], (List.append_nil _).symm, rfl, pass.length_eq.symm,
      fun message panics => absurd panics (pass.not_panic message), fun _ => returns_of_whole pass⟩
  | @halted before task rest _ tasks pass =>
    have alarm := quit ⟨rfl, fun _ => ok_of_passed⟩
    exact ⟨before, task :: rest, tasks, rfl, pass.length_eq.symm,
      fun message panics => absurd panics (pass.not_panic message),
      fun _ => returns_of_halted pass alarm⟩
  | @judged before task rest outcomes outcome _ _ tasks pass verdict =>
    refine ⟨before ++ [task], rest, by simp [tasks], rfl, by simp [pass.length_eq], ?_, ?_⟩
    · intro message panics
      have last := (List.mem_append.mp panics).resolve_left (pass.not_panic message)
      rw [judge_eq_panicked_iff.mpr (List.mem_singleton.mp last).symm] at verdict
      cases verdict
      exact ⟨rfl, rfl⟩
    · intro sane
      exact returns_of_judged pass
        (fun message same => sane message (same ▸ List.mem_append_right _ List.mem_cons_self))
        verdict

end Execution

-- A driver that panics leaves nothing to return; who waits for the execution notes the panic.
theorem returns_of_execution {graph : ExecutionGraph} {moves : List Move} {state : State}
    (run : Trace graph moves state) {position : Nat} {node : ExecutionNode} {progress : Progress}
    (found : state.cells[position]? = some ⟨node, progress⟩) :
    (progress.Moving → ∀ script, Follows script moves → ∃ rest ending report fatal,
      (∀ move ∈ rest, move.IsOf position) ∧ Trace graph (moves ++ rest) ending ∧
      Follows script (moves ++ rest) ∧
      ending.cells[position]? = some ⟨node, .ended report fatal⟩) ∧
    ∀ report fatal, progress = .ended report fatal → ∃ done rest,
      node.tasks = done ++ rest ∧
      state.handedTo (some position) = done.map Task.statement ∧
      (answersTo (some position) moves).length = done.length ∧
      (∀ message, .panic message ∈ answersTo (some position) moves →
        report = ⟨node.name, .failed, [], false, some (Cell.panicText message)⟩ ∧ fatal = none) ∧
      ((∀ message, .panic message ∉ answersTo (some position) moves) →
        Returns node state.aborted done rest (answersTo (some position) moves) report fatal) := by
  refine ⟨fun moving _ follows => follows.exists_return run found moving, ?_⟩
  rintro report fatal rfl
  exact (ends_of_ended run found).returns (aborted_of_quit run found)

-- The left node of the fork loses the connection.
def forkScript (owner : Option Nat) (_index : Nat) : Outcome :=
  if owner = some 0 then .error (.connection "gone") else .rows Rows.empty

-- The right one has a statement with the database then, and another one to come.
def forkHalted : List Move := forkBefore ++ [.reply 1 (.rows Rows.empty), .issue 1]

theorem follows_fork : Follows forkScript forkBefore := by
  intro owner index outcome found
  by_cases left : owner = some 0
  · subst left
    have answers : answersTo (some 0) forkBefore = [.error (.connection "gone")] := rfl
    rw [answers, List.getElem?_singleton] at found
    split at found <;> cases found
    rfl
  · simp [answersTo, forkBefore, Move.answerTo?, List.filterMap_cons, left] at found

theorem fork_returns :
    ∃ node, fork.nodes[1]? = some node ∧ node.tasks = [.plain "drop", .plain "create"] ∧
      (∃ rest ending report fatal, (∀ move ∈ rest, move.IsOf 1) ∧
        Trace fork (forkBefore ++ rest) ending ∧ Follows forkScript (forkBefore ++ rest) ∧
        ending.cells[1]? = some ⟨node, .ended report fatal⟩) ∧
      ∃ state report fatal, Trace fork forkHalted state ∧
        state.cells[1]? = some ⟨node, .ended report fatal⟩ ∧ report.status = .cancelled ∧
        Returns node true [.plain "drop"] [.plain "create"] [.rows Rows.empty] report fatal := by
  obtain ⟨node, known⟩ : ∃ node, fork.nodes[1]? = some node := ⟨_, rfl⟩
  have tasks : node.tasks = [.plain "drop", .plain "create"] := by
    cases known
    rfl
  refine ⟨node, known, tasks, ?_, ?_⟩
  · obtain ⟨state, reached⟩ := Option.isSome_iff_exists.mp
      (show ((start fork).moves? forkBefore).isSome = true by decide)
    have found : state.cells[1]? = some ⟨node, .inFlight [] (.plain "drop") [.plain "create"]⟩ := by
      cases known
      cases reached
      rfl
    exact (returns_of_execution (trace_of_moves? reached) found).1 (by simp [Progress.Moving])
      forkScript follows_fork
  · obtain ⟨state, reached⟩ := Option.isSome_iff_exists.mp
      (show ((start fork).moves? forkHalted).isSome = true by decide)
    obtain ⟨report, found, status⟩ : ∃ report,
        state.cells[1]? = some ⟨node, .ended report none⟩ ∧ report.status = .cancelled := by
      cases known
      cases reached
      exact ⟨_, rfl, rfl⟩
    have alarm : state.aborted = true := by
      cases reached
      rfl
    have run := trace_of_moves? reached
    have answers : answersTo (some 1) forkHalted = [.rows Rows.empty] := rfl
    obtain ⟨done, rest, split, _, length, _, returns⟩ :=
      (returns_of_execution run found).2 report none rfl
    rw [answers] at length returns
    rw [alarm] at returns
    obtain ⟨first, rfl⟩ := List.length_eq_one_iff.mp length.symm
    obtain ⟨rfl, rfl⟩ := List.cons.inj (tasks.symm.trans split)
    exact ⟨state, report, none, run, found, status, returns (by simp)⟩

end Run
end SqlPipeline
