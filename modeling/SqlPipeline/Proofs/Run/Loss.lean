import SqlPipeline.Proofs.Run.Ending

/-!
The loss of the database. A connection that is gone or poisoned shows in the answer to a statement;
the run is told of it when the node that got the answer is collected, or at once in the setup. What
the run was told came from such an answer, and when it ends no such answer was overlooked.
-/

namespace SqlPipeline

/-- Whether nothing can be had from the database after the error. -/
def DbError.isLoss : DbError → Bool
  | .connection _ | .poisoned _ => true
  | .execution _ | .notImplemented _ _ | .internal _ | .cancelled _ => false

/-- The answer shows the database lost, with a message. -/
def Outcome.Loses (outcome : Outcome) (message : String) : Prop :=
  ∃ error, outcome = .error error ∧ error.isLoss = true ∧ message = error.message

namespace Run

theorem judge_eq_fatal_iff {kind : TaskKind} {outcome : Outcome} {message : String} :
    Verdict.judge kind outcome = .fatal message ↔ outcome.Loses message := by
  cases outcome with
  | panic other => simp [Verdict.judge, Outcome.Loses]
  | rows result =>
    simp only [Outcome.Loses, reduceCtorEq, false_and, exists_false, iff_false, Verdict.judge,
      Verdict.ofRows]
    cases kind <;> grind
  | error error =>
    constructor
    · intro fatal
      refine ⟨error, rfl, ?_⟩
      cases error <;> simp_all [Verdict.judge, Verdict.ofError, DbError.isLoss]
    · rintro ⟨_, ⟨rfl⟩, lost, rfl⟩
      cases error <;> simp_all [Verdict.judge, Verdict.ofError, DbError.isLoss]

theorem Pass.not_loses {tasks : List Task} {outcomes : List Outcome} (pass : Pass tasks outcomes)
    {outcome : Outcome} (member : outcome ∈ outcomes) (message : String) :
    ¬ outcome.Loses message := by
  induction pass with
  | nil => cases member
  | @cons task first _ _ passed _ ih =>
    rcases List.mem_cons.mp member with rfl | later
    · intro loses
      rw [judge_eq_fatal_iff.mpr loses] at passed
      cases passed
    · exact ih later

theorem mem_answersTo_append {owner : Option Nat} {moves : List Move} {move : Move}
    {outcome : Outcome} :
    outcome ∈ answersTo owner (moves ++ [move]) ↔
      outcome ∈ answersTo owner moves ∨ move.answerTo? owner = some outcome := by
  rw [answersTo_append, List.mem_append, Option.mem_toList]

section Answers
variable {graph : ExecutionGraph} {moves : List Move} {state : State} {position : Nat}
  {outcome : Outcome}

theorem inside_of_answer (run : Trace graph moves state)
    (member : outcome ∈ answersTo (some position) moves) : position < graph.nodes.length := by
  induction run with
  | start => cases member
  | move move run moved ih =>
    rcases mem_answersTo_append.mp member with earlier | last
    · exact ih earlier
    · cases step_of_move? moved with
      | @replied other _ _ _ _ _ found =>
        have same : position = other := by
          by_contra different
          simp [Move.answerTo?, different] at last
        exact inside_of_progress? (nodes_of_trace run) (same ▸ State.progress?_of_getElem? _ found)
      | cancelled | setupHalted | setupHanded | setupDone | setupPassed | setupFailed | setupLost
      | dropped | doomed | admitted | refused | dispatched | started | succeeded | halted | handed
      | collected | resolved | gaveUp | closed => cases last

-- As long as no node is touched there is no answer to any.
theorem Untouched.not_answered (untouched : Untouched state) (run : Trace graph moves state) :
    outcome ∉ answersTo (some position) moves := by
  intro member
  have inside := inside_of_answer run member
  obtain ⟨progress, found⟩ :=
    found_of_known (nodes_of_trace run) (List.getElem?_eq_getElem inside)
  have waiting := untouched.waiting (state.progress?_of_getElem? found)
  subst waiting
  have accounts := recorded_of_trace run position _ _ found
  generalize answersTo (some position) moves = outcomes at accounts member
  generalize state.handedTo (some position) = handed at accounts
  cases accounts
  cases member

end Answers

/-! ## What the run was told -/

section Told
variable {graph : ExecutionGraph} {moves : List Move} {state : State}

theorem Ends.loses {node : ExecutionNode} {report : NodeReport} {message : String}
    {handed : List String} {outcomes : List Outcome}
    (ends : Ends node report (some message) handed outcomes) :
    ∃ outcome ∈ outcomes, outcome.Loses message := by
  cases ends with
  | @judged before task rest outcomes outcome _ _ _ _ verdict =>
    refine ⟨outcome, List.mem_append_right _ List.mem_cons_self, ?_⟩
    apply (@judge_eq_fatal_iff task.kind outcome message).mp
    cases judged : Verdict.judge task.kind outcome with
    | fatal other =>
      rw [judged] at verdict
      cases verdict
      rfl
    | passed | failed | cancelled | panicked =>
      rw [judged] at verdict
      cases verdict

theorem loses_of_ended (run : Trace graph moves state) {position : Nat} {node : ExecutionNode}
    {report : NodeReport} {message : String}
    (found : state.cells[position]? = some ⟨node, .ended report (some message)⟩) :
    ∃ outcome ∈ answersTo (some position) moves, outcome.Loses message := by
  have accounts := recorded_of_trace run position node _ found
  generalize answersTo (some position) moves = outcomes at accounts ⊢
  generalize state.handedTo (some position) = handed at accounts
  cases accounts with
  | ended ends => exact ends.loses

theorem loses_of_fatal (run : Trace graph moves state) {message : String}
    (told : state.fatal = some message) :
    ∃ owner, ∃ outcome ∈ answersTo owner moves, outcome.Loses message := by
  induction run with
  | start => cases told
  | @move moves state _ move run moved ih =>
    have earlier : state.fatal = some message →
        ∃ owner, ∃ outcome ∈ answersTo owner (moves ++ [move]), outcome.Loses message := by
      intro before
      obtain ⟨owner, outcome, member, loses⟩ := ih before
      exact ⟨owner, outcome, mem_answersTo_append.mpr (Or.inl member), loses⟩
    cases step_of_move? moved with
    | setupHalted => cases told
    | @setupFailed results task rest outcome text fatal current fails =>
      have told : fatal = some message := told
      subst told
      have loses : outcome.Loses message := by
        rcases fails with ⟨_, none⟩ | ⟨_, none⟩ | ⟨fatal, same⟩
        · cases none
        · cases none
        · cases same
          exact judge_eq_fatal_iff.mp fatal
      exact ⟨none, outcome, mem_answersTo_append.mpr (Or.inr rfl), loses⟩
    | @collected position node report fatal _ found =>
      have told : (state.fatal <|> fatal) = some message := told
      cases before : state.fatal with
      | some text =>
        rw [before] at told
        exact earlier (before.trans told)
      | none =>
        rw [before] at told
        have told : fatal = some message := told
        subst told
        obtain ⟨outcome, member, loses⟩ := loses_of_ended run found
        exact ⟨some position, outcome, mem_answersTo_append.mpr (Or.inl member), loses⟩
    | cancelled | setupHanded | setupDone | setupPassed | setupLost | dropped | doomed | admitted
    | refused | dispatched | started | succeeded | halted | handed | replied | resolved | gaveUp
    | closed => exact earlier told

theorem fatal_of_setup_loss (run : Trace graph moves state) {outcome : Outcome} {message : String}
    (member : outcome ∈ answersTo none moves) (loses : outcome.Loses message) :
    state.fatal = some message := by
  induction run with
  | start => cases member
  | @move moves state _ move run moved ih =>
    rcases mem_answersTo_append.mp member with earlier | last
    · have told := ih earlier
      cases step_of_move? moved with
      | setupHalted current | setupDone current =>
        obtain ⟨_, _, pass⟩ := setup_running_split run current
        exact absurd loses (pass.not_loses earlier message)
      | setupFailed current =>
        obtain ⟨_, _, pass⟩ := setup_inFlight_split run current
        exact absurd loses (pass.not_loses earlier message)
      | @collected _ _ _ fatal =>
        change (state.fatal <|> fatal) = some message
        rw [told]
        rfl
      | cancelled | setupHanded | setupPassed | setupLost | dropped | doomed | admitted | refused
      | dispatched | started | succeeded | halted | handed | replied | resolved | gaveUp
      | closed => exact told
    · cases step_of_move? moved with
      | setupFailed _ fails =>
        cases last
        simp only [judge_eq_fatal_iff.mpr loses, reduceCtorEq, false_and, false_or,
          Verdict.fatal.injEq] at fails
        obtain ⟨rfl, rfl⟩ := fails
        rfl
      | setupPassed _ passes =>
        cases last
        rw [judge_eq_fatal_iff.mpr loses] at passes
        cases passes
      | setupLost _ panics =>
        cases last
        rw [judge_eq_fatal_iff.mpr loses] at panics
        cases panics
      | replied => simp [Move.answerTo?] at last
      | cancelled | setupHalted | setupHanded | setupDone | dropped | doomed | admitted | refused
      | dispatched | started | succeeded | halted | handed | collected | resolved | gaveUp
      | closed => cases last

/-! ## Nothing is overlooked -/

/-- The run knows that the database is lost, or will know it when the node is collected. -/
def Alarmed (state : State) (position : Nat) : Prop :=
  state.fatal.isSome = true ∨
    ∃ report message, state.progress? position = some (.ended report (some message))

theorem Alarmed.update {next : State} {position other : Nat} {cell : Cell} {progress : Progress}
    (alarmed : Alarmed state other) (found : state.cells[position]? = some cell)
    (cells : next.cells = (state.setProgress position progress).cells)
    (told : state.fatal.isSome = true → next.fatal.isSome = true)
    (own : ∀ report message, cell.progress = .ended report (some message) →
      next.fatal.isSome = true) : Alarmed next other := by
  rcases alarmed with before | ⟨report, message, ended⟩
  · exact Or.inl (told before)
  · by_cases same : position = other
    · subst same
      rw [state.progress?_of_getElem? found, Option.some.injEq] at ended
      exact Or.inl (own report message ended)
    · refine Or.inr ⟨report, message, ?_⟩
      rw [State.progress?, cells, ← State.progress?, State.progress?_setProgress, if_neg same]
      exact ended

theorem alarmed_of_trace (run : Trace graph moves state) {position : Nat} {outcome : Outcome}
    {message : String} (member : outcome ∈ answersTo (some position) moves)
    (loses : outcome.Loses message) : Alarmed state position := by
  induction run with
  | start => cases member
  | @move moves state _ move run moved ih =>
    rcases mem_answersTo_append.mp member with earlier | last
    · have alarmed := ih earlier
      cases step_of_move? moved with
      | cancelled | setupHanded | setupDone | setupPassed | setupLost | dropped | doomed | admitted
      | resolved | closed => exact alarmed
      | setupHalted current | setupFailed current =>
        have untouched := untouched_of_trace run (by simp [current, Setup.isOver])
        exact absurd earlier (untouched.not_answered run)
      | refused _ _ found | dispatched _ _ found =>
        exact alarmed.update found rfl id (by simp)
      | gaveUp _ found | started found | succeeded found | halted found | handed found
      | replied found => exact alarmed.update found rfl id (by simp)
      | @collected _ _ report fatal _ found =>
        refine alarmed.update found rfl ?_ ?_
        · intro told
          simp [State.finish, State.emit, State.setProgress, told]
        · rintro _ message ⟨⟩
          simp [State.finish, State.emit, State.setProgress]
    · cases step_of_move? moved with
      | @replied other node results task rest answer found =>
        obtain ⟨rfl, rfl⟩ : position = other ∧ answer = outcome := by
          simpa [Move.answerTo?, eq_comm] using last
        refine Or.inr ⟨⟨node.name, .failed, results ++ [.failed task message], true, some message⟩,
          message, ?_⟩
        rw [State.progress?_setProgress, if_pos rfl, State.progress?_of_getElem? _ found,
          Option.map_some, judge_eq_fatal_iff.mpr loses]
        rfl
      | cancelled | setupHalted | setupHanded | setupDone | setupPassed | setupFailed | setupLost
      | dropped | doomed | admitted | refused | dispatched | started | succeeded | halted | handed
      | collected | resolved | gaveUp | closed => cases last

/-- An answer in the run shows the database lost. -/
def Lossy (moves : List Move) : Prop :=
  ∃ owner, ∃ outcome ∈ answersTo owner moves, ∃ message, outcome.Loses message

theorem fatal_iff_lossy (run : Trace graph moves state) (closed : state.closed = true) :
    state.fatal.isSome = true ↔ Lossy moves := by
  constructor
  · intro told
    obtain ⟨message, told⟩ := Option.isSome_iff_exists.mp told
    obtain ⟨owner, outcome, member, loses⟩ := loses_of_fatal run told
    exact ⟨owner, outcome, member, message, loses⟩
  · rintro ⟨owner, outcome, member, message, loses⟩
    cases owner with
    | none => rw [fatal_of_setup_loss run member loses, Option.isSome_some]
    | some position =>
      rcases alarmed_of_trace run member loses with told | ⟨report, text, ended⟩
      · exact told
      -- The node is still to be collected, so this is not the end.
      · obtain ⟨⟨node, progress⟩, found, same⟩ := Option.map_eq_some_iff.mp ended
        have same : progress = .ended report (some text) := same
        subst same
        have isOpen := open_of_moving run found (by simp [Progress.Moving])
        rw [closed] at isOpen
        cases isOpen

end Told
end Run
end SqlPipeline
