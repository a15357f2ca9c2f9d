import SqlPipeline.Proofs.Run.Account

/-!
What the setup has to show. Its results account for the statements handed over before any node, and
it has passed only when every one of them has.
-/

namespace SqlPipeline.Run

inductive SetupAccounts (tasks : List Task) : Setup → List String → List Outcome → Prop where
  | running {before rest : List Task} {outcomes : List Outcome} (split : tasks = before ++ rest)
      (pass : Pass before outcomes) :
      SetupAccounts tasks (.running (before.map .passed) rest) (before.map Task.statement) outcomes
  | inFlight {before : List Task} {task : Task} {rest : List Task} {outcomes : List Outcome}
      (split : tasks = before ++ task :: rest) (pass : Pass before outcomes) :
      SetupAccounts tasks (.inFlight (before.map .passed) task rest)
        ((before ++ [task]).map Task.statement) outcomes
  | passed {outcomes : List Outcome} (pass : Pass tasks outcomes) :
      SetupAccounts tasks (.passed (tasks.map .passed)) (tasks.map Task.statement) outcomes
  | halted {before : List Task} {task : Task} {rest : List Task} {outcomes : List Outcome}
      (split : tasks = before ++ task :: rest) (pass : Pass before outcomes) :
      SetupAccounts tasks (.stopped (before.map .passed)) (before.map Task.statement) outcomes
  | failed {before : List Task} {task : Task} {rest : List Task} {outcomes : List Outcome}
      {outcome : Outcome} {message : String} (split : tasks = before ++ task :: rest)
      (pass : Pass before outcomes)
      (fails : Verdict.judge task.kind outcome = .failed message ∨
        Verdict.judge task.kind outcome = .cancelled message ∨
        Verdict.judge task.kind outcome = .fatal message) :
      SetupAccounts tasks (.stopped (before.map .passed ++ [.failed task message]))
        ((before ++ [task]).map Task.statement) (outcomes ++ [outcome])
  | lost {before : List Task} {task : Task} {rest : List Task} {outcomes : List Outcome}
      {outcome : Outcome} {message : Option String} (split : tasks = before ++ task :: rest)
      (pass : Pass before outcomes) (panics : Verdict.judge task.kind outcome = .panicked message) :
      SetupAccounts tasks (.lost message) ((before ++ [task]).map Task.statement)
        (outcomes ++ [outcome])

section Steps
variable {tasks before rest : List Task} {task : Task} {results : List TaskResult}
  {handed : List String} {outcomes : List Outcome} {outcome : Outcome}

theorem SetupAccounts.halt
    (accounts : SetupAccounts tasks (.running results (task :: rest)) handed outcomes) :
    SetupAccounts tasks (.stopped results) handed outcomes := by
  cases accounts with
  | running split pass => exact .halted split pass

theorem SetupAccounts.hand
    (accounts : SetupAccounts tasks (.running results (task :: rest)) handed outcomes) :
    SetupAccounts tasks (.inFlight results task rest) (handed ++ [task.statement]) outcomes := by
  cases accounts with
  | running split pass => simpa using SetupAccounts.inFlight split pass

theorem SetupAccounts.finish
    (accounts : SetupAccounts tasks (.running results []) handed outcomes) :
    SetupAccounts tasks (.passed results) handed outcomes := by
  cases accounts with
  | running split pass =>
    simp only [List.append_nil] at split
    subst split
    exact .passed pass

theorem SetupAccounts.pass
    (accounts : SetupAccounts tasks (.inFlight results task rest) handed outcomes)
    (passes : Verdict.judge task.kind outcome = .passed) :
    SetupAccounts tasks (.running (results ++ [.passed task]) rest) handed
      (outcomes ++ [outcome]) := by
  cases accounts with
  | @inFlight before _ _ _ split pass =>
    have grown : before.map TaskResult.passed ++ [.passed task] =
        (before ++ [task]).map .passed := by simp
    rw [grown]
    exact .running (by simp [split]) (pass.snoc passes)

theorem SetupAccounts.fail {message : String}
    (accounts : SetupAccounts tasks (.inFlight results task rest) handed outcomes)
    (fails : Verdict.judge task.kind outcome = .failed message ∨
      Verdict.judge task.kind outcome = .cancelled message ∨
      Verdict.judge task.kind outcome = .fatal message) :
    SetupAccounts tasks (.stopped (results ++ [.failed task message])) handed
      (outcomes ++ [outcome]) := by
  cases accounts with
  | inFlight split pass => exact .failed split pass fails

theorem SetupAccounts.lose {message : Option String}
    (accounts : SetupAccounts tasks (.inFlight results task rest) handed outcomes)
    (panics : Verdict.judge task.kind outcome = .panicked message) :
    SetupAccounts tasks (.lost message) handed (outcomes ++ [outcome]) := by
  cases accounts with
  | inFlight split pass => exact .lost split pass panics

end Steps

theorem SetupAccounts.keep {tasks : List Task} {state next : State} {outcomes : List Outcome}
    {move : Move} (accounts : SetupAccounts tasks state.setup (state.handedTo none) outcomes)
    (setup : next.setup = state.setup) (handed : next.handedTo none = state.handedTo none)
    (silent : move.answerTo? none = none) :
    SetupAccounts tasks next.setup (next.handedTo none)
      (outcomes ++ (move.answerTo? none).toList) := by
  rw [setup, handed, silent, Option.toList_none, List.append_nil]
  exact accounts

theorem setupAccounts_of_trace {graph : ExecutionGraph} {moves : List Move} {state : State}
    (run : Trace graph moves state) :
    SetupAccounts graph.setup state.setup (state.handedTo none) (answersTo none moves) := by
  induction run with
  | start => exact .running (List.nil_append _).symm List.Forall₂.nil
  | move move run moved ih =>
    rw [answersTo_append]
    cases step_of_move? moved with
    | cancelled | dropped | doomed | admitted | refused | dispatched | started | succeeded | halted
    | replied | collected | resolved | gaveUp | closed => exact ih.keep rfl rfl rfl
    | handed =>
      refine ih.keep rfl ?_ rfl
      rw [State.handedTo_handOver, if_neg (by simp)]
      rfl
    | setupHalted current =>
      rw [current] at ih
      rw [show Move.answerTo? none .issueSetup = none from rfl, Option.toList_none, List.append_nil]
      exact ih.halt
    | setupHanded current =>
      rw [current] at ih
      simpa [State.handedTo, State.handOver, List.filter_append, Move.answerTo?] using ih.hand
    | setupDone current =>
      rw [current] at ih
      rw [show Move.answerTo? none .issueSetup = none from rfl, Option.toList_none, List.append_nil]
      exact ih.finish
    | setupPassed current passes =>
      rw [current] at ih
      exact ih.pass passes
    | setupFailed current fails =>
      rw [current] at ih
      exact ih.fail (fails.imp And.left (Or.imp And.left And.left))
    | setupLost current panics =>
      rw [current] at ih
      exact ih.lose panics

section Answered
variable {graph : ExecutionGraph} {moves : List Move} {state : State} {results : List TaskResult}
  {task : Task} {rest : List Task}

-- While the setup goes on, every answer to it so far was good.
theorem setup_running_split (run : Trace graph moves state)
    (current : state.setup = .running results rest) :
    ∃ before, graph.setup = before ++ rest ∧ Pass before (answersTo none moves) := by
  have accounts := setupAccounts_of_trace run
  rw [current] at accounts
  generalize answersTo none moves = outcomes at accounts ⊢
  generalize state.handedTo none = handed at accounts
  cases accounts with
  | running split pass => exact ⟨_, split, pass⟩

theorem setup_inFlight_split (run : Trace graph moves state)
    (current : state.setup = .inFlight results task rest) :
    ∃ before, graph.setup = before ++ task :: rest ∧ Pass before (answersTo none moves) := by
  have accounts := setupAccounts_of_trace run
  rw [current] at accounts
  generalize answersTo none moves = outcomes at accounts ⊢
  generalize state.handedTo none = handed at accounts
  cases accounts with
  | inFlight split pass => exact ⟨_, split, pass⟩

end Answered

theorem setup_pass_of_trace {graph : ExecutionGraph} {moves : List Move} {state : State}
    (run : Trace graph moves state) (passed : state.setup.isPassed = true) :
    state.handedTo none = graph.setup.map Task.statement ∧
      Pass graph.setup (answersTo none moves) := by
  have accounts := setupAccounts_of_trace run
  generalize state.setup = setup at accounts passed
  generalize state.handedTo none = handed at accounts ⊢
  generalize answersTo none moves = outcomes at accounts ⊢
  cases accounts with
  | passed pass => exact ⟨rfl, pass⟩
  | running | inFlight | halted | failed | lost => cases passed

end SqlPipeline.Run
