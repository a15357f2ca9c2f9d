import Mathlib.Data.List.Forall2
import SqlPipeline.Proofs.Run.Intent

/-!
What a node has to show. Whatever a run does with other nodes, the results kept for one node account
for exactly the statements that were handed over for it and for the answers to them, and the same
holds for the setup. A node succeeds only when all its tasks were handed over and passed.
-/

namespace SqlPipeline.Run

/-! ## Answers -/

/-- The answer a move gives to a statement of one owner; none for the setup. -/
def Move.answerTo? (owner : Option Nat) : Move → Option Outcome
  | .replySetup outcome => if owner = none then some outcome else none
  | .reply position outcome => if owner = some position then some outcome else none
  | .cancel | .issueSetup | .take | .act | .start _ | .issue _ | .collect _ | .resolve | .close =>
      none

def answersTo (owner : Option Nat) (moves : List Move) : List Outcome :=
  moves.filterMap (Move.answerTo? owner)

theorem answersTo_append (owner : Option Nat) (moves : List Move) (move : Move) :
    answersTo owner (moves ++ [move]) =
      answersTo owner moves ++ (move.answerTo? owner).toList := by
  cases answer : move.answerTo? owner <;> simp [answersTo, List.filterMap_append, answer]

theorem answersTo_of_before {moves : List Move} (owner : Option Nat) (move : Move) {index : Nat}
    {outcome : Outcome} (found : (answersTo owner moves)[index]? = some outcome) :
    (answersTo owner (moves ++ [move]))[index]? = some outcome := by
  have inside := (List.getElem?_eq_some_iff.mp found).1
  rw [answersTo_append, List.getElem?_append_left inside, found]

theorem answersTo_cases {moves : List Move} {owner : Option Nat} {move : Move} {last : Outcome}
    (answers : move.answerTo? owner = some last) {index : Nat} {outcome : Outcome}
    (found : (answersTo owner (moves ++ [move]))[index]? = some outcome) :
    (answersTo owner moves)[index]? = some outcome ∨
      index = (answersTo owner moves).length ∧ outcome = last := by
  rw [answersTo_append, answers, Option.toList_some] at found
  by_cases earlier : index < (answersTo owner moves).length
  · rw [List.getElem?_append_left earlier] at found
    exact Or.inl found
  · have inside := (List.getElem?_eq_some_iff.mp found).1
    rw [List.length_append, List.length_singleton] at inside
    have same : index = (answersTo owner moves).length := by omega
    rw [same, List.getElem?_concat_length, Option.some.injEq] at found
    exact Or.inr ⟨same, found.symm⟩

/-- Every task has passed on the answer to it. -/
def Pass (tasks : List Task) (outcomes : List Outcome) : Prop :=
  List.Forall₂ (fun task outcome => Verdict.judge task.kind outcome = .passed) tasks outcomes

theorem Pass.snoc {tasks : List Task} {outcomes : List Outcome} (pass : Pass tasks outcomes)
    {task : Task} {outcome : Outcome} (last : Verdict.judge task.kind outcome = .passed) :
    Pass (tasks ++ [task]) (outcomes ++ [outcome]) :=
  List.rel_append pass (List.Forall₂.cons last List.Forall₂.nil)

theorem next_of_split {tasks before rest : List Task} {task : Task}
    (split : tasks = before ++ task :: rest) : tasks[before.length]? = some task := by
  rw [split, List.getElem?_append_right (Nat.le_refl _), Nat.sub_self, List.getElem?_cons_zero]

theorem split_concat {Item : Type} {items earlier later : List Item} {item last : Item}
    (split : items ++ [last] = earlier ++ item :: later) :
    (∃ rest, items = earlier ++ item :: rest) ∨ items = earlier ∧ last = item := by
  rcases List.eq_nil_or_concat later with rfl | ⟨rest, final, rfl⟩
  · obtain ⟨rfl, same⟩ := List.append_inj' split rfl
    exact Or.inr ⟨rfl, List.singleton_inj.mp same⟩
  · rw [List.concat_eq_append, ← List.cons_append, ← List.append_assoc] at split
    exact Or.inl ⟨rest, (List.append_inj' split rfl).1⟩

/-! ## Nodes -/

/-- How a node comes to its end, after which statements and on which answers. -/
inductive Ends (node : ExecutionNode) :
    NodeReport → Option String → List String → List Outcome → Prop where
  | whole {outcomes : List Outcome} (pass : Pass node.tasks outcomes) :
      Ends node ⟨node.name, .succeeded, node.tasks.map .passed, true, none⟩ none
        (node.tasks.map Task.statement) outcomes
  | halted {before : List Task} {task : Task} {rest : List Task} {outcomes : List Outcome}
      (tasks : node.tasks = before ++ task :: rest) (pass : Pass before outcomes) :
      Ends node ⟨node.name, .cancelled, before.map .passed, true, some cancelledText⟩ none
        (before.map Task.statement) outcomes
  | judged {before : List Task} {task : Task} {rest : List Task} {outcomes : List Outcome}
      {outcome : Outcome} {report : NodeReport} {fatal : Option String}
      (tasks : node.tasks = before ++ task :: rest) (pass : Pass before outcomes)
      (verdict : Cell.judged ⟨node, .inFlight (before.map .passed) task rest⟩
        (before.map .passed) task rest (Verdict.judge task.kind outcome) = .ended report fatal) :
      Ends node report fatal ((before ++ [task]).map Task.statement) (outcomes ++ [outcome])

/-- What the progress of a node says about the statements handed over and the answers. -/
inductive Accounts (node : ExecutionNode) : Progress → List String → List Outcome → Prop where
  | waiting : Accounts node .waiting [] []
  | dispatched : Accounts node .dispatched [] []
  | running {before rest : List Task} {outcomes : List Outcome}
      (tasks : node.tasks = before ++ rest) (pass : Pass before outcomes) :
      Accounts node (.running (before.map .passed) rest) (before.map Task.statement) outcomes
  | inFlight {before : List Task} {task : Task} {rest : List Task} {outcomes : List Outcome}
      (tasks : node.tasks = before ++ task :: rest) (pass : Pass before outcomes) :
      Accounts node (.inFlight (before.map .passed) task rest)
        ((before ++ [task]).map Task.statement) outcomes
  | ended {report : NodeReport} {fatal : Option String} {handed : List String}
      {outcomes : List Outcome} (ends : Ends node report fatal handed outcomes) :
      Accounts node (.ended report fatal) handed outcomes
  | collected {report : NodeReport} {fatal : Option String} {handed : List String}
      {outcomes : List Outcome} (ends : Ends node report fatal handed outcomes) :
      Accounts node (.finished report) handed outcomes
  | notRun {status : NodeStatus} (quiet : status = .cancelled ∨ status = .skipped) :
      Accounts node (.finished (.notRun node.name status)) [] []

section Judged
variable {node : ExecutionNode} {before rest : List Task} {task : Task}

theorem judged_cases (cell : Cell) (results : List TaskResult) (task : Task) (rest : List Task)
    (verdict : Verdict) :
    (verdict = .passed ∧
      cell.judged results task rest verdict = .running (results ++ [.passed task]) rest) ∨
    ∃ report fatal, cell.judged results task rest verdict = .ended report fatal ∧
      (report.status = .failed ∨ report.status = .cancelled) := by
  cases verdict with
  | passed => exact Or.inl ⟨rfl, rfl⟩
  | failed message => exact Or.inr ⟨_, _, rfl, Or.inl rfl⟩
  | cancelled message => exact Or.inr ⟨_, _, rfl, Or.inr rfl⟩
  | fatal message => exact Or.inr ⟨_, _, rfl, Or.inl rfl⟩
  | panicked message => exact Or.inr ⟨_, _, rfl, Or.inl rfl⟩

theorem not_passed_of_judged {cell : Cell} {results : List TaskResult} {verdict : Verdict}
    {report : NodeReport} {fatal : Option String}
    (judged : cell.judged results task rest verdict = .ended report fatal) :
    verdict ≠ .passed ∧
      (report.status = .failed ∨ report.status = .cancelled) := by
  rcases judged_cases cell results task rest verdict with ⟨_, goesOn⟩ | ⟨_, _, ended, ill⟩
  · rw [goesOn] at judged
    cases judged
  · rw [ended] at judged
    cases judged
    refine ⟨?_, ill⟩
    rintro rfl
    cases ended

theorem Accounts.reply {outcomes : List Outcome} {outcome : Outcome}
    (tasks : node.tasks = before ++ task :: rest) (pass : Pass before outcomes) :
    Accounts node
      (Cell.judged ⟨node, .inFlight (before.map .passed) task rest⟩ (before.map .passed) task rest
        (Verdict.judge task.kind outcome))
      ((before ++ [task]).map Task.statement) (outcomes ++ [outcome]) := by
  rcases judged_cases ⟨node, .inFlight (before.map .passed) task rest⟩ (before.map .passed) task
    rest (Verdict.judge task.kind outcome) with ⟨passes, goesOn⟩ | ⟨report, fatal, verdict, _⟩
  · have grown : before.map TaskResult.passed ++ [.passed task] =
        (before ++ [task]).map .passed := by simp
    rw [goesOn, grown]
    exact .running (by simp [tasks]) (pass.snoc passes)
  · rw [verdict]
    exact .ended (.judged tasks pass verdict)

end Judged

theorem Ends.pass_of_succeeded {node : ExecutionNode} {report : NodeReport} {fatal : Option String}
    {handed : List String} {outcomes : List Outcome} (ends : Ends node report fatal handed outcomes)
    (well : report.status = .succeeded) :
    report = ⟨node.name, .succeeded, node.tasks.map .passed, true, none⟩ ∧
      handed = node.tasks.map Task.statement ∧ Pass node.tasks outcomes := by
  cases ends with
  | whole pass => exact ⟨rfl, rfl, pass⟩
  | halted => cases well
  | judged _ _ verdict =>
    have ill := (not_passed_of_judged verdict).2
    simp [well] at ill

theorem Accounts.pass_of_succeeded {node : ExecutionNode} {report : NodeReport}
    {handed : List String} {outcomes : List Outcome}
    (accounts : Accounts node (.finished report) handed outcomes)
    (well : report.status = .succeeded) :
    handed = node.tasks.map Task.statement ∧ Pass node.tasks outcomes := by
  cases accounts with
  | collected ends => exact (ends.pass_of_succeeded well).2
  | notRun quiet =>
    have well : _ = NodeStatus.succeeded := well
    simp_all [NodeReport.notRun]

/-! ## Runs -/

def Recorded (state : State) (moves : List Move) : Prop :=
  ∀ position node progress, state.cells[position]? = some ⟨node, progress⟩ →
    Accounts node progress (state.handedTo (some position)) (answersTo (some position) moves)

section Recorded
variable {state next : State} {moves : List Move} {move : Move}

theorem Recorded.keep (recorded : Recorded state moves) (cells : next.cells = state.cells)
    (handed : ∀ position, next.handedTo (some position) = state.handedTo (some position))
    (silent : ∀ position, move.answerTo? (some position) = none) :
    Recorded next (moves ++ [move]) := by
  intro position node progress found
  rw [cells] at found
  rw [handed, answersTo_append, silent, Option.toList_none, List.append_nil]
  exact recorded position node progress found

-- Only one node moves on; what the others have to show stays as it is.
theorem Recorded.update (recorded : Recorded state moves) {position : Nat} {node : ExecutionNode}
    {old progress : Progress} (found : state.cells[position]? = some ⟨node, old⟩)
    (cells : next.cells = (state.setProgress position progress).cells)
    (others : ∀ other, position ≠ other →
      next.handedTo (some other) = state.handedTo (some other) ∧
        move.answerTo? (some other) = none)
    (own : Accounts node old (state.handedTo (some position)) (answersTo (some position) moves) →
      Accounts node progress (next.handedTo (some position))
        (answersTo (some position) (moves ++ [move]))) :
    Recorded next (moves ++ [move]) := by
  intro other otherNode otherProgress stored
  rcases state.cases_setProgress found cells stored with ⟨rfl, rfl, rfl⟩ | ⟨different, foundOther⟩
  · exact own (recorded position _ old found)
  · obtain ⟨handed, silent⟩ := others other different
    rw [handed, answersTo_append, silent, Option.toList_none, List.append_nil]
    exact recorded other otherNode otherProgress foundOther

theorem Recorded.advance (recorded : Recorded state moves) {position : Nat} {node : ExecutionNode}
    {old progress : Progress} (found : state.cells[position]? = some ⟨node, old⟩)
    (cells : next.cells = (state.setProgress position progress).cells)
    (handovers : next.handovers = state.handovers)
    (silent : ∀ other, move.answerTo? (some other) = none)
    (own : ∀ handed outcomes, Accounts node old handed outcomes →
      Accounts node progress handed outcomes) :
    Recorded next (moves ++ [move]) := by
  have handed : ∀ other, next.handedTo other = state.handedTo other := by
    intro other
    simp [State.handedTo, handovers]
  apply recorded.update found cells
  · intro other _
    exact ⟨handed (some other), silent other⟩
  · intro accounts
    rw [handed, answersTo_append, silent, Option.toList_none, List.append_nil]
    exact own _ _ accounts

end Recorded

theorem Accounts.refuse {node : ExecutionNode} {status : NodeStatus}
    (quiet : status = .cancelled ∨ status = .skipped) (handed : List String)
    (outcomes : List Outcome) (accounts : Accounts node .waiting handed outcomes) :
    Accounts node (.finished (.notRun node.name status)) handed outcomes := by
  cases accounts
  exact .notRun quiet

theorem Accounts.whole {node : ExecutionNode} {results : List TaskResult} (handed : List String)
    (outcomes : List Outcome) (accounts : Accounts node (.running results []) handed outcomes) :
    Accounts node (.ended ⟨node.name, .succeeded, results, true, none⟩ none) handed outcomes := by
  cases accounts with
  | running tasks pass =>
    simp only [List.append_nil] at tasks
    subst tasks
    exact .ended (.whole pass)

theorem Accounts.halt {node : ExecutionNode} {results : List TaskResult} {task : Task}
    {rest : List Task} (handed : List String) (outcomes : List Outcome)
    (accounts : Accounts node (.running results (task :: rest)) handed outcomes) :
    Accounts node (.ended ⟨node.name, .cancelled, results, true, some cancelledText⟩ none) handed
      outcomes := by
  cases accounts with
  | running tasks pass => exact .ended (.halted tasks pass)

theorem Recorded.hand {state : State} {moves : List Move} (recorded : Recorded state moves)
    {position : Nat} {node : ExecutionNode} {results : List TaskResult} {task : Task}
    {rest : List Task}
    (found : state.cells[position]? = some ⟨node, .running results (task :: rest)⟩) :
    Recorded
      ((state.setProgress position (.inFlight results task rest)).handOver (some position)
        task.statement)
      (moves ++ [.issue position]) := by
  refine recorded.update found rfl ?_ ?_
  · intro other different
    refine ⟨?_, rfl⟩
    rw [State.handedTo_handOver, if_neg (by simpa using different)]
    rfl
  · intro accounts
    rw [State.handedTo_handOver, if_pos rfl, answersTo_append]
    generalize answersTo (some position) moves = outcomes at accounts ⊢
    change Accounts _ _ (state.handedTo (some position) ++ _) _
    generalize state.handedTo (some position) = handed at accounts ⊢
    cases accounts with
    | running tasks pass => simpa [Move.answerTo?] using Accounts.inFlight tasks pass

theorem Recorded.reply {state : State} {moves : List Move} (recorded : Recorded state moves)
    {position : Nat} {node : ExecutionNode} {results : List TaskResult} {task : Task}
    {rest : List Task} {outcome : Outcome}
    (found : state.cells[position]? = some ⟨node, .inFlight results task rest⟩) :
    Recorded
      (state.setProgress position
        (Cell.judged ⟨node, .inFlight results task rest⟩ results task rest
          (Verdict.judge task.kind outcome)))
      (moves ++ [.reply position outcome]) := by
  refine recorded.update found rfl ?_ ?_
  · intro other different
    refine ⟨rfl, ?_⟩
    simp [Move.answerTo?, Ne.symm different]
  · intro accounts
    rw [answersTo_append]
    generalize answersTo (some position) moves = outcomes at accounts ⊢
    change Accounts _ _ (state.handedTo (some position)) _
    generalize state.handedTo (some position) = handed at accounts ⊢
    cases accounts with
    | inFlight tasks pass => simpa [Move.answerTo?] using Accounts.reply tasks pass

theorem recorded_of_trace {graph : ExecutionGraph} {moves : List Move} {state : State}
    (run : Trace graph moves state) : Recorded state moves := by
  induction run with
  | start =>
    intro position node progress found
    simp only [start, List.getElem?_map, Option.map_eq_some_iff, Cell.mk.injEq] at found
    obtain ⟨_, _, _, rfl⟩ := found
    exact .waiting
  | move move run moved ih =>
    cases step_of_move? moved with
    | cancelled | setupHalted | setupDone | setupPassed | setupFailed | setupLost | dropped
    | doomed | admitted | resolved | closed => exact ih.keep rfl (fun _ => rfl) (fun _ => rfl)
    | setupHanded =>
      refine ih.keep rfl ?_ (fun _ => rfl)
      intro position
      simp [State.handedTo, State.handOver, List.filter_append]
    | refused meant queue found =>
      have rests := ((backed_of_trace run).reason meant queue found).1
      exact ih.advance found rfl rfl (fun _ => rfl) (Accounts.refuse rests.quiet)
    | dispatched _ _ found =>
      refine ih.advance found rfl rfl (fun _ => rfl) ?_
      intro handed outcomes accounts
      cases accounts
      exact .dispatched
    | started found =>
      refine ih.advance found rfl rfl (fun _ => rfl) ?_
      intro handed outcomes accounts
      cases accounts
      exact .running (List.nil_append _).symm List.Forall₂.nil
    | succeeded found => exact ih.advance found rfl rfl (fun _ => rfl) Accounts.whole
    | halted found => exact ih.advance found rfl rfl (fun _ => rfl) Accounts.halt
    | handed found => exact ih.hand found
    | replied found => exact ih.reply found
    | collected _ found =>
      refine ih.advance found rfl rfl (fun _ => rfl) ?_
      intro handed outcomes accounts
      cases accounts with
      | ended ends => exact .collected ends
    | gaveUp meant found =>
      have rests := ((backed_of_trace run).idle meant).2
      exact ih.advance found rfl rfl (fun _ => rfl) (Accounts.refuse rests.quiet)

end SqlPipeline.Run
