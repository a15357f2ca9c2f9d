import Mathlib.Logic.Relation
import SqlPipeline.Proofs.Run.Precedence

/-!
After the alarm. Once the caller has cancelled, or the coordinator has taken in an outcome that
shows the database lost, no statement is handed over any more, and no node is dispatched but the one
that the coordinator had made up its mind to dispatch. Each node goes its own way to its end from
there, and few ways are left.
-/

namespace SqlPipeline.Run

/-! ## The moment of the alarm -/

section Traces
variable {graph : ExecutionGraph} {moves : List Move} {state : State}

theorem token_iff_cancel (run : Trace graph moves state) :
    state.token = true ↔ .cancel ∈ moves := by
  induction run with
  | start => simp [start]
  | @move moves state _ move _ moved ih =>
    have other : ∀ next : State, next.token = state.token → move ≠ .cancel →
        (next.token = true ↔ .cancel ∈ moves ++ [move]) := by
      intro next same different
      rw [same, ih, List.mem_append, List.mem_singleton, or_iff_left (Ne.symm different)]
    cases step_of_move? moved with
    | cancelled => simp
    | setupHalted | setupHanded | setupDone | setupPassed | setupFailed | setupLost | dropped
    | doomed | admitted | refused | dispatched | started | succeeded | halted | handed | replied
    | collected | resolved | gaveUp | closed => exact other _ rfl (by simp)

theorem silent_of_calm (run : Trace graph moves state) (calm : .cancel ∉ moves) :
    state.token = false := by
  rw [← Bool.not_eq_true, token_iff_cancel run]
  exact calm

-- A loss that shows in the setup ends the setup.
theorem isOver_of_fatal (run : Trace graph moves state) (told : state.fatal.isSome = true) :
    state.setup.isOver = true := by
  induction run with
  | start => cases told
  | move move run moved ih =>
    cases step_of_move? moved with
    | setupHalted | setupFailed | setupDone => rfl
    | setupHanded current | setupPassed current | setupLost current =>
      have past := ih told
      simp [current, Setup.isOver] at past
    | @collected position node report fatal _ found =>
      by_contra going
      have untouched := untouched_of_trace run (eq_false_of_ne_true going)
      exact untouched.not_found (by simp) found
    | cancelled | dropped | doomed | admitted | refused | dispatched | started | succeeded | halted
    | handed | replied | resolved | gaveUp | closed => exact ih told

/-- Some state on the way had the node dispatched. -/
def Dispatched (graph : ExecutionGraph) (moves : List Move) (position : Nat) : Prop :=
  ∃ before after state, moves = before ++ after ∧ Trace graph before state ∧
    state.progress? position = some .dispatched

theorem Dispatched.later {position : Nat} (dispatched : Dispatched graph moves position)
    (later : List Move) : Dispatched graph (moves ++ later) position := by
  obtain ⟨before, after, state, rfl, run, found⟩ := dispatched
  exact ⟨before, after ++ later, state, List.append_assoc _ _ _, run, found⟩

/-- Without a cancellation this is what a node is that was not dispatched. -/
def Spared (state : State) (position : Nat) : Prop :=
  ∀ node progress, state.cells[position]? = some ⟨node, progress⟩ →
    progress = .waiting ∨ progress = .finished (.notRun node.name .skipped)

theorem Spared.update {next : State} {position : Nat} (spared : Spared state position) {other : Nat}
    {node : ExecutionNode} {old progress : Progress}
    (found : state.cells[other]? = some ⟨node, old⟩)
    (cells : next.cells = (state.setProgress other progress).cells)
    (own : other = position → progress = .finished (.notRun node.name .skipped)) :
    Spared next position := by
  intro otherNode current stored
  rcases state.cases_setProgress found cells stored with ⟨same, rfl, rfl⟩ | ⟨_, unchanged⟩
  · exact Or.inr (own same)
  · exact spared otherNode current unchanged

theorem Spared.elsewhere {position : Nat} (spared : Spared state position) {other : Nat}
    {node : ExecutionNode} {progress : Progress}
    (found : state.cells[other]? = some ⟨node, progress⟩) (moving : progress.Moving) :
    other ≠ position := by
  rintro rfl
  rcases spared node progress found with waiting | skipped
  · exact moving.1 waiting
  · exact moving.2 _ skipped

theorem spared_of_trace (run : Trace graph moves state) (calm : .cancel ∉ moves) {position : Nat}
    (never : ¬ Dispatched graph moves position) : Spared state position := by
  induction run with
  | start =>
    intro node progress found
    simp only [start, List.getElem?_map, Option.map_eq_some_iff, Cell.mk.injEq] at found
    obtain ⟨_, _, _, rfl⟩ := found
    exact Or.inl rfl
  | @move moves state next move run moved ih =>
    have calmBefore : .cancel ∉ moves := fun member => calm (List.mem_append_left _ member)
    have silent := silent_of_calm run calmBefore
    have spared := ih calmBefore fun dispatched => never (dispatched.later [move])
    cases step_of_move? moved with
    | cancelled => exact absurd (List.mem_append_right _ List.mem_cons_self) calm
    | setupHalted | setupHanded | setupDone | setupPassed | setupFailed | setupLost | dropped
    | doomed | admitted | resolved | closed => exact spared
    | refused meant queue found =>
      have rests := ((backed_of_trace run).reason meant queue found).1
      exact spared.update found rfl fun _ => by rw [rests.skipped silent]
    | @dispatched other _ node _ _ found =>
      refine spared.update found rfl fun same => absurd ?_ never
      refine ⟨_, [], _, (List.append_nil _).symm, run.move .act moved, ?_⟩
      rw [State.progress?_setProgress, if_pos same, ← same]
      exact congrArg (Option.map _) (State.progress?_of_getElem? _ found)
    | gaveUp meant found =>
      have rests := ((backed_of_trace run).idle meant).2
      exact spared.update found rfl fun _ => by rw [rests.skipped silent]
    | started found | succeeded found | halted found | handed found | replied found =>
      exact spared.update found rfl fun same =>
        absurd same (spared.elsewhere found (by simp [Progress.Moving]))
    | collected _ found =>
      exact spared.update found rfl fun same =>
        absurd same (spared.elsewhere found (by simp [Progress.Moving]))

end Traces

/-! ## The ways that are left -/

/-- What is to become of a node that waits. -/
inductive Lot where
  | dispatched
  | finished (status : NodeStatus)

/-- What the coordinator is about to make of a node, if it has one in mind. -/
def State.lot? (state : State) (position : Nat) : Option Lot :=
  match state.intent with
  | some .dispatch => if state.ready.head? = some position then some .dispatched else none
  | some (.refuse status) =>
      if state.ready.head? = some position then some (.finished status) else none
  | some (.giveUp other status) => if other = position then some (.finished status) else none
  | some (.giveUpAll status) => some (.finished status)
  | none => none

/-- What is to become of a node that waits when the run is aborted. -/
def State.lot (state : State) (position : Nat) : Lot :=
  (state.lot? position).getD (.finished state.leftOver)

section Lots
variable {state next : State} {position : Nat}

theorem lot_of_none (none : state.lot? position = none) :
    state.lot position = .finished state.leftOver := by
  rw [State.lot, none, Option.getD_none]

theorem lot_of_some {lot : Lot} (meant : state.lot? position = some lot) :
    state.lot position = lot := by
  rw [State.lot, meant, Option.getD_some]

theorem lot?_of_free (free : state.intent = none) (position : Nat) :
    state.lot? position = none := by
  rw [State.lot?, free]

-- What the coordinator means for the first node of the queue says nothing of the others.
theorem lot?_behind {rest : List Nat}
    (meant : state.intent = some .dispatch ∨ ∃ status, state.intent = some (.refuse status))
    (queue : state.ready = position :: rest) {other : Nat} (different : position ≠ other) :
    state.lot? other = none := by
  rcases meant with meant | ⟨status, meant⟩ <;> simp [State.lot?, meant, queue, different]

theorem lot_of_same (intent : next.intent = state.intent) (ready : next.ready = state.ready)
    (token : next.token = state.token) (position : Nat) :
    next.lot position = state.lot position := by
  simp only [State.lot, State.lot?, State.leftOver, intent, ready, token]

theorem lot_of_neither (before : state.lot? position = none) (after : next.lot? position = none)
    (token : next.token = state.token) : next.lot position = state.lot position := by
  rw [lot_of_none before, lot_of_none after, State.leftOver, State.leftOver, token]

theorem lot_of_free (free : state.intent = none) (intent : next.intent = state.intent)
    (token : next.token = state.token) (position : Nat) :
    next.lot position = state.lot position :=
  lot_of_neither (lot?_of_free free position) (lot?_of_free (intent.trans free) position) token

theorem lot?_cases {lot : Lot} (meant : state.lot? position = some lot) :
    (lot = .dispatched ∧ state.intent = some .dispatch ∧ state.ready.head? = some position) ∨
    ∃ status, lot = .finished status ∧
      (state.intent = some (.refuse status) ∧ state.ready.head? = some position ∨
        state.intent = some (.giveUp position status) ∨
          state.intent = some (.giveUpAll status)) := by
  unfold State.lot? at meant
  split at meant
  · rename_i intent
    split at meant <;> cases meant
    rename_i head
    exact Or.inl ⟨rfl, intent, head⟩
  · rename_i status intent
    split at meant <;> cases meant
    rename_i head
    exact Or.inr ⟨status, rfl, Or.inl ⟨intent, head⟩⟩
  · rename_i status intent
    split at meant <;> cases meant
    rename_i same
    exact Or.inr ⟨status, rfl, Or.inr (Or.inl (same ▸ intent))⟩
  · rename_i status intent
    cases meant
    exact Or.inr ⟨status, rfl, Or.inr (Or.inr intent)⟩
  · cases meant

theorem intent_of_dispatched (meant : state.lot? position = some .dispatched) :
    state.intent = some .dispatch := by
  rcases lot?_cases meant with ⟨_, intent, _⟩ | ⟨_, other, _⟩
  · exact intent
  · cases other

-- What the coordinator has in mind waits, like everything else that has not begun.
theorem waiting_of_lot? (backed : Backed state) {lot : Lot}
    (meant : state.lot? position = some lot) {node : ExecutionNode} {progress : Progress}
    (found : state.cells[position]? = some ⟨node, progress⟩)
    (unfinished : ∀ report, progress ≠ .finished report) : progress = .waiting := by
  have first : ∀ other, state.First other → state.ready.head? = some position →
      progress = .waiting := by
    rintro other ⟨front, rest, queue, waits⟩ head
    rw [queue, List.head?_cons, Option.some.injEq] at head
    subst head
    rw [found] at waits
    cases waits
    rfl
  have still : state.isIdle = true → progress = .waiting := by
    intro idle
    by_contra begun
    exact not_moving_of_isIdle idle (state.progress?_of_getElem? found) ⟨begun, unfinished⟩
  rcases lot?_cases meant with ⟨_, intent, head⟩ | ⟨_, _, ⟨intent, head⟩ | intent | intent⟩
  · obtain ⟨other, stands, _⟩ := backed _ intent
    exact first other stands head
  · obtain ⟨other, stands, _⟩ := backed _ intent
    exact first other stands head
  · exact still (backed _ intent).1
  · exact still (backed _ intent).1

-- As long as nobody cancels, a node that is not dispatched is skipped.
theorem status_of_lot? (backed : Backed state) (silent : state.token = false)
    {status : NodeStatus} (meant : state.lot? position = some (.finished status)) :
    status = .skipped := by
  suffices rests : state.Rests status from rests.skipped silent
  rcases lot?_cases meant with ⟨other, _⟩ | ⟨_, same, ⟨intent, _⟩ | intent | intent⟩
  · cases other
  · cases same
    obtain ⟨_, _, rests, _⟩ := backed _ intent
    exact rests
  · cases same
    obtain ⟨_, _, rests, _⟩ := backed _ intent
    exact rests
  · cases same
    obtain ⟨_, _, rests⟩ := backed _ intent
    exact rests

end Lots

/-- What a node does of itself when the run is aborted, or what becomes of it. -/
inductive WindsStep (node : ExecutionNode) (lot : Lot) : Progress → Progress → Prop where
  | refused {status : NodeStatus} (drawn : lot = .finished status) :
      WindsStep node lot .waiting (.finished (.notRun node.name status))
  | dispatched (drawn : lot = .dispatched) : WindsStep node lot .waiting .dispatched
  | started : WindsStep node lot .dispatched (.running [] node.tasks)
  | succeeded {results : List TaskResult} :
      WindsStep node lot (.running results [])
        (.ended ⟨node.name, .succeeded, results, true, none⟩ none)
  | halted {results : List TaskResult} {task : Task} {rest : List Task} :
      WindsStep node lot (.running results (task :: rest))
        (.ended ⟨node.name, .cancelled, results, true, some cancelledText⟩ none)
  | replied {results : List TaskResult} {task : Task} {rest : List Task} (outcome : Outcome) :
      WindsStep node lot (.inFlight results task rest)
        (Cell.judged ⟨node, .inFlight results task rest⟩ results task rest
          (Verdict.judge task.kind outcome))
  | collected {report : NodeReport} {fatal : Option String} :
      WindsStep node lot (.ended report fatal) (.finished report)

/-- One step after the other. -/
abbrev Winds (node : ExecutionNode) (lot : Lot) : Progress → Progress → Prop :=
  Relation.ReflTransGen (WindsStep node lot)

/-- What stays as it was at the alarm, and how the nodes have moved on. -/
structure Stopped (alarm state : State) : Prop where
  aborted : state.aborted = true
  token : state.token = alarm.token
  handovers : state.handovers = alarm.handovers
  nodes : ∀ (position : Nat) (node : ExecutionNode) (old : Progress),
    alarm.cells[position]? = some ⟨node, old⟩ → ∃ new, state.cells[position]? = some ⟨node, new⟩ ∧
      Winds node (alarm.lot position) old new
  lots : ∀ (position : Nat) (node : ExecutionNode),
    state.cells[position]? = some ⟨node, .waiting⟩ → state.lot position = alarm.lot position

namespace Stopped
variable {alarm state next : State}

theorem refl (aborted : state.aborted = true) : Stopped state state :=
  ⟨aborted, rfl, rfl, fun _ _ old found => ⟨old, found, .refl⟩, fun _ _ _ => rfl⟩

theorem keep (stopped : Stopped alarm state) (aborted : next.aborted = true)
    (token : next.token = state.token) (handovers : next.handovers = state.handovers)
    (cells : next.cells = state.cells) (lots : ∀ position, next.lot position = state.lot position) :
    Stopped alarm next := by
  refine ⟨aborted, token.trans stopped.token, handovers.trans stopped.handovers, ?_, ?_⟩
  · rw [cells]
    exact stopped.nodes
  · intro position node found
    rw [lots]
    exact stopped.lots position node (cells ▸ found)

theorem update (stopped : Stopped alarm state) (aborted : next.aborted = true)
    (token : next.token = state.token) (handovers : next.handovers = state.handovers)
    {position : Nat} {node : ExecutionNode} {old progress : Progress}
    (found : state.cells[position]? = some ⟨node, old⟩)
    (cells : next.cells = (state.setProgress position progress).cells)
    (begun : progress ≠ .waiting)
    (lots : ∀ other, position ≠ other → next.lot other = state.lot other)
    (winds : WindsStep node (alarm.lot position) old progress) : Stopped alarm next := by
  refine ⟨aborted, token.trans stopped.token, handovers.trans stopped.handovers, ?_, ?_⟩
  · intro other otherNode before first
    obtain ⟨middle, stored, before⟩ := stopped.nodes other otherNode before first
    rw [cells, State.getElem?_setProgress, stored]
    by_cases same : position = other
    · subst same
      rw [found, Option.some.injEq, Cell.mk.injEq] at stored
      obtain ⟨rfl, rfl⟩ := stored
      exact ⟨progress, by simp, before.tail winds⟩
    · exact ⟨middle, if_neg same, before⟩
  · intro other otherNode waits
    rcases state.cases_setProgress found cells waits with ⟨_, _, same⟩ | ⟨different, stored⟩
    · exact absurd same.symm begun
    · exact (lots other different).trans (stopped.lots other otherNode stored)

end Stopped

section Steps
variable {graph : ExecutionGraph} {moves : List Move} {alarm state next : State}

theorem Stopped.step (stopped : Stopped alarm state) (run : Trace graph moves state)
    {move : Move} (moved : state.move? move = some next)
    (steady : state.token = true ∨ move ≠ .cancel) : Stopped alarm next := by
  have aborted := stopped.aborted
  have backed := backed_of_trace run
  -- Before the setup is over only the caller can have raised the alarm.
  have fired : state.setup.isOver = false → state.token = true := by
    intro going
    rcases Bool.or_eq_true_iff.mp aborted with fired | told
    · exact fired
    · rw [isOver_of_fatal run told] at going
      cases going
  have alarmed : ∀ other : State, other.token = state.token → other.fatal = state.fatal →
      other.aborted = true := by
    intro other token fatal
    rw [State.aborted, token, fatal]
    exact aborted
  cases step_of_move? moved with
  | cancelled silent => simp [silent] at steady
  | setupHalted current | setupFailed current =>
    have fired := fired (by simp [current, Setup.isOver])
    exact stopped.keep (by simp [State.aborted, State.stopSetup, fired]) rfl rfl rfl
      (lot_of_same rfl rfl rfl)
  | setupHanded current silent =>
    have fired := fired (by simp [current, Setup.isOver])
    simp [silent] at fired
  | setupDone current =>
    have untouched := untouched_of_trace run (by simp [current, Setup.isOver])
    exact stopped.keep (alarmed _ rfl rfl) rfl rfl rfl (lot_of_free untouched.intent rfl rfl)
  | setupPassed | setupLost | closed =>
    exact stopped.keep (alarmed _ rfl rfl) rfl rfl rfl (lot_of_same rfl rfl rfl)
  | dropped free => exact stopped.keep (alarmed _ rfl rfl) rfl rfl rfl (lot_of_free free rfl rfl)
  | doomed free queue found reason =>
    refine stopped.keep (alarmed _ rfl rfl) rfl rfl rfl fun position => ?_
    rcases reason with ⟨_, rfl⟩ | ⟨calm, _⟩
    · rw [lot_of_none (lot?_of_free free position)]
      simp only [State.lot, State.lot?]
      split <;> rfl
    · simp [calm] at aborted
  | admitted _ _ _ calm | handed _ calm => simp [calm] at aborted
  | @refused position rest node status meant queue found =>
    have drawn : alarm.lot position = .finished status := by
      rw [← stopped.lots position node found]
      simp [State.lot, State.lot?, meant, queue]
    refine stopped.update (alarmed _ rfl rfl) rfl rfl found rfl (by simp) ?_ (.refused drawn)
    intro other different
    exact lot_of_neither (lot?_behind (Or.inr ⟨_, meant⟩) queue different) rfl rfl
  | @dispatched position rest node meant queue found =>
    have drawn : alarm.lot position = .dispatched := by
      rw [← stopped.lots position node found]
      simp [State.lot, State.lot?, meant, queue]
    refine stopped.update (alarmed _ rfl rfl) rfl rfl found rfl (by simp) ?_ (.dispatched drawn)
    intro other different
    exact lot_of_neither (lot?_behind (Or.inl meant) queue different) rfl rfl
  | started found =>
    exact stopped.update (alarmed _ rfl rfl) rfl rfl found rfl (by simp)
      (fun other _ => lot_of_same rfl rfl rfl other) .started
  | succeeded found =>
    exact stopped.update (alarmed _ rfl rfl) rfl rfl found rfl (by simp)
      (fun other _ => lot_of_same rfl rfl rfl other) .succeeded
  | halted found =>
    exact stopped.update (alarmed _ rfl rfl) rfl rfl found rfl (by simp)
      (fun other _ => lot_of_same rfl rfl rfl other) .halted
  | replied found =>
    exact stopped.update (alarmed _ rfl rfl) rfl rfl found rfl (moving_judged _ _ _ _ _).1
      (fun other _ => lot_of_same rfl rfl rfl other) (.replied _)
  | @collected _ _ _ fatal empty found =>
    have free := backed.free empty found (by simp [Progress.Moving])
    refine stopped.update ?_ rfl rfl found rfl (by simp) ?_ .collected
    · change (state.token || (state.fatal <|> fatal).isSome) = true
      rcases Bool.or_eq_true_iff.mp aborted with fired | told
      · simp [fired]
      · simp [told]
    · intro other _
      refine lot_of_free ?_ ?_ ?_ other
      · exact free
      · rfl
      · rfl
  | @resolved intent free idle looked =>
    refine stopped.keep (alarmed _ rfl rfl) rfl rfl rfl fun position => ?_
    rw [lot_of_none (lot?_of_free free position)]
    rcases looked with ⟨_, other, _, _, rfl⟩ | ⟨_, rfl⟩
    · simp only [State.lot, State.lot?]
      split <;> rfl
    · rfl
  | @gaveUp position node status later meant found =>
    have drawn : alarm.lot position = .finished status := by
      rw [← stopped.lots position node found]
      rcases meant with ⟨meant, _⟩ | ⟨meant, _⟩ <;> simp [State.lot, State.lot?, meant]
    refine stopped.update (alarmed _ rfl rfl) rfl rfl found rfl (by simp) ?_ (.refused drawn)
    intro other different
    rcases meant with ⟨meant, rfl⟩ | ⟨meant, rfl⟩
    · have elsewhere : state.lot? other = none := by simp [State.lot?, meant, different]
      exact lot_of_neither elsewhere rfl rfl
    · exact lot_of_same rfl rfl rfl other

theorem stopped_of_moves {rest : List Move} {ending : State} (stopped : Stopped alarm state)
    (run : Trace graph moves state) (moved : state.moves? rest = some ending)
    (steady : state.token = true ∨ .cancel ∉ rest) : Stopped alarm ending := by
  induction rest generalizing moves state with
  | nil =>
    cases moved
    exact stopped
  | cons move rest ih =>
    obtain ⟨next, first, later⟩ := Option.bind_eq_some_iff.mp moved
    have step := stopped.step run first <| by
      refine steady.imp id ?_
      rintro calm rfl
      exact calm List.mem_cons_self
    refine ih step (run.move move first) later ?_
    rw [step.token, ← stopped.token]
    exact steady.imp id fun calm member => calm (List.mem_cons_of_mem _ member)

end Steps

/-! ## Where the ways lead -/

section Winds
variable {node : ExecutionNode} {lot : Lot} {report : NodeReport}

theorem eq_of_finished_winds {progress : Progress}
    (winds : Winds node lot (.finished report) progress) : progress = .finished report := by
  rcases winds.cases_head with same | ⟨_, step, _⟩
  · exact same.symm
  · cases step

theorem not_winds_dispatched {status : NodeStatus} {progress : Progress}
    (winds : Winds node (.finished status) progress .dispatched) : progress = .dispatched := by
  rcases winds.cases_tail with same | ⟨before, _, step⟩
  · exact same.symm
  · generalize same : Progress.dispatched = after at step
    cases step with
    | replied outcome =>
      rcases judged_cases _ _ _ _ (Verdict.judge _ outcome) with ⟨_, goesOn⟩ | ⟨_, _, ended, _⟩
      · rw [goesOn] at same
        cases same
      · rw [ended] at same
        cases same
    | dispatched drawn => cases drawn
    | refused | started | succeeded | halted | collected => cases same

theorem report_of_waiting {status : NodeStatus}
    (winds : Winds node (.finished status) .waiting (.finished report)) :
    report = .notRun node.name status := by
  rcases winds.cases_head with same | ⟨_, step, later⟩
  · cases same
  · cases step with
    | refused drawn =>
      cases drawn
      cases eq_of_finished_winds later
      rfl
    | dispatched drawn => cases drawn

theorem report_of_ended {ended : NodeReport} {fatal : Option String}
    (winds : Winds node lot (.ended ended fatal) (.finished report)) : report = ended := by
  rcases winds.cases_head with same | ⟨_, step, later⟩
  · cases same
  · cases step
    cases eq_of_finished_winds later
    rfl

/-- What a node has to show that ends between two statements. -/
def Interrupted (node : ExecutionNode) (results : List TaskResult) : List Task → NodeReport
  | [] => ⟨node.name, .succeeded, results, true, none⟩
  | _ :: _ => ⟨node.name, .cancelled, results, true, some cancelledText⟩

theorem status_of_interrupted (node : ExecutionNode) (results : List TaskResult)
    (rest : List Task) :
    (Interrupted node results rest).status = .succeeded ∨
      (Interrupted node results rest).status = .cancelled := by
  cases rest with
  | nil => exact Or.inl rfl
  | cons => exact Or.inr rfl

-- Between two statements nothing can fail.
theorem report_of_running {results : List TaskResult} {rest : List Task}
    (winds : Winds node lot (.running results rest) (.finished report)) :
    report = Interrupted node results rest := by
  rcases winds.cases_head with same | ⟨_, step, later⟩
  · cases same
  · cases step with
    | succeeded => exact report_of_ended later
    | halted => exact report_of_ended later

theorem report_of_dispatched (winds : Winds node lot .dispatched (.finished report)) :
    report = Interrupted node [] node.tasks := by
  rcases winds.cases_head with same | ⟨_, step, later⟩
  · cases same
  · cases step
    exact report_of_running later

theorem report_of_late (winds : Winds node .dispatched .waiting (.finished report)) :
    report = Interrupted node [] node.tasks := by
  rcases winds.cases_head with same | ⟨_, step, later⟩
  · cases same
  · cases step with
    | refused drawn => cases drawn
    | dispatched => exact report_of_dispatched later

theorem judged_of_inFlight {results : List TaskResult} {task : Task} {rest : List Task}
    (winds : Winds node lot (.inFlight results task rest) (.finished report)) :
    (report.status = .succeeded ∨ report.status = .cancelled) ∨
      ∃ outcome fatal, Cell.judged ⟨node, .inFlight results task rest⟩ results task rest
        (Verdict.judge task.kind outcome) = .ended report fatal := by
  rcases winds.cases_head with same | ⟨_, step, later⟩
  · cases same
  · cases step with
    | replied outcome =>
      rcases judged_cases ⟨node, .inFlight results task rest⟩ results task rest
        (Verdict.judge task.kind outcome) with ⟨_, goesOn⟩ | ⟨ended, fatal, verdict, _⟩
      · rw [goesOn] at later
        rw [report_of_running later]
        exact Or.inl (status_of_interrupted _ _ _)
      · have same := verdict ▸ later
        rw [← report_of_ended same] at verdict
        exact Or.inr ⟨outcome, fatal, verdict⟩

end Winds
end SqlPipeline.Run
