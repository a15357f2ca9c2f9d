import SqlPipeline.Proofs.Run.Alarm
import SqlPipeline.Proofs.Run.Handover
import SqlPipeline.Proofs.Run.Report

/-!
What listeners are told. Under a name that only one node has they hear once how the node ended, and
before that, if the node was dispatched, that it has begun. A node begins only after everything it
depends on has been announced as succeeded. A run that loses its setup to a panic announces nothing.
-/

namespace SqlPipeline.Run

/-- The statuses announced under a name, in order. -/
def State.announced (state : State) (name : ActionName) : List NodeStatus :=
  (state.events.filter fun event => event.name == name).map Event.status

theorem mem_announced {state : State} {name : ActionName} {status : NodeStatus} :
    status ∈ state.announced name ↔ ⟨name, status⟩ ∈ state.events := by
  simp only [State.announced, List.mem_map, List.mem_filter, beq_iff_eq]
  constructor
  · rintro ⟨event, ⟨member, rfl⟩, rfl⟩
    exact member
  · intro member
    exact ⟨_, ⟨member, rfl⟩, rfl⟩

theorem announced_of_events {state next : State} {name : ActionName} {told : List NodeStatus}
    (events : next.events = state.events ++ told.map (Event.mk name)) (other : ActionName) :
    next.announced other = state.announced other ++ if name = other then told else [] := by
  by_cases same : name = other <;>
    simp [State.announced, events, List.filter_append, List.filter_map, Function.comp_def, same]

theorem names_apart {graph : ExecutionGraph} (distinct : graph.nodeNames.Nodup)
    {position other : Nat} {node second : ExecutionNode}
    (known : graph.nodes[position]? = some node) (knownOther : graph.nodes[other]? = some second)
    (same : node.name = second.name) : position = other := by
  have place := Readiness.position?_of_getElem? distinct (ExecutionGraph.nodeNames_of_known known)
  have placeOther :=
    Readiness.position?_of_getElem? distinct (ExecutionGraph.nodeNames_of_known knownOther)
  rw [same, placeOther, Option.some.injEq] at place
  exact place.symm

/-! ## Dispatched nodes -/

section Dispatched
variable {graph : ExecutionGraph} {moves : List Move} {state next : State} {move : Move}
  {position : Nat}

theorem dispatched_now (run : Trace graph moves state)
    (found : state.progress? position = some .dispatched) : Dispatched graph moves position :=
  ⟨moves, [], state, (List.append_nil moves).symm, run, found⟩

theorem dispatched_snoc_iff (run : Trace graph moves state) (moved : state.move? move = some next) :
    Dispatched graph (moves ++ [move]) position ↔
      Dispatched graph moves position ∨ next.progress? position = some .dispatched := by
  constructor
  · rintro ⟨before, after, middle, split, part, found⟩
    rcases List.eq_nil_or_concat after with rfl | ⟨rest, last, rfl⟩
    · rw [List.append_nil] at split
      subst split
      have same := part.moves?.symm.trans (run.move move moved).moves?
      rw [Option.some.injEq] at same
      exact Or.inr (same ▸ found)
    · rw [List.concat_eq_append, ← List.append_assoc] at split
      exact Or.inl ⟨before, rest, middle, (List.append_inj' split rfl).1, part, found⟩
  · rintro (earlier | now)
    · exact earlier.later [move]
    · exact dispatched_now (run.move move moved) now

end Dispatched

/-! ## What is told of a node -/

/-- What has been announced of a node by its progress. -/
inductive Told (node : ExecutionNode) (dispatched : Prop) : Progress → List NodeStatus → Prop where
  | waiting (never : ¬ dispatched) : Told node dispatched .waiting []
  | dispatched (taken : dispatched) : Told node dispatched .dispatched []
  | begun (taken : dispatched) {progress : Progress} (moving : progress.Moving)
      (started : progress ≠ .dispatched) : Told node dispatched progress [.running]
  | ended (taken : dispatched) {report : NodeReport} (ran : report.status ≠ .skipped) :
      Told node dispatched (.finished report) [.running, report.status]
  | notRun (never : ¬ dispatched) (status : NodeStatus) :
      Told node dispatched (.finished (.notRun node.name status)) [status]

/-- What listeners have heard fits the progress of every node. -/
def Announces (graph : ExecutionGraph) (moves : List Move) (state : State) : Prop :=
  ∀ position node progress, state.cells[position]? = some ⟨node, progress⟩ →
    Told node (Dispatched graph moves position) progress (state.announced node.name)

section Steps
variable {graph : ExecutionGraph} {moves : List Move} {state next : State} {move : Move}

theorem Announces.keep (announces : Announces graph moves state) (run : Trace graph moves state)
    (moved : state.move? move = some next) (cells : next.cells = state.cells)
    (events : next.events = state.events) : Announces graph (moves ++ [move]) next := by
  intro position node progress found
  have same : Dispatched graph (moves ++ [move]) position ↔ Dispatched graph moves position := by
    rw [dispatched_snoc_iff run moved, or_iff_left_iff_imp, State.progress?, cells]
    exact dispatched_now run
  rw [same, State.announced, events]
  exact announces position node progress (cells ▸ found)

-- Only one node moves on, and nothing is announced under another name than its own.
theorem Announces.update (announces : Announces graph moves state)
    (distinct : graph.nodeNames.Nodup) (run : Trace graph moves state)
    (moved : state.move? move = some next) {position : Nat} {node : ExecutionNode}
    {old progress : Progress} (told : List NodeStatus)
    (found : state.cells[position]? = some ⟨node, old⟩)
    (cells : next.cells = (state.setProgress position progress).cells)
    (events : next.events = state.events ++ told.map (Event.mk node.name))
    (own : ∀ (taken : Prop) (before : List NodeStatus), Told node taken old before →
      Told node (taken ∨ progress = .dispatched) progress (before ++ told)) :
    Announces graph (moves ++ [move]) next := by
  intro other second current stored
  have nodes := nodes_of_trace run
  rw [announced_of_events events, dispatched_snoc_iff run moved, progress?_of_cells cells]
  rcases state.cases_setProgress found cells stored with ⟨rfl, rfl, rfl⟩ | ⟨different, foundOther⟩
  · have here : (state.progress? position).map (fun _ => current) = some current := by
      rw [state.progress?_of_getElem? found, Option.map_some]
    rw [if_pos rfl, if_pos rfl, here, Option.some.injEq]
    exact own _ _ (announces position second old found)
  · have apart : node.name ≠ second.name := fun same => different
      (names_apart distinct (known_of_found nodes found) (known_of_found nodes foundOther) same)
    rw [if_neg different, if_neg apart, List.append_nil, or_iff_left_of_imp (dispatched_now run)]
    exact announces other second current foundOther

end Steps

section Told
variable {node : ExecutionNode} {taken : Prop} {heard : List NodeStatus}

theorem Told.running {results : List TaskResult} {rest : List Task}
    (told : Told node taken (.running results rest) heard) : heard = [.running] := by
  cases told with
  | begun => rfl

theorem Told.finished {report : NodeReport} (told : Told node taken (.finished report) heard) :
    taken ∧ report.status ≠ .skipped ∧ heard = [.running, report.status] ∨
      ¬ taken ∧ heard = [report.status] := by
  cases told with
  | begun _ moving => exact absurd rfl (moving.2 report)
  | ended taken ran => exact Or.inl ⟨taken, ran, rfl⟩
  | notRun never => exact Or.inr ⟨never, rfl⟩

end Told

theorem Told.refuse {node : ExecutionNode} {status : NodeStatus} (taken : Prop)
    (before : List NodeStatus) (told : Told node taken .waiting before) :
    Told node (taken ∨ Progress.finished (.notRun node.name status) = .dispatched)
      (.finished (.notRun node.name status)) (before ++ [status]) := by
  cases told with
  | waiting never => exact .notRun (by simpa using never) status
  | begun _ moving => exact absurd rfl moving.1

theorem Told.advance {node : ExecutionNode} {old progress : Progress} (going : old.Moving)
    (started : old ≠ .dispatched) (moving : progress.Moving) (new : progress ≠ .dispatched)
    (taken : Prop) (before : List NodeStatus) (told : Told node taken old before) :
    Told node (taken ∨ progress = .dispatched) progress (before ++ []) := by
  rw [List.append_nil]
  cases told with
  | waiting => exact absurd rfl going.1
  | dispatched => exact absurd rfl started
  | begun taken => exact .begun (Or.inl taken) moving new
  | ended | notRun => exact absurd rfl (going.2 _)

theorem Told.collect {node : ExecutionNode} {report : NodeReport} {fatal : Option String}
    (ran : report.status ≠ .skipped) (taken : Prop) (before : List NodeStatus)
    (told : Told node taken (.ended report fatal) before) :
    Told node (taken ∨ Progress.finished report = .dispatched) (.finished report)
      (before ++ [report.status]) := by
  cases told with
  | begun taken => exact .ended (Or.inl taken) ran

theorem ends_of_ended {graph : ExecutionGraph} {moves : List Move} {state : State}
    (run : Trace graph moves state) {position : Nat} {node : ExecutionNode} {report : NodeReport}
    {fatal : Option String} (found : state.cells[position]? = some ⟨node, .ended report fatal⟩) :
    Ends node report fatal (state.handedTo (some position)) (answersTo (some position) moves) := by
  cases recorded_of_trace run position node _ found with
  | ended ends => exact ends

theorem announces_of_trace {graph : ExecutionGraph} (distinct : graph.nodeNames.Nodup)
    {moves : List Move} {state : State} (run : Trace graph moves state) :
    Announces graph moves state := by
  induction run with
  | start =>
    intro position node progress found
    simp only [start, List.getElem?_map, Option.map_eq_some_iff, Cell.mk.injEq] at found
    obtain ⟨_, _, _, rfl⟩ := found
    refine .waiting ?_
    rintro ⟨before, after, state, split, part, dispatched⟩
    obtain ⟨rfl, rfl⟩ := List.append_eq_nil_iff.mp split.symm
    cases part.moves?
    simp [start, State.progress?] at dispatched
  | move move run moved ih =>
    have nodes := nodes_of_trace run
    cases step_of_move? moved with
    | cancelled | setupHalted | setupHanded | setupDone | setupPassed | setupFailed | setupLost
    | dropped | doomed | admitted | resolved | closed => exact ih.keep run moved rfl rfl
    | @refused _ _ _ status _ _ found =>
      exact ih.update distinct run moved [status] found rfl rfl Told.refuse
    | dispatched _ _ found =>
      refine ih.update distinct run moved [] found rfl (List.append_nil _).symm ?_
      intro taken before told
      cases told with
      | waiting => exact .dispatched (Or.inr rfl)
      | begun _ moving => exact absurd rfl moving.1
    | started found =>
      refine ih.update distinct run moved [.running] found rfl rfl ?_
      intro taken before told
      cases told with
      | dispatched taken => exact .begun (Or.inl taken) (by simp [Progress.Moving]) (by simp)
      | begun _ _ started => exact absurd rfl started
    | succeeded found | halted found | handed found =>
      exact ih.update distinct run moved [] found rfl (List.append_nil _).symm
        (Told.advance (by simp [Progress.Moving]) (by simp) (by simp [Progress.Moving]) (by simp))
    | @replied position node results task rest outcome found =>
      refine ih.update distinct run moved [] found rfl (List.append_nil _).symm
        (Told.advance (by simp [Progress.Moving]) (by simp) (moving_judged _ _ _ _ _) ?_)
      cases Verdict.judge task.kind outcome <;> simp [Cell.judged, Cell.fail]
    | @collected position node report fatal _ found =>
      have ends := ends_of_ended run found
      have ran : report.status ≠ .skipped := by
        rcases ends.status with same | same | same <;> simp [same]
      refine ih.update distinct run moved [report.status] found rfl ?_ (Told.collect ran)
      rw [← ends.name]
      rfl
    | @gaveUp _ _ status _ _ found =>
      exact ih.update distinct run moved [status] found rfl rfl Told.refuse

section Hearing
variable {graph : ExecutionGraph} {moves : List Move} {state : State} {position : Nat}
  {node : ExecutionNode}

theorem announced_of_succeeded (announces : Announces graph moves state)
    (nodes : state.cells.map Cell.node = graph.nodes)
    (known : graph.nodes[position]? = some node) (well : state.Succeeded position) :
    .succeeded ∈ state.announced node.name := by
  obtain ⟨report, past, status⟩ := well
  obtain ⟨progress, found⟩ := found_of_known nodes known
  rw [state.progress?_of_getElem? found, Option.some.injEq] at past
  have past : progress = .finished report := past
  subst past
  rcases (announces position node _ found).finished with ⟨_, _, heard⟩ | ⟨_, heard⟩
  · simp [heard, status]
  · simp [heard, status]

theorem dispatched_of_running (distinct : graph.nodeNames.Nodup) (run : Trace graph moves state)
    (known : graph.nodes[position]? = some node)
    (heard : .running ∈ state.announced node.name) : Dispatched graph moves position := by
  obtain ⟨progress, found⟩ := found_of_known (nodes_of_trace run) known
  have told := announces_of_trace distinct run position node progress found
  generalize state.announced node.name = statuses at heard told
  cases told with
  | waiting | dispatched => cases heard
  | begun taken => exact taken
  | ended taken => exact taken
  | notRun never status =>
    have final := (recorded_of_trace run position node _ found).final
    rw [NodeReport.notRun, ← List.mem_singleton.mp heard] at final
    simp [NodeStatus.Final] at final

end Hearing

/-! ## Beginnings -/

/-- What is announced to begin comes after the success of everything it depends on. -/
def Led (graph : ExecutionGraph) (events : List Event) : Prop :=
  ∀ earlier later position node, graph.nodes[position]? = some node →
    events = earlier ++ ⟨node.name, .running⟩ :: later →
      ∀ dependency other, graph.DependsOn position dependency →
        graph.nodes[dependency]? = some other → ⟨other.name, .succeeded⟩ ∈ earlier

theorem split_append {Item : Type} {first second earlier later : List Item} {item : Item}
    (split : first ++ second = earlier ++ item :: later) :
    (∃ rest, first = earlier ++ item :: rest) ∨ item ∈ second ∧ first <+: earlier := by
  rcases List.append_eq_append_iff.mp split with ⟨more, rfl, rfl⟩ | ⟨more, rfl, rest⟩
  · exact Or.inr ⟨List.mem_append_right _ List.mem_cons_self, List.prefix_append first more⟩
  · cases more with
    | nil =>
      rw [List.nil_append] at rest
      exact Or.inr ⟨rest ▸ List.mem_cons_self, by simp⟩
    | cons head tail =>
      rw [List.cons_append, List.cons.injEq] at rest
      obtain ⟨rfl, _⟩ := rest
      exact Or.inl ⟨tail, rfl⟩

section Beginnings
variable {graph : ExecutionGraph} {moves : List Move} {state next : State} {move : Move}

theorem Led.keep {events told : List Event} (led : Led graph events)
    (quiet : ∀ event ∈ told, event.status ≠ .running) : Led graph (events ++ told) := by
  intro earlier later position node known split dependency other depends knownOther
  rcases split_append split with ⟨rest, before⟩ | ⟨member, _⟩
  · exact led earlier rest position node known before dependency other depends knownOther
  · exact absurd rfl (quiet _ member)

-- Only a node that was dispatched is announced to begin.
theorem events_of_step (run : Trace graph moves state) (step : Step state move next) :
    (∃ told, next.events = state.events ++ told ∧ ∀ event ∈ told, event.status ≠ .running) ∨
      ∃ (position : Nat) (node : ExecutionNode),
        state.cells[position]? = some ⟨node, .dispatched⟩ ∧ next.events =
          state.events ++ [⟨node.name, .running⟩] := by
  have backed := backed_of_trace run
  have resting : ∀ status, state.Rests status → status ≠ .running := by
    intro status rests
    rcases rests.quiet with rfl | rfl <;> simp
  cases step with
  | cancelled | setupHalted | setupHanded | setupDone | setupPassed | setupFailed | setupLost
  | dropped | doomed | admitted | dispatched | succeeded | halted | handed | replied | resolved
  | closed => exact Or.inl ⟨[], (List.append_nil _).symm, by simp⟩
  | @refused _ _ node status meant queue found =>
    refine Or.inl ⟨[⟨node.name, status⟩], rfl, ?_⟩
    simp [resting status (backed.reason meant queue found).1]
  | started found => exact Or.inr ⟨_, _, found, rfl⟩
  | @collected _ _ report _ _ found =>
    refine Or.inl ⟨[⟨report.name, report.status⟩], rfl, ?_⟩
    rcases (ends_of_ended run found).status with same | same | same <;> simp [same]
  | @gaveUp _ node status _ meant =>
    refine Or.inl ⟨[⟨node.name, status⟩], rfl, ?_⟩
    simp [resting status (backed.idle meant).2]

theorem led_of_trace (distinct : graph.nodeNames.Nodup) (run : Trace graph moves state) :
    Led graph state.events := by
  induction run with
  | start =>
    intro earlier later position node _ split
    simp [start] at split
  | @move moves state _ move run moved ih =>
    rcases events_of_step run (step_of_move? moved) with
      ⟨told, events, quiet⟩ | ⟨position, node, found, events⟩
    · rw [events]
      exact ih.keep quiet
    rw [events]
    intro earlier later dependent second known split dependency other depends knownOther
    rcases split_append split with ⟨rest, before⟩ | ⟨member, before⟩
    · exact ih earlier rest dependent second known before dependency other depends knownOther
    -- The node that begins is under way, so everything it depends on has succeeded.
    · have name : second.name = node.name := congrArg Event.name (List.mem_singleton.mp member)
      have nodes := nodes_of_trace run
      have same := names_apart distinct known (known_of_found nodes found) name
      subst same
      have going := state.progress?_of_getElem? found
      have needs := (needs_iff_dependsOn distinct dependent dependency).mpr depends
      have well := ordered_of_trace run dependent _ going (Or.inl (by simp [Progress.Moving]))
        dependency needs
      exact before.subset (mem_announced.mp
        (announced_of_succeeded (announces_of_trace distinct run) nodes knownOther well))

theorem events_of_going (run : Trace graph moves state) (going : state.setup.isOver = false) :
    state.events = [] := by
  induction run with
  | start => rfl
  | move move run moved ih =>
    cases step_of_move? moved with
    | cancelled => exact ih going
    | setupHalted | setupFailed | setupDone => simp [State.stopSetup, Setup.isOver] at going
    | setupHanded current | setupPassed current | setupLost current =>
      exact ih (by simp [current, Setup.isOver])
    | dropped _ queue | doomed _ queue | admitted _ queue =>
      rw [(untouched_of_trace run going).ready] at queue
      cases queue
    | refused meant | dispatched meant =>
      rw [(untouched_of_trace run going).intent] at meant
      cases meant
    | gaveUp meant => simp [(untouched_of_trace run going).intent] at meant
    | started found | succeeded found | halted found | handed found | replied found =>
      exact absurd found ((untouched_of_trace run going).not_found (by simp))
    | collected _ found => exact absurd found ((untouched_of_trace run going).not_found (by simp))
    | resolved _ idle | closed idle =>
      have past := isOver_of_isIdle idle
      exact absurd past (ne_true_of_eq_false going)

end Beginnings

/-! ## What listeners have heard -/

/-- What listeners can rely on at every moment of a run. -/
structure Heralds (graph : ExecutionGraph) (moves : List Move) (state : State) : Prop where
  dispatched : ∀ position node, graph.nodes[position]? = some node →
    .running ∈ state.announced node.name → Dispatched graph moves position
  handed : ∀ (move : Move) (next : State) (position : Nat) (node : ExecutionNode)
    (statement : String), graph.nodes[position]? = some node → state.move? move = some next →
      next.handovers = state.handovers ++ [⟨some position, statement⟩] →
        state.announced node.name = [.running]
  led : Led graph state.events

/-- What listeners have heard of a node by the end of a run, beside what the report says of it. -/
structure Heard (graph : ExecutionGraph) (moves : List Move) (state : State) (position : Nat)
    (node : ExecutionNode) (report : NodeReport) : Prop where
  name : report.name = node.name
  final : report.status.Final
  dispatched : Dispatched graph moves position →
    state.announced node.name = [.running, report.status]
  spared : ¬ Dispatched graph moves position → state.announced node.name = [report.status]
  skipped : report.status = .skipped → ¬ Dispatched graph moves position

section Heard
variable {graph : ExecutionGraph} {moves : List Move} {state : State}

theorem heralds_of_trace (distinct : graph.nodeNames.Nodup) (run : Trace graph moves state) :
    Heralds graph moves state := by
  constructor
  · intro position node known heard
    exact dispatched_of_running distinct run known heard
  · intro move next position node statement known moved handed
    obtain ⟨results, rest, going⟩ := running_of_handed (step_of_move? moved) handed
    obtain ⟨progress, found⟩ := found_of_known (nodes_of_trace run) known
    rw [state.progress?_of_getElem? found, Option.some.injEq] at going
    have going : progress = .running results rest := going
    subst going
    exact (announces_of_trace distinct run position node _ found).running
  · exact led_of_trace distinct run

theorem heard_of_closed (distinct : graph.nodeNames.Nodup) (run : Trace graph moves state)
    (present : ∀ message, state.setup ≠ .lost message) (closed : state.closed = true)
    {position : Nat} {node : ExecutionNode} (known : graph.nodes[position]? = some node) :
    ∃ report, state.report.nodes[position]? = some report ∧
      Heard graph moves state position node report := by
  obtain ⟨report, past⟩ := exists_report_of_closed run present closed known
  have accounts := recorded_of_trace run position node _ past
  refine ⟨report, nodes_report_of_finished past, ?_⟩
  rcases (announces_of_trace distinct run position node _ past).finished with
    ⟨taken, ran, heard⟩ | ⟨never, heard⟩
  · exact ⟨accounts.name, accounts.final, fun _ => heard, fun never => absurd taken never,
      fun skipped => absurd skipped ran⟩
  · exact ⟨accounts.name, accounts.final, fun taken => absurd taken never, fun _ => heard,
      fun _ => never⟩

end Heard

-- A panic in the setup is the only way to be left without an announcement.
theorem events_of_run {graph : ExecutionGraph} (distinct : graph.nodeNames.Nodup) :
    (∀ states : Nat → State, states 0 = start graph →
      ¬ ∀ time, ∃ move, (states time).move? move = some (states (time + 1))) ∧
    ∀ (moves : List Move) (state : State), Trace graph moves state →
      (∀ script, Follows script moves → ∃ rest ending, .cancel ∉ rest ∧
        Trace graph (moves ++ rest) ending ∧ Follows script (moves ++ rest) ∧
          ending.closed = true) ∧
      Heralds graph moves state ∧
      ((∃ message, .panic message ∈ answersTo none moves) → state.events = []) ∧
      (state.closed = true → (∀ message, .panic message ∉ answersTo none moves) →
        state.result = .ok state.report ∧
        ∀ position node, graph.nodes[position]? = some node →
          ∃ report, state.report.nodes[position]? = some report ∧
            Heard graph moves state position node report) := by
  refine ⟨fun states _ => not_endless states, ?_⟩
  intro moves state run
  refine ⟨fun script follows => follows.exists_end run, heralds_of_trace distinct run, ?_, ?_⟩
  · intro panics
    obtain ⟨message, panics⟩ := panics
    have lost := (lost_iff_panic run message).mpr panics
    exact events_of_going run (by rw [lost]; rfl)
  · intro closed sane
    have present := (present_iff run).mpr sane
    refine ⟨result_of_present present, ?_⟩
    intro position node known
    exact heard_of_closed distinct run present closed known

-- The node that has waited begins after the other one has succeeded; then its driver panics.
def pairEnded : List Move :=
  pairMoves ++ [.issue 0, .reply 0 (.panic none), .collect 0, .close]

example :
    ((start pair).moves? pairEnded).map
        (fun state => state.events.map fun event => (event.name.text, event.status)) =
      some [("early", .running), ("early", .succeeded), ("late", .running), ("late", .failed)] := by
  decide

theorem pair_events :
    pair.nodeNames.Nodup ∧ ∃ state, Trace pair pairEnded state ∧ state.closed = true ∧
      Heralds pair pairEnded state ∧ state.result = .ok state.report ∧
      ∀ position node, pair.nodes[position]? = some node →
        ∃ report, state.report.nodes[position]? = some report ∧
          Heard pair pairEnded state position node report := by
  have distinct : pair.nodeNames.Nodup := by decide
  obtain ⟨state, reached⟩ := Option.isSome_iff_exists.mp
    (show ((start pair).moves? pairEnded).isSome = true by decide)
  have closed : state.closed = true := by
    cases reached
    rfl
  have run := trace_of_moves? reached
  have sane : ∀ message, .panic message ∉ answersTo none pairEnded := by
    simp [answersTo, pairEnded, pairMoves, Move.answerTo?]
  obtain ⟨_, heralds, _, heard⟩ := (events_of_run distinct).2 pairEnded state run
  exact ⟨distinct, state, run, closed, heralds, heard closed sane⟩

-- The driver panics on the only setup statement, and no node is ever announced.
theorem unannounced_of_setup_panic :
    ¬ ∀ (graph : ExecutionGraph) (moves : List Move) (state : State), graph.nodeNames.Nodup →
      Trace graph moves state → state.closed = true →
        ∀ node ∈ graph.nodes, ∃ status : NodeStatus, status.Final ∧
          (state.announced node.name = [status] ∨
            state.announced node.name = [.running, status]) := by
  intro always
  have reached : (start pair).moves? [.issueSetup, .replySetup (.panic none)] =
      some { start pair with
        setup := .lost none, handovers := [⟨none, "create schema"⟩], closed := true } := by decide
  obtain ⟨status, _, single | double⟩ :=
    always pair _ _ (by decide) (trace_of_moves? reached) rfl _ List.mem_cons_self
  · cases single
  · cases double

end SqlPipeline.Run
