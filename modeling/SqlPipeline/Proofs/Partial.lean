import SqlPipeline.Proofs.Run.Alarm
import SqlPipeline.Proofs.Run.Chronology
import SqlPipeline.Proofs.Run.Ending
import SqlPipeline.Proofs.Selection

/-!
Waiting over several nodes. A node waits for everything that it depends on over a chain of nodes,
and is never executed when one of them does not succeed. A chain breaks where an action is left out
of the run: what is left out counts as done, so what comes before it is not waited for.
-/

namespace SqlPipeline

namespace Run

/-! ## Chains of nodes -/

theorem Accounts.ran_or_notRun {node : ExecutionNode} {report : NodeReport} {handed : List String}
    {outcomes : List Outcome} (accounts : Accounts node (.finished report) handed outcomes) :
    Progress.Ran (.finished report) ∨
      ∃ status, (status = .cancelled ∨ status = .skipped) ∧ report = .notRun node.name status := by
  cases accounts with
  | collected ends => exact Or.inl (Or.inr ⟨report, rfl, ends.ran⟩)
  | @notRun status quiet => exact Or.inr ⟨status, quiet, rfl⟩

section Chains
variable {graph : ExecutionGraph} {moves : List Move} {state : State} {position dependency : Nat}

theorem State.Succeeded.ran (well : state.Succeeded position) (run : Trace graph moves state) :
    ∃ progress, state.progress? position = some progress ∧ progress.Ran := by
  obtain ⟨report, past, status⟩ := well
  obtain ⟨⟨node, progress⟩, stored, same⟩ := Option.map_eq_some_iff.mp past
  have same : progress = .finished report := same
  subst same
  refine ⟨_, past, ?_⟩
  rcases (recorded_of_trace run position node _ stored).ran_or_notRun with
    ran | ⟨_, quiet, rfl⟩
  · exact ran
  · rcases quiet with rfl | rfl <;> cases status

theorem State.Succeeded.later {rest : List Move} {ending : State} (well : state.Succeeded position)
    (moved : state.moves? rest = some ending) : ending.Succeeded position := by
  induction rest generalizing state with
  | nil =>
    cases moved
    exact well
  | cons move rest ih =>
    obtain ⟨next, first, later⟩ := Option.bind_eq_some_iff.mp moved
    obtain ⟨report, past, status⟩ := well
    have stays := finished_stays (step_of_move? first) past
    exact ih ⟨report, stays, status⟩ later

-- Whatever a node depends on has run itself when it has succeeded, so the next link holds too.
theorem succeeded_of_chain (run : Trace graph moves state) {progress : Progress}
    (found : state.progress? position = some progress) (ran : progress.Ran)
    (chain : Relation.TransGen graph.Needs position dependency) : state.Succeeded dependency := by
  induction chain with
  | single needs => exact ordered_of_trace run position progress found ran _ needs
  | tail _ needs ih =>
    obtain ⟨other, foundOther, ranOther⟩ := ih.ran run
    exact ordered_of_trace run _ other foundOther ranOther _ needs

theorem succeeded_of_dispatched (run : Trace graph moves state)
    (dispatched : Dispatched graph moves position)
    (chain : Relation.TransGen graph.Needs position dependency) : state.Succeeded dependency := by
  obtain ⟨before, after, middle, rfl, first, found⟩ := dispatched
  have moving : Progress.Moving .dispatched := by simp [Progress.Moving]
  exact (succeeded_of_chain first found (Or.inl moving) chain).later (first.rest run)

theorem handedTo_of_idle (idle : ∀ handover ∈ state.handovers, handover.node ≠ some position) :
    state.handedTo (some position) = [] := by
  rw [State.handedTo, List.map_eq_nil_iff, List.filter_eq_nil_iff]
  intro handover member
  simpa using idle handover member

end Chains

/-- A node waits for another one, and is left alone for good when that one does not succeed. -/
structure Awaits (graph : ExecutionGraph) (moves : List Move) (state : State)
    (position dependency : Nat) : Prop where
  handed : ∀ (move : Move) (next : State) (statement : String), state.move? move = some next →
    next.handovers = state.handovers ++ [⟨some position, statement⟩] →
      ∀ node, graph.nodes[dependency]? = some node → state.Succeeded dependency ∧
        state.handedTo (some dependency) = node.tasks.map Task.statement ∧
        Pass node.tasks (answersTo (some dependency) moves)
  spared : ¬ state.Succeeded dependency →
    ¬ Dispatched graph moves position ∧ state.handedTo (some position) = []
  notRun : ¬ state.Succeeded dependency → state.closed = true →
    (∀ message, .panic message ∉ answersTo none moves) →
      ∀ node, graph.nodes[position]? = some node → ∃ status,
        (status = .cancelled ∨ status = .skipped) ∧
          state.report.nodes[position]? = some (.notRun node.name status)

theorem awaits_of_chain {graph : ExecutionGraph} {moves : List Move} {state : State}
    (run : Trace graph moves state) {position dependency : Nat}
    (chain : Relation.TransGen graph.Needs position dependency) :
    Awaits graph moves state position dependency := by
  constructor
  · intro move next statement moved handed node known
    obtain ⟨results, rest, found⟩ := running_of_handed (step_of_move? moved) handed
    have moving : Progress.Moving (.running results rest) := by simp [Progress.Moving]
    have well := succeeded_of_chain run found (Or.inl moving) chain
    exact ⟨well, well.pass run known⟩
  · intro ill
    constructor
    · exact fun dispatched => ill (succeeded_of_dispatched run dispatched chain)
    · apply handedTo_of_idle
      intro handover member owner
      obtain ⟨progress, found, ran⟩ := ran_of_handed run member owner
      exact ill (succeeded_of_chain run found ran chain)
  · intro ill closed sane node known
    obtain ⟨report, past⟩ := exists_report_of_closed run ((present_iff run).mpr sane) closed known
    have found := state.progress?_of_getElem? past
    rw [nodes_report_of_finished past]
    rcases (recorded_of_trace run position node _ past).ran_or_notRun with
      ran | ⟨status, quiet, rfl⟩
    · exact absurd (succeeded_of_chain run found ran chain) ill
    · exact ⟨status, quiet, rfl⟩

end Run

/-! ## Chains of actions -/

open Run

/-- An action lists the name of another one that is a node of the run. -/
def CompiledGraph.Keeps (graph : CompiledGraph) (run : ExecutionGraph)
    (dependent dependency : String) : Prop :=
  dependency ∈ run.nodeNames ∧
    ∃ action, graph.find? dependent = some action ∧ dependency ∈ action.dependencies

section Partial
variable {graph : CompiledGraph} {run : RunConfig} {lookup : Lookup} {built : Built}

theorem needs_of_keeps (good : build graph run lookup = .ok built) {position other : Nat}
    {dependent dependency : ExecutionNode} (known : built.graph.nodes[position]? = some dependent)
    (knownOther : built.graph.nodes[other]? = some dependency)
    (keeps : graph.Keeps built.graph dependent.name.text dependency.name.text) :
    built.graph.Needs position other := by
  obtain ⟨action, found, _, dependencies⟩ := action_of_node good (List.mem_of_getElem? known)
  obtain ⟨member, same, foundSame, lists⟩ := keeps
  rw [found, Option.some.injEq] at foundSame
  subst foundSame
  refine (needs_iff_dependsOn (nodup_of_build good) position other).mpr
    ⟨dependent, dependency, known, knownOther, ?_⟩
  rw [dependencies, List.mem_filter, List.contains_iff_mem]
  exact ⟨lists, member⟩

theorem chain_of_keeps (good : build graph run lookup = .ok built) {position : Nat}
    {dependent : ExecutionNode} (known : built.graph.nodes[position]? = some dependent)
    {name : String} (path : Relation.TransGen (graph.Keeps built.graph) dependent.name.text name) :
    ∀ (other : Nat) (dependency : ExecutionNode), built.graph.nodes[other]? = some dependency →
      dependency.name.text = name → Relation.TransGen built.graph.Needs position other := by
  induction path with
  | single keeps =>
    rintro other dependency knownOther rfl
    exact .single (needs_of_keeps good known knownOther keeps)
  | @tail middle _ before keeps ih =>
    rintro other dependency knownOther rfl
    obtain ⟨between, second, knownSecond, rfl⟩ := ExecutionGraph.exists_known (by
      cases before with
      | single first => exact first.1
      | tail _ last => exact last.1)
    exact (ih between second knownSecond rfl).tail
      (needs_of_keeps good knownSecond knownOther keeps)

end Partial

theorem awaits_of_build {graph : CompiledGraph} {run : RunConfig} {lookup : Lookup} {built : Built}
    (good : build graph run lookup = .ok built) {moves : List Move} {state : State}
    (trace : Trace built.graph moves state) {later earlier : Nat}
    {dependent dependency : ExecutionNode} (known : built.graph.nodes[later]? = some dependent)
    (knownEarlier : built.graph.nodes[earlier]? = some dependency)
    (path : Relation.TransGen (graph.Keeps built.graph) dependent.name.text dependency.name.text) :
    Awaits built.graph moves state later earlier :=
  awaits_of_chain trace (chain_of_keeps good known path earlier dependency knownEarlier rfl)

-- The archive does not wait for the load, which has failed, because the action between them is left
-- out of the run.
def relayMoves : List Move :=
  [.issueSetup, .take, .act, .take, .act, .start 0, .issue 0,
    .reply 0 (.error (.execution "no such table")), .collect 0, .start 1]

-- The archive and the audit pass, and the statement of the node behind them is next.
def relayLater : List Move :=
  relayMoves ++ [.issue 1, .reply 1 (.rows Rows.empty), .issue 1, .collect 1, .take, .act, .start 2,
    .issue 2, .reply 2 (.rows Rows.empty), .issue 2, .collect 2, .take, .act, .start 3]

theorem keeps_relay :
    (compile .standard relay).Keeps relayGraph "ship" "audit" ∧
      (compile .standard relay).Keeps relayGraph "audit" "archive" := by
  constructor
  · exact ⟨by decide, _, rfl, by decide⟩
  · exact ⟨by decide, _, rfl, by decide⟩

theorem relay_awaits :
    ∃ state next ship archive,
      build (compile .standard relay) relayRun Catalog.empty.lookup = .ok ⟨relayGraph, [], []⟩ ∧
      Trace relayGraph relayLater state ∧ relayGraph.nodes[3]? = some ship ∧
      relayGraph.nodes[1]? = some archive ∧
      Relation.TransGen ((compile .standard relay).Keeps relayGraph) ship.name.text
        archive.name.text ∧
      state.move? (.issue 3) = some next ∧
      next.handovers = state.handovers ++ [⟨some 3, "run ship"⟩] ∧
      Awaits relayGraph relayLater state 3 1 := by
  obtain ⟨state, reached⟩ := Option.isSome_iff_exists.mp
    (show ((start relayGraph).moves? relayLater).isSome = true by decide)
  have moved : state.move? (.issue 3) = some
      ((state.setProgress 3 (.inFlight [] (.plain "run ship") [])).handOver (some 3)
        "run ship") := by
    cases reached
    rfl
  have run := trace_of_moves? reached
  have path : Relation.TransGen ((compile .standard relay).Keeps relayGraph) "ship" "archive" :=
    (Relation.TransGen.single keeps_relay.1).tail keeps_relay.2
  exact ⟨state, _, _, _, build_relay, run, rfl, rfl, path, moved, rfl,
    awaits_of_build build_relay run rfl rfl path⟩

theorem relay_acyclic :
    ∀ name, ¬ Relation.TransGen (compile .standard relay).DependsOn name name :=
  CompiledGraph.acyclic_of_rank (["load", "clean", "archive", "audit", "ship"].idxOf ·) (by decide)

theorem not_awaits_of_omission :
    ¬ ∀ (graph : CompiledGraph) (run : RunConfig) (lookup : Lookup) (built : Built)
      (moves : List Move) (state : State) (later earlier : Nat)
      (dependent dependency : ExecutionNode), graph.errors = [] →
      (∀ name, ¬ Relation.TransGen graph.DependsOn name name) →
      build graph run lookup = .ok built → Trace built.graph moves state →
      built.graph.nodes[later]? = some dependent → built.graph.nodes[earlier]? = some dependency →
      Relation.TransGen graph.DependsOn dependent.name.text dependency.name.text →
        Awaits built.graph moves state later earlier := by
  intro always
  obtain ⟨state, reached⟩ := Option.isSome_iff_exists.mp
    (show ((start relayGraph).moves? relayMoves).isSome = true by decide)
  have sound : (compile .standard relay).errors = [] := by decide
  have path : Relation.TransGen (compile .standard relay).DependsOn "archive" "load" := by
    have first : (compile .standard relay).DependsOn "archive" "clean" := by
      unfold CompiledGraph.DependsOn
      decide
    have second : (compile .standard relay).DependsOn "clean" "load" := by
      unfold CompiledGraph.DependsOn
      decide
    exact (Relation.TransGen.single first).tail second
  have awaits := always _ _ _ _ relayMoves state 1 0 _ _ sound relay_acyclic build_relay
    (trace_of_moves? reached) rfl rfl path
  have moved : state.move? (.issue 1) = some
      ((state.setProgress 1 (.inFlight [] (.plain "run archive") [])).handOver (some 1)
        "run archive") := by
    cases reached
    rfl
  obtain ⟨⟨report, past, well⟩, _⟩ := awaits.handed _ _ "run archive" moved rfl _ rfl
  cases reached
  cases past
  cases well

end SqlPipeline
