import SqlPipeline.Proofs.Run.Handover

/-!
The order of statements. No statement of a node is handed over before the setup has passed, and none
before the last statement of everything that the node depends on.
-/

namespace SqlPipeline

/-- Whose statements have to come before those of another one; the setup has no position. -/
inductive ExecutionGraph.Precedes (graph : ExecutionGraph) : Option Nat → Option Nat → Prop where
  | setup (position : Nat) : Precedes graph none (some position)
  | dependency {dependent dependency : Nat} (depends : graph.DependsOn dependent dependency) :
      Precedes graph (some dependency) (some dependent)

namespace Run

section Owners
variable {graph : ExecutionGraph} {moves : List Move} {state : State} {position : Nat}
  {handover : Handover}

theorem passed_of_handed (run : Trace graph moves state) (member : handover ∈ state.handovers)
    (owner : handover.node = some position) : state.setup.isPassed = true := by
  induction run with
  | start => cases member
  | move move run moved ih =>
    cases step_of_move? moved with
    | setupHanded current =>
      rcases List.mem_append.mp member with earlier | last
      · have passed := ih earlier
        simp [current, Setup.isPassed] at passed
      · rw [List.mem_singleton.mp last] at owner
        cases owner
    | setupHalted current | setupFailed current | setupPassed current | setupLost current =>
      have passed := ih member
      simp [current, Setup.isPassed] at passed
    | setupDone => rfl
    | @handed other _ results task rest found =>
      obtain ⟨done, tracked⟩ := tracked_of_trace run
      have moving : Progress.Moving (.running results (task :: rest)) := by simp [Progress.Moving]
      exact (tracked.moving other _ (State.progress?_of_getElem? _ found) moving).1
    | cancelled | dropped | doomed | admitted | refused | dispatched | started | succeeded | halted
    | replied | collected | resolved | gaveUp | closed => exact ih member

theorem inside_of_handed (run : Trace graph moves state) (member : handover ∈ state.handovers)
    (owner : handover.node = some position) : position < graph.nodes.length := by
  induction run with
  | start => cases member
  | move move run moved ih =>
    cases step_of_move? moved with
    | setupHanded =>
      rcases List.mem_append.mp member with earlier | last
      · exact ih earlier
      · rw [List.mem_singleton.mp last] at owner
        cases owner
    | handed found =>
      rcases List.mem_append.mp member with earlier | last
      · exact ih earlier
      · rw [List.mem_singleton.mp last, Option.some.injEq] at owner
        subst owner
        exact inside_of_progress? (nodes_of_trace run) (State.progress?_of_getElem? _ found)
    | cancelled | setupHalted | setupDone | setupPassed | setupFailed | setupLost | dropped
    | doomed | admitted | refused | dispatched | started | succeeded | halted | replied | collected
    | resolved | gaveUp | closed => exact ih member

theorem mem_handedTo (member : handover ∈ state.handovers) (owner : handover.node = some position) :
    handover.statement ∈ state.handedTo (some position) := by
  apply List.mem_map_of_mem
  exact List.mem_filter.mpr ⟨member, by simp [owner]⟩

theorem Ends.ran {node : ExecutionNode} {report : NodeReport} {fatal : Option String}
    {handed : List String} {outcomes : List Outcome}
    (ends : Ends node report fatal handed outcomes) :
    report.started = true ∨ report.status = .failed := by
  cases ends with
  | whole | halted => exact Or.inl rfl
  | @judged _ task _ _ outcome _ _ _ _ verdict =>
    cases judged : Verdict.judge task.kind outcome with
    | passed =>
      rw [judged] at verdict
      cases verdict
    | failed | cancelled | fatal =>
      rw [judged] at verdict
      cases verdict
      exact Or.inl rfl
    | panicked =>
      rw [judged] at verdict
      cases verdict
      exact Or.inr rfl

theorem ran_of_handed (run : Trace graph moves state) (member : handover ∈ state.handovers)
    (owner : handover.node = some position) :
    ∃ progress, state.progress? position = some progress ∧ progress.Ran := by
  have inside := inside_of_handed run member owner
  obtain ⟨progress, found⟩ :=
    found_of_known (nodes_of_trace run) (List.getElem?_eq_getElem inside)
  refine ⟨progress, state.progress?_of_getElem? found, ?_⟩
  have accounts := recorded_of_trace run position _ _ found
  have handed := mem_handedTo member owner
  generalize state.handedTo (some position) = statements at accounts handed
  generalize answersTo (some position) moves = outcomes at accounts
  cases accounts with
  | waiting | dispatched | notRun => cases handed
  | running | inFlight | ended => exact Or.inl (by simp [Progress.Moving])
  | @collected report _ _ _ ends => exact Or.inr ⟨report, rfl, ends.ran⟩

end Owners

theorem inOrder_of_trace {graph : ExecutionGraph} (distinct : graph.nodeNames.Nodup)
    {moves : List Move} {state : State} (run : Trace graph moves state) :
    state.handovers.Pairwise fun first second => ¬ graph.Precedes second.node first.node := by
  induction run with
  | start => exact List.Pairwise.nil
  | move move run moved ih =>
    cases step_of_move? moved with
    | setupHanded current =>
      refine List.pairwise_append.mpr ⟨ih, List.pairwise_singleton _ _, ?_⟩
      intro first member second last precedes
      rw [List.mem_singleton.mp last] at precedes
      cases owner : first.node with
      | none =>
        rw [owner] at precedes
        cases precedes
      | some position =>
        have passed := passed_of_handed run member owner
        simp [current, Setup.isPassed] at passed
    | @handed position node results task rest found =>
      refine List.pairwise_append.mpr ⟨ih, List.pairwise_singleton _ _, ?_⟩
      intro first member second last precedes
      rw [List.mem_singleton.mp last] at precedes
      generalize owner : first.node = before at precedes
      -- What was handed over before cannot have waited for a node that is still under way.
      cases precedes with
      | @dependency dependent _ depends =>
        obtain ⟨progress, foundDependent, ran⟩ := ran_of_handed run member owner
        obtain ⟨report, past, _⟩ := ordered_of_trace run dependent progress foundDependent ran
          position ((needs_iff_dependsOn distinct dependent position).mpr depends)
        rw [State.progress?_of_getElem? _ found] at past
        cases past
    | cancelled | setupHalted | setupDone | setupPassed | setupFailed | setupLost | dropped
    | doomed | admitted | refused | dispatched | started | succeeded | halted | replied | collected
    | resolved | gaveUp | closed => exact ih

end Run
end SqlPipeline
