import SqlPipeline.Proofs.Run.Preparation
import SqlPipeline.Proofs.Run.Tracking

/-!
Dependencies come first. A node is dispatched only when the nodes it depends on have been counted,
and it is refused when one of them did not succeed; so whatever was dispatched has its dependencies
succeeded, and this stays so because finished nodes stay as they are.
-/

namespace SqlPipeline.Run

/-! ## Final statuses by name -/

theorem find?_reverse_of_position? {Entry : Type} (key : Entry → String) {entries : List Entry}
    {name : String} {position : Nat}
    (found : Readiness.position? (entries.map key) name = some position) :
    entries.reverse.find? (fun entry => key entry == name) = entries[position]? := by
  have listed : entries.reverse = entries.zipIdx.reverse.map Prod.fst := by
    rw [List.map_reverse, List.zipIdx_map_fst]
  have named : (entries.map key).zipIdx.reverse =
      entries.zipIdx.reverse.map (Prod.map key id) := by
    rw [List.zipIdx_map, List.map_reverse]
  rw [Readiness.position?, named, List.find?_map, Option.map_map] at found
  obtain ⟨⟨entry, index⟩, last, same⟩ := Option.map_eq_some_iff.mp found
  have stored := List.mem_zipIdx_iff_getElem?.mp
    (List.mem_reverse.mp (List.mem_of_find?_eq_some last))
  have same : index = position := same
  subst same
  rw [listed, List.find?_map]
  have last : entries.zipIdx.reverse.find? ((fun entry => key entry == name) ∘ Prod.fst) =
      some (entry, index) := last
  rw [last, Option.map_some, stored]

theorem statusOf?_of_position? {graph : ExecutionGraph} {state : State}
    (nodes : state.cells.map Cell.node = graph.nodes) {name : String} {position : Nat}
    (found : Readiness.position? graph.nodeNames name = some position) {report : NodeReport}
    (past : state.progress? position = some (.finished report)) :
    state.statusOf? name = some report.status := by
  have names : graph.nodeNames = state.cells.map fun cell => cell.name.text := by
    rw [ExecutionGraph.nodeNames, ← nodes, List.map_map]
    rfl
  rw [names] at found
  obtain ⟨cell, stored, same⟩ := Option.map_eq_some_iff.mp past
  rw [State.statusOf?, find?_reverse_of_position? _ found, stored, Option.bind_some, Cell.report?,
    same, Option.map_some]

theorem exists_of_statusOf? {graph : ExecutionGraph} {state : State}
    (nodes : state.cells.map Cell.node = graph.nodes) {name : String} {status : NodeStatus}
    (found : state.statusOf? name = some status) :
    ∃ position report, Readiness.position? graph.nodeNames name = some position ∧
      state.progress? position = some (.finished report) ∧ report.status = status := by
  have names : graph.nodeNames = state.cells.map fun cell => cell.name.text := by
    rw [ExecutionGraph.nodeNames, ← nodes, List.map_map]
    rfl
  obtain ⟨cell, last, shown⟩ := Option.bind_eq_some_iff.mp found
  obtain ⟨report, past, rfl⟩ := Option.map_eq_some_iff.mp shown
  have known : (Readiness.position? graph.nodeNames name).isSome := by
    rw [Readiness.isSome_position?, List.contains_iff_mem, names]
    have hit : cell.name.text = name := by simpa using List.find?_some last
    have member := List.mem_reverse.mp (List.mem_of_find?_eq_some last)
    exact hit ▸ List.mem_map_of_mem member
  obtain ⟨position, place⟩ := Option.isSome_iff_exists.mp known
  refine ⟨position, report, place, ?_, rfl⟩
  rw [names] at place
  rw [find?_reverse_of_position? _ place] at last
  rw [state.progress?_of_getElem? last]
  obtain ⟨node, progress⟩ := cell
  cases progress with
  | finished other =>
    cases past
    rfl
  | waiting | dispatched | running | inFlight | ended => cases past

def State.Succeeded (state : State) (position : Nat) : Prop :=
  ∃ report, state.progress? position = some (.finished report) ∧ report.status = .succeeded

-- Dependencies that have not finished do not block, so the queue has to see to it that they have.
theorem succeeded_of_clear {graph : ExecutionGraph} {state : State}
    (nodes : state.cells.map Cell.node = graph.nodes) {position dependency : Nat}
    {node : ExecutionNode} (known : graph.nodes[position]? = some node)
    (clear : state.isBlocked node = false) (needs : graph.Needs position dependency)
    (past : state.Finished dependency) : state.Succeeded dependency := by
  obtain ⟨other, same, name, member, found⟩ := needs
  rw [known, Option.some.injEq] at same
  subst same
  obtain ⟨report, past⟩ := past
  refine ⟨report, past, ?_⟩
  have free := List.any_eq_false.mp clear name member
  simpa [statusOf?_of_position? nodes found past] using free

theorem exists_of_blocked {graph : ExecutionGraph} {state : State}
    (nodes : state.cells.map Cell.node = graph.nodes) {position : Nat} {node : ExecutionNode}
    (known : graph.nodes[position]? = some node) (blocked : state.isBlocked node = true) :
    ∃ dependency report, graph.Needs position dependency ∧
      state.progress? dependency = some (.finished report) ∧ report.status ≠ .succeeded := by
  obtain ⟨name, member, ill⟩ := List.any_eq_true.mp blocked
  cases found : state.statusOf? name with
  | none => simp [found] at ill
  | some status =>
    obtain ⟨dependency, report, place, past, rfl⟩ := exists_of_statusOf? nodes found
    refine ⟨dependency, report, ⟨node, known, name, member, place⟩, past, ?_⟩
    simpa [found] using ill

/-! ## Finished nodes -/

section Steps
variable {graph : ExecutionGraph} {state next : State} {move : Move}

theorem progress?_update {position : Nat} {progress : Progress} (other : Nat)
    (report : NodeReport) {cell : Cell} (found : state.cells[position]? = some cell)
    (unfinished : cell.progress ≠ .finished report)
    (past : state.progress? other = some (.finished report)) :
    (state.setProgress position progress).progress? other = some (.finished report) := by
  rw [State.progress?_setProgress]
  split
  · rename_i same
    subst same
    rw [state.progress?_of_getElem? found, Option.some.injEq] at past
    exact absurd past unfinished
  · exact past

theorem finished_stays (step : Step state move next) {position : Nat} {report : NodeReport}
    (past : state.progress? position = some (.finished report)) :
    next.progress? position = some (.finished report) := by
  cases step with
  | cancelled | setupHalted | setupHanded | setupDone | setupPassed | setupFailed | setupLost
  | dropped | doomed | admitted | resolved | closed => exact past
  | refused _ _ found | dispatched _ _ found =>
    exact progress?_update _ report found (by simp) past
  | collected _ found | gaveUp _ found => exact progress?_update _ report found (by simp) past
  | started found | succeeded found | halted found | handed found | replied found =>
    exact progress?_update _ report found (by simp) past

/-! ## What was dispatched -/

def Progress.Ran (progress : Progress) : Prop :=
  progress.Moving ∨
    ∃ report, progress = .finished report ∧ (report.started = true ∨ report.status = .failed)

theorem not_ran_notRun {name : ActionName} {status : NodeStatus}
    (quiet : status = .cancelled ∨ status = .skipped) :
    ¬ Progress.Ran (.finished (.notRun name status)) := by
  rcases quiet with rfl | rfl <;> simp [Progress.Ran, Progress.Moving, NodeReport.notRun]

def Ordered (graph : ExecutionGraph) (state : State) : Prop :=
  ∀ position progress, state.progress? position = some progress → progress.Ran →
    ∀ dependency, graph.Needs position dependency → state.Succeeded dependency

theorem Ordered.update (ordered : Ordered graph state) {position : Nat} {progress : Progress}
    {cell : Cell} (found : state.cells[position]? = some cell)
    (cells : next.cells = (state.setProgress position progress).cells)
    (stays : ∀ other, state.Succeeded other → next.Succeeded other)
    (own : progress.Ran → cell.progress.Ran ∨
      ∀ dependency, graph.Needs position dependency → state.Succeeded dependency) :
    Ordered graph next := by
  intro other current foundOther ran dependency needs
  apply stays
  rw [progress?_of_cells cells] at foundOther
  split at foundOther
  · rename_i same
    subst same
    rw [state.progress?_of_getElem? found, Option.map_some, Option.some.injEq] at foundOther
    subst foundOther
    rcases own ran with before | deps
    · exact ordered position _ (state.progress?_of_getElem? found) before dependency needs
    · exact deps dependency needs
  · exact ordered other current foundOther ran dependency needs

theorem Ordered.step {done : List Nat} (ordered : Ordered graph state)
    (tracked : Tracked graph done state) (nodes : state.cells.map Cell.node = graph.nodes)
    (backed : Backed state) (step : Step state move next) : Ordered graph next := by
  have stays : ∀ other, state.Succeeded other → next.Succeeded other := by
    rintro other ⟨report, past, well⟩
    exact ⟨report, finished_stays step past, well⟩
  cases step with
  | cancelled | setupHalted | setupHanded | setupDone | setupPassed | setupFailed | setupLost
  | dropped | doomed | admitted | resolved | closed => exact ordered
  | refused meant queue found =>
    have rests := (backed.reason meant queue found).1
    exact ordered.update found rfl stays fun ran => absurd ran (not_ran_notRun rests.quiet)
  | @dispatched position _ _ meant queue found =>
    have clear := (backed.clear meant queue found).2
    refine ordered.update found rfl stays fun _ => Or.inr ?_
    intro dependency needs
    have counted := tracked.free (queue ▸ List.mem_cons_self) needs
    exact succeeded_of_clear nodes (known_of_found nodes found) clear needs
      (tracked.finished dependency counted)
  | gaveUp meant found =>
    have rests := (backed.idle meant).2
    exact ordered.update found rfl stays fun ran => absurd ran (not_ran_notRun rests.quiet)
  | started found | succeeded found | halted found | handed found | replied found =>
    exact ordered.update found rfl stays fun _ => Or.inl (Or.inl (by simp [Progress.Moving]))
  | collected _ found =>
    exact ordered.update found rfl stays fun _ => Or.inl (Or.inl (by simp [Progress.Moving]))

end Steps

theorem ordered_of_trace {graph : ExecutionGraph} {moves : List Move} {state : State}
    (run : Trace graph moves state) : Ordered graph state := by
  induction run with
  | start =>
    intro position progress found ran
    simp only [start, State.progress?, List.getElem?_map, Option.map_map,
      Option.map_eq_some_iff] at found
    obtain ⟨_, _, rfl⟩ := found
    simp [Progress.Ran, Progress.Moving] at ran
  | move move run moved ih =>
    obtain ⟨done, tracked⟩ := tracked_of_trace run
    exact ih.step tracked (nodes_of_trace run) (backed_of_trace run) (step_of_move? moved)

end SqlPipeline.Run
