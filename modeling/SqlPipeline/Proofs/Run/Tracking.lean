import SqlPipeline.Proofs.Run.Counters
import SqlPipeline.Proofs.Run.Intent

/-!
The queue of a run. The nodes whose completion has been counted are finished, and the counters are
those that belong to them. What stands in the queue waits, stands there once and depends on counted
nodes alone; and after the setup every node of which this is true stands there, so that no node is
overlooked. A node that finished without being counted was given up in the end, and then something
it depends on was never counted either.
-/

namespace SqlPipeline

def ExecutionGraph.nodeNames (graph : ExecutionGraph) : List String :=
  graph.nodes.map fun node => node.name.text

/-- One node has an entry for another one; of several nodes of a name the last is meant. -/
def ExecutionGraph.Needs (graph : ExecutionGraph) (dependent dependency : Nat) : Prop :=
  ∃ node, graph.nodes[dependent]? = some node ∧
    ∃ name ∈ node.dependencies, Readiness.position? graph.nodeNames name = some dependency

namespace Run

theorem free_iff_needs {graph : ExecutionGraph} {position : Nat} {node : ExecutionNode}
    (known : graph.nodes[position]? = some node) (done : List Nat) :
    Readiness.Free graph.nodeNames done node.dependencies ↔
      ∀ dependency, graph.Needs position dependency → dependency ∈ done := by
  constructor
  · rintro free dependency ⟨other, same, name, member, found⟩
    rw [known, Option.some.injEq] at same
    subst same
    exact free name member dependency found
  · intro free name member dependency found
    exact free dependency ⟨node, known, name, member, found⟩

def State.Finished (state : State) (position : Nat) : Prop :=
  ∃ report, state.progress? position = some (.finished report)

/-- It is the turn of a node: it stands first in the queue, or it is under way. The second part of
the queue is what stays of it. -/
def Active (state : State) (position : Nat) (kept : List Nat) : Prop :=
  state.ready = position :: kept ∧ state.progress? position = some .waiting ∨
    state.ready = kept ∧ ∃ progress, state.progress? position = some progress ∧ progress.Moving

structure Tracked (graph : ExecutionGraph) (done : List Nat) (state : State) : Prop where
  counts : Readiness.Counts graph.nodeNames (graph.nodes.map ExecutionNode.dependencies) done
    state.readiness
  finished : ∀ position ∈ done, state.Finished position
  fresh : state.setup.isOver = false → done = []
  counted : ∀ position ∈ done, ∀ dependency, graph.Needs position dependency → dependency ∈ done
  moving : ∀ position progress, state.progress? position = some progress → progress.Moving →
    state.setup.isPassed = true ∧
      ∀ dependency, graph.Needs position dependency → dependency ∈ done
  queue : ∀ position, position ∈ state.ready ↔
    state.setup.isPassed = true ∧ state.progress? position = some .waiting ∧
      ∀ dependency, graph.Needs position dependency → dependency ∈ done
  once : state.ready.Nodup
  uncounted : ∀ position, state.Finished position → position ∉ done → state.isIdle = true ∧
    (state.setup.isPassed = true →
      ∃ dependency, graph.Needs position dependency ∧ dependency ∉ done)

section Queue
variable {graph : ExecutionGraph} {done : List Nat} {state : State} {position : Nat}

theorem Tracked.waiting (tracked : Tracked graph done state) (queued : position ∈ state.ready) :
    state.progress? position = some .waiting :=
  ((tracked.queue position).mp queued).2.1

theorem Tracked.free (tracked : Tracked graph done state) (queued : position ∈ state.ready)
    {dependency : Nat} (needs : graph.Needs position dependency) : dependency ∈ done :=
  ((tracked.queue position).mp queued).2.2 dependency needs

end Queue

section Active
variable {graph : ExecutionGraph} {done : List Nat} {state : State} {position : Nat}
  {kept : List Nat}

theorem Active.isPassed (active : Active state position kept) (tracked : Tracked graph done state) :
    state.setup.isPassed = true := by
  rcases active with ⟨queue, _⟩ | ⟨_, progress, found, moving⟩
  · exact ((tracked.queue position).mp (queue ▸ List.mem_cons_self)).1
  · exact (tracked.moving position progress found moving).1

theorem not_moving_of_isIdle (idle : state.isIdle = true) {progress : Progress}
    (found : state.progress? position = some progress) : ¬ progress.Moving := by
  obtain ⟨cell, stored, rfl⟩ := Option.map_eq_some_iff.mp found
  rw [← isBusy_iff, not_busy_of_isIdle idle (List.mem_of_getElem? stored)]
  simp

theorem Active.not_isIdle (active : Active state position kept) : ¬ state.isIdle = true := by
  intro idle
  rcases active with ⟨queue, _⟩ | ⟨_, progress, found, moving⟩
  · simp [ready_of_isIdle idle] at queue
  · exact not_moving_of_isIdle idle found moving

theorem Active.not_finished (active : Active state position kept) : ¬ state.Finished position := by
  rintro ⟨report, past⟩
  rcases active with ⟨_, waiting⟩ | ⟨_, progress, found, moving⟩
  · simp [waiting] at past
  · rw [found, Option.some.injEq] at past
    exact moving.2 report past

theorem Active.not_mem_kept (active : Active state position kept)
    (tracked : Tracked graph done state) : position ∉ kept := by
  rcases active with ⟨queue, _⟩ | ⟨queue, progress, found, moving⟩
  · have once := tracked.once
    rw [queue] at once
    exact (List.nodup_cons.mp once).1
  · intro member
    have waiting := tracked.waiting (queue ▸ member)
    rw [found, Option.some.injEq] at waiting
    exact moving.1 waiting

theorem Active.counted (active : Active state position kept) (tracked : Tracked graph done state)
    {dependency : Nat} (needs : graph.Needs position dependency) : dependency ∈ done := by
  rcases active with ⟨queue, _⟩ | ⟨_, progress, found, moving⟩
  · exact tracked.free (queue ▸ List.mem_cons_self) needs
  · exact (tracked.moving position progress found moving).2 dependency needs

theorem Active.mem_kept_iff (active : Active state position kept)
    (tracked : Tracked graph done state) (other : Nat) :
    other ∈ kept ↔ position ≠ other ∧ other ∈ state.ready := by
  have absent := active.not_mem_kept tracked
  constructor
  · intro member
    have different : position ≠ other := (ne_of_mem_of_not_mem member absent).symm
    rcases active with ⟨queue, _⟩ | ⟨queue, _⟩
    · exact ⟨different, queue ▸ List.mem_cons_of_mem _ member⟩
    · exact ⟨different, queue ▸ member⟩
  · rintro ⟨different, member⟩
    rcases active with ⟨queue, _⟩ | ⟨queue, _⟩
    · rw [queue] at member
      exact (List.mem_cons.mp member).resolve_left (Ne.symm different)
    · exact queue ▸ member

theorem Active.kept_nodup (active : Active state position kept)
    (tracked : Tracked graph done state) : kept.Nodup := by
  rcases active with ⟨queue, _⟩ | ⟨queue, _⟩
  · have once := tracked.once
    rw [queue] at once
    exact (List.nodup_cons.mp once).2
  · exact queue ▸ tracked.once

theorem Active.exists_progress? (active : Active state position kept) :
    ∃ progress, state.progress? position = some progress := by
  rcases active with ⟨_, waiting⟩ | ⟨_, progress, found, _⟩
  · exact ⟨_, waiting⟩
  · exact ⟨progress, found⟩

end Active

/-! ## What one move preserves -/

section Steps
variable {graph : ExecutionGraph} {done : List Nat} {state next : State} {position : Nat}
  {kept : List Nat} {progress : Progress}

theorem progress?_of_cells (cells : next.cells = (state.setProgress position progress).cells)
    (other : Nat) :
    next.progress? other = if position = other then (state.progress? other).map fun _ => progress
      else state.progress? other := by
  rw [← State.progress?_setProgress, State.progress?, State.progress?, cells]

theorem finished_of_cells (cells : next.cells = (state.setProgress position progress).cells)
    {other : Nat} (different : position ≠ other) : next.Finished other ↔ state.Finished other := by
  rw [State.Finished, State.Finished, progress?_of_cells cells, if_neg different]

theorem Tracked.keep (tracked : Tracked graph done state) (cells : next.cells = state.cells)
    (readiness : next.readiness = state.readiness) (ready : next.ready = state.ready)
    (past : next.setup.isOver = state.setup.isOver)
    (passed : next.setup.isPassed = state.setup.isPassed) : Tracked graph done next := by
  have progress : ∀ position, next.progress? position = state.progress? position := by
    intro position
    rw [State.progress?, State.progress?, cells]
  have idle : next.isIdle = state.isIdle := by
    rw [State.isIdle, State.isIdle, past, ready, cells]
  constructor
  · rw [readiness]
    exact tracked.counts
  · simpa only [State.Finished, progress] using tracked.finished
  · rw [past]
    exact tracked.fresh
  · exact tracked.counted
  · simpa only [passed, progress] using tracked.moving
  · simpa only [ready, passed, progress] using tracked.queue
  · rw [ready]
    exact tracked.once
  · simpa only [State.Finished, idle, passed, progress] using tracked.uncounted

-- The setup came to nothing: nothing was counted, and no node is in the queue.
theorem Tracked.stop (tracked : Tracked graph done state) (untouched : Untouched state)
    (going : state.setup.isOver = false) (results : List TaskResult) (fatal : Option String) :
    Tracked graph done (state.stopSetup results fatal) := by
  have none : done = [] := tracked.fresh going
  subst none
  have empty : (state.stopSetup results fatal).ready = [] := untouched.ready
  constructor
  · exact tracked.counts
  · simp
  · simp
  · simp
  · intro position progress found moving
    exact absurd (untouched.waiting found) moving.1
  · intro position
    rw [empty]
    constructor
    · intro member
      cases member
    · rintro ⟨passed, _⟩
      cases passed
  · rw [empty]
    exact List.nodup_nil
  · rintro position ⟨report, past⟩ _
    cases untouched.waiting past

-- The setup has passed: the queue holds the nodes that wait for nothing.
theorem Tracked.begin (tracked : Tracked graph done state) (untouched : Untouched state)
    (going : state.setup.isOver = false) (nodes : state.cells.map Cell.node = graph.nodes)
    (results : List TaskResult) :
    Tracked graph done
      { state with setup := .passed results, ready := state.readiness.initial } := by
  have none : done = [] := tracked.fresh going
  subst none
  constructor
  · exact tracked.counts
  · simp
  · intro going
    cases going
  · simp
  · intro position progress found moving
    exact absurd (untouched.waiting found) moving.1
  · intro position
    change position ∈ state.readiness.initial ↔ true = true ∧ state.progress? position = _ ∧ _
    rw [tracked.counts.mem_initial, List.getElem?_map]
    constructor
    · rintro ⟨_, listed, free⟩
      obtain ⟨node, known, rfl⟩ := Option.map_eq_some_iff.mp listed
      obtain ⟨progress, found⟩ := found_of_known nodes known
      have waiting := untouched.waiting (state.progress?_of_getElem? found)
      refine ⟨rfl, ?_, (free_iff_needs known []).mp free⟩
      rw [state.progress?_of_getElem? found, waiting]
    · rintro ⟨_, waiting, free⟩
      obtain ⟨cell, found, _⟩ := Option.map_eq_some_iff.mp waiting
      have known := known_of_found nodes found
      exact ⟨_, by rw [known, Option.map_some], (free_iff_needs known []).mpr free⟩
  · exact Readiness.nodup_initial state.readiness
  · rintro position ⟨report, past⟩ _
    cases untouched.waiting past

-- The active node goes on but does not finish.
theorem Tracked.advance (tracked : Tracked graph done state) (active : Active state position kept)
    (going : progress.Moving) (setup : next.setup = state.setup)
    (cells : next.cells = (state.setProgress position progress).cells)
    (readiness : next.readiness = state.readiness) (ready : next.ready = kept) :
    Tracked graph done next := by
  have passed : next.setup.isPassed = true := by
    rw [setup]
    exact active.isPassed tracked
  have others : ∀ other, position ≠ other → next.progress? other = state.progress? other := by
    intro other different
    rw [progress?_of_cells cells, if_neg different]
  have own : next.progress? position = some progress := by
    obtain ⟨old, found⟩ := active.exists_progress?
    rw [progress?_of_cells cells, if_pos rfl, found, Option.map_some]
  constructor
  · rw [readiness]
    exact tracked.counts
  · intro other member
    have past := tracked.finished other member
    have different : position ≠ other := by
      rintro rfl
      exact active.not_finished past
    exact (finished_of_cells cells different).mpr past
  · rw [setup]
    exact tracked.fresh
  · exact tracked.counted
  · intro other current found moving
    refine ⟨passed, ?_⟩
    intro dependency needs
    by_cases same : position = other
    · subst same
      exact active.counted tracked needs
    · rw [others other same] at found
      exact (tracked.moving other current found moving).2 dependency needs
  · intro other
    rw [ready, active.mem_kept_iff tracked, tracked.queue, setup]
    by_cases same : position = other
    · subst same
      simp [own, going.1]
    · simp [same, others other same]
  · rw [ready]
    exact active.kept_nodup tracked
  · intro other past absent
    have different : position ≠ other := by
      rintro rfl
      obtain ⟨report, past⟩ := past
      rw [own, Option.some.injEq] at past
      exact going.2 report past
    have old := (finished_of_cells cells different).mp past
    exact absurd (tracked.uncounted other old absent).1 active.not_isIdle

theorem isOver_of_isPassed {setup : Setup} (passed : setup.isPassed = true) :
    setup.isOver = true := by
  cases setup <;> simp_all [Setup.isPassed, Setup.isOver]

theorem Tracked.inside (tracked : Tracked graph done state)
    (nodes : state.cells.map Cell.node = graph.nodes) (active : Active state position kept) :
    position ∉ done ∧ position < graph.nodeNames.length := by
  constructor
  · intro member
    exact active.not_finished (tracked.finished position member)
  · obtain ⟨progress, found⟩ := active.exists_progress?
    rw [ExecutionGraph.nodeNames, List.length_map]
    exact inside_of_progress? nodes found

-- What a completion releases has waited for the completed node, so it is not yet in the queue.
theorem Tracked.mem_released (tracked : Tracked graph done state)
    (nodes : state.cells.map Cell.node = graph.nodes) (active : Active state position kept)
    (other : Nat) :
    other ∈ (state.readiness.complete position).1 ↔
      other < graph.nodes.length ∧
        (∀ dependency, graph.Needs other dependency → dependency ∈ position :: done) ∧
        ∃ dependency, graph.Needs other dependency ∧ dependency ∉ done := by
  obtain ⟨fresh, inside⟩ := tracked.inside nodes active
  rw [tracked.counts.mem_complete fresh inside, List.getElem?_map]
  cases known : graph.nodes[other]? with
  | none =>
    have outside := List.getElem?_eq_none_iff.mp known
    simp [Nat.not_lt.mpr outside]
  | some node =>
    have within := (List.getElem?_eq_some_iff.mp known).1
    simp [free_iff_needs known, within]

theorem Tracked.released_waits (tracked : Tracked graph done state)
    (nodes : state.cells.map Cell.node = graph.nodes) (active : Active state position kept)
    {other : Nat} (released : other ∈ (state.readiness.complete position).1) :
    position ≠ other ∧ state.progress? other = some .waiting := by
  obtain ⟨within, _, dependency, needs, absent⟩ :=
    (tracked.mem_released nodes active other).mp released
  have different : position ≠ other := by
    rintro rfl
    exact absent (active.counted tracked needs)
  refine ⟨different, ?_⟩
  rw [← nodes, List.length_map] at within
  have found := state.progress?_of_getElem? (List.getElem?_eq_getElem within)
  rw [found, Option.some.injEq]
  by_contra moved
  by_cases past : state.Finished other
  · by_cases member : other ∈ done
    · exact absent (tracked.counted other member dependency needs)
    · exact active.not_isIdle (tracked.uncounted other past member).1
  · have moving : Progress.Moving (state.cells[other]).progress := by
      refine ⟨moved, ?_⟩
      intro report same
      exact past ⟨report, by rw [found, same]⟩
    exact absent ((tracked.moving other _ found moving).2 dependency needs)

-- A completion leaves in the queue what waits and depends on counted nodes alone, as before.
theorem Tracked.mem_requeued (tracked : Tracked graph done state)
    (nodes : state.cells.map Cell.node = graph.nodes) (active : Active state position kept)
    (other : Nat) :
    other ∈ kept ++ (state.readiness.complete position).1 ↔
      position ≠ other ∧ state.progress? other = some .waiting ∧
        ∀ dependency, graph.Needs other dependency → dependency ∈ position :: done := by
  rw [List.mem_append, active.mem_kept_iff tracked]
  constructor
  · rintro (⟨different, queued⟩ | released)
    · refine ⟨different, tracked.waiting queued, ?_⟩
      intro dependency needs
      exact List.mem_cons_of_mem _ (tracked.free queued needs)
    · obtain ⟨different, waiting⟩ := tracked.released_waits nodes active released
      exact ⟨different, waiting, ((tracked.mem_released nodes active other).mp released).2.1⟩
  · rintro ⟨different, waiting, free⟩
    by_cases before : ∀ dependency, graph.Needs other dependency → dependency ∈ done
    · exact Or.inl ⟨different, (tracked.queue other).mpr ⟨active.isPassed tracked, waiting, before⟩⟩
    · push Not at before
      have within := inside_of_progress? nodes waiting
      exact Or.inr ((tracked.mem_released nodes active other).mpr ⟨within, free, before⟩)

theorem Tracked.nodup_requeued (tracked : Tracked graph done state)
    (nodes : state.cells.map Cell.node = graph.nodes) (active : Active state position kept) :
    (kept ++ (state.readiness.complete position).1).Nodup := by
  obtain ⟨fresh, inside⟩ := tracked.inside nodes active
  refine List.nodup_append.mpr ⟨active.kept_nodup tracked,
    tracked.counts.nodup_complete fresh inside, ?_⟩
  rintro other queued _ released rfl
  obtain ⟨_, _, dependency, needs, uncounted⟩ :=
    (tracked.mem_released nodes active other).mp released
  exact uncounted (tracked.free ((active.mem_kept_iff tracked other).mp queued).2 needs)

-- The active node finishes and is counted.
theorem Tracked.finish (tracked : Tracked graph done state)
    (nodes : state.cells.map Cell.node = graph.nodes) (active : Active state position kept)
    {report : NodeReport} (setup : next.setup = state.setup)
    (cells : next.cells = (state.setProgress position (.finished report)).cells)
    (readiness : next.readiness = (state.readiness.complete position).2)
    (ready : next.ready = kept ++ (state.readiness.complete position).1) :
    Tracked graph (position :: done) next := by
  have passed := active.isPassed tracked
  obtain ⟨fresh, inside⟩ := tracked.inside nodes active
  have others : ∀ other, position ≠ other → next.progress? other = state.progress? other := by
    intro other different
    rw [progress?_of_cells cells, if_neg different]
  have own : next.progress? position = some (.finished report) := by
    obtain ⟨old, found⟩ := active.exists_progress?
    rw [progress?_of_cells cells, if_pos rfl, found, Option.map_some]
  constructor
  · rw [readiness]
    exact tracked.counts.complete fresh inside
  · intro other member
    rcases List.mem_cons.mp member with rfl | member
    · exact ⟨report, own⟩
    · have different : position ≠ other := (ne_of_mem_of_not_mem member fresh).symm
      exact (finished_of_cells cells different).mpr (tracked.finished other member)
  · rw [setup, isOver_of_isPassed passed]
    intro going
    cases going
  · intro other member dependency needs
    rcases List.mem_cons.mp member with rfl | member
    · exact List.mem_cons_of_mem _ (active.counted tracked needs)
    · exact List.mem_cons_of_mem _ (tracked.counted other member dependency needs)
  · intro other current found moving
    rw [setup]
    refine ⟨passed, ?_⟩
    intro dependency needs
    have different : position ≠ other := by
      rintro rfl
      rw [own, Option.some.injEq] at found
      exact moving.2 report found.symm
    rw [others other different] at found
    exact List.mem_cons_of_mem _
      ((tracked.moving other current found moving).2 dependency needs)
  · intro other
    rw [ready, tracked.mem_requeued nodes active, setup]
    by_cases same : position = other
    · subst same
      simp [own]
    · simp [same, others other same, passed]
  · rw [ready]
    exact tracked.nodup_requeued nodes active
  · intro other past uncounted
    have different : position ≠ other := by
      rintro rfl
      exact uncounted List.mem_cons_self
    have old := (finished_of_cells cells different).mp past
    exact absurd (tracked.uncounted other old fun member =>
      uncounted (List.mem_cons_of_mem _ member)).1 active.not_isIdle

-- Nothing is left to run, so a node that waits will never be released.
theorem Tracked.stuck_waiting (tracked : Tracked graph done state) (idle : state.isIdle = true)
    (passed : state.setup.isPassed = true) (waiting : state.progress? position = some .waiting) :
    ∃ dependency, graph.Needs position dependency ∧ dependency ∉ done := by
  by_contra free
  push Not at free
  have queued := (tracked.queue position).mpr ⟨passed, waiting, free⟩
  simp [ready_of_isIdle idle] at queued

theorem Tracked.giveUp (tracked : Tracked graph done state) (idle : state.isIdle = true)
    (name : ActionName) (status : NodeStatus) (waits : state.progress? position = some .waiting) :
    Tracked graph done (state.giveUp position name status) := by
  have cells : (state.giveUp position name status).cells =
      (state.setProgress position (.finished (.notRun name status))).cells := rfl
  have stays : (state.giveUp position name status).isIdle = true := isIdle_giveUp name status idle
  have empty := ready_of_isIdle stays
  constructor
  · exact tracked.counts
  · intro other member
    have past := tracked.finished other member
    have different : position ≠ other := by
      rintro rfl
      obtain ⟨report, past⟩ := past
      simp [waits] at past
    exact (finished_of_cells cells different).mpr past
  · exact tracked.fresh
  · exact tracked.counted
  · intro other current found moving
    exact absurd moving (not_moving_of_isIdle stays found)
  · intro other
    rw [progress?_of_cells cells]
    by_cases same : position = other
    · subst same
      simp [empty, waits]
    · rw [if_neg same]
      exact tracked.queue other
  · rw [empty]
    exact List.nodup_nil
  · intro other past absent
    refine ⟨stays, ?_⟩
    intro passed
    by_cases same : position = other
    · subst same
      exact tracked.stuck_waiting idle passed waits
    · exact (tracked.uncounted other ((finished_of_cells cells same).mp past) absent).2 passed

end Steps

-- Once nothing is left to run, whatever was not counted depends on something that was not.
theorem Tracked.stuck {graph : ExecutionGraph} {done : List Nat} {state : State}
    (tracked : Tracked graph done state) (nodes : state.cells.map Cell.node = graph.nodes)
    (idle : state.isIdle = true) (passed : state.setup.isPassed = true) {position : Nat}
    (inside : position < graph.nodes.length) (absent : position ∉ done) :
    ∃ dependency, graph.Needs position dependency ∧ dependency ∉ done := by
  rw [← nodes, List.length_map] at inside
  have found := state.progress?_of_getElem? (List.getElem?_eq_getElem inside)
  by_cases past : state.Finished position
  · exact (tracked.uncounted position past absent).2 passed
  · have waiting : state.progress? position = some .waiting := by
      by_contra moved
      apply not_moving_of_isIdle idle found
      constructor
      · intro same
        exact moved (same ▸ found)
      · intro report same
        exact past ⟨report, same ▸ found⟩
    exact tracked.stuck_waiting idle passed waiting

/-! ## Runs -/

theorem tracked_start (graph : ExecutionGraph) : Tracked graph [] (start graph) := by
  have waits : ∀ position progress, (start graph).progress? position = some progress →
      progress = .waiting := by
    intro position progress found
    simp only [start, State.progress?, List.getElem?_map, Option.map_map,
      Option.map_eq_some_iff] at found
    obtain ⟨_, _, rfl⟩ := found
    rfl
  constructor
  · exact Readiness.counts_ofNodes graph.nodeNames _
  · simp
  · simp
  · simp
  · intro position progress found moving
    exact absurd (waits position progress found) moving.1
  · simp [start, Setup.isPassed]
  · exact List.nodup_nil
  · rintro position ⟨report, past⟩ _
    cases waits position _ past

theorem Tracked.step {graph : ExecutionGraph} {done : List Nat} {state next : State} {move : Move}
    (tracked : Tracked graph done state) (nodes : state.cells.map Cell.node = graph.nodes)
    (untouched : state.setup.isOver = false → Untouched state) (backed : Backed state)
    (step : Step state move next) : ∃ after, Tracked graph after next := by
  cases step with
  | cancelled | doomed | admitted | resolved | closed =>
    exact ⟨done, tracked.keep rfl rfl rfl rfl rfl⟩
  | setupHalted current | setupFailed current =>
    have going : state.setup.isOver = false := by rw [current]; rfl
    exact ⟨done, tracked.stop (untouched going) going _ _⟩
  | setupHanded current | setupPassed current | setupLost current =>
    exact ⟨done, tracked.keep rfl rfl rfl (by rw [current]; rfl) (by rw [current]; rfl)⟩
  | setupDone current =>
    have going : state.setup.isOver = false := by rw [current]; rfl
    exact ⟨done, tracked.begin (untouched going) going nodes _⟩
  | dropped _ queue settled =>
    exact absurd (tracked.waiting (queue ▸ List.mem_cons_self)) settled
  | refused _ queue found =>
    have active : Active state _ _ := Or.inl ⟨queue, state.progress?_of_getElem? found⟩
    exact ⟨_, tracked.finish nodes active rfl rfl rfl rfl⟩
  | dispatched _ queue found =>
    have active : Active state _ _ := Or.inl ⟨queue, state.progress?_of_getElem? found⟩
    exact ⟨done, tracked.advance active (by simp [Progress.Moving]) rfl rfl rfl rfl⟩
  | started found | succeeded found | halted found | handed found =>
    have active : Active state _ _ :=
      Or.inr ⟨rfl, _, state.progress?_of_getElem? found, by simp [Progress.Moving]⟩
    exact ⟨done, tracked.advance active (by simp [Progress.Moving]) rfl rfl rfl rfl⟩
  | replied found =>
    have active : Active state _ _ :=
      Or.inr ⟨rfl, _, state.progress?_of_getElem? found, by simp [Progress.Moving]⟩
    exact ⟨done, tracked.advance active (moving_judged _ _ _ _ _) rfl rfl rfl rfl⟩
  | collected queue found =>
    have active : Active state _ [] :=
      Or.inr ⟨queue, _, state.progress?_of_getElem? found, by simp [Progress.Moving]⟩
    exact ⟨_, tracked.finish nodes active rfl rfl rfl (by simp [State.finish, queue])⟩
  | @gaveUp _ _ _ later meant found =>
    have kept : Tracked graph done { state with intent := later } :=
      tracked.keep rfl rfl rfl rfl rfl
    exact ⟨done, kept.giveUp (backed.idle meant).1 _ _ (state.progress?_of_getElem? found)⟩

theorem tracked_of_trace {graph : ExecutionGraph} {moves : List Move} {state : State}
    (run : Trace graph moves state) : ∃ done, Tracked graph done state := by
  induction run with
  | start => exact ⟨[], tracked_start graph⟩
  | move move run moved ih =>
    obtain ⟨done, tracked⟩ := ih
    exact tracked.step (nodes_of_trace run) (untouched_of_trace run) (backed_of_trace run)
      (step_of_move? moved)

end Run
end SqlPipeline
