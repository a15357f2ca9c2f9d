import Mathlib.Data.Fintype.Card
import Mathlib.Data.Set.Finite.Basic
import Mathlib.Logic.Relation
import Mathlib.Order.WellFounded
import SqlPipeline.Proofs.Run.Handover

/-!
Which nodes are released, and by which completion. Released are at any time exactly the nodes all of
whose dependencies are completed, so each is released once, by the completion of the last of them.
What is never released waits for something else that is never released, and since there are only so
many nodes this leads to a cycle.
-/

namespace SqlPipeline

/-- The names of the nodes that are not completed. -/
def ExecutionGraph.openNames (graph : ExecutionGraph) (done : List Nat) : List String :=
  (graph.nodeNames.zipIdx.filter fun entry => !done.contains entry.2).map Prod.fst

/-- The dependencies of a node lead to a cycle, or round one. -/
def ExecutionGraph.Entangled (graph : ExecutionGraph) (position : Nat) : Prop :=
  ∃ other, Relation.ReflTransGen graph.DependsOn position other ∧
    Relation.TransGen graph.DependsOn other other

namespace Readiness

/-- Completions of released positions, each one once. The first batch holds what waits for nothing,
and every completion adds the batch that it releases. -/
inductive Completes (graph : ExecutionGraph) : List Nat → List (List Nat) → Readiness → Prop where
  | start : Completes graph [] [(Run.start graph).readiness.initial] (Run.start graph).readiness
  | complete {done : List Nat} {batches : List (List Nat)} {readiness : Readiness} {position : Nat}
      (before : Completes graph done batches readiness) (released : position ∈ batches.flatten)
      (fresh : position ∉ done) :
      Completes graph (done ++ [position]) (batches ++ [(readiness.complete position).1])
        (readiness.complete position).2

/-! ## Cycles -/

-- There is no way on forever among finitely many items that does not come back to one of them.
theorem exists_cycle {Item : Type} {Next : Item → Item → Prop} {inside : Set Item}
    (finite : inside.Finite) (goesOn : ∀ item ∈ inside, ∃ next ∈ inside, Next item next)
    {start : Item} (begins : start ∈ inside) :
    ∃ item, Relation.ReflTransGen Next start item ∧ Relation.TransGen Next item item := by
  by_contra straight
  push Not at straight
  let Reached := {item // item ∈ inside ∧ Relation.ReflTransGen Next start item}
  let Behind (left right : Reached) : Prop := Relation.TransGen Next right.1 left.1
  have few : Finite Reached := (finite.subset fun _ reached => reached.1).to_subtype
  have trans : IsTrans Reached Behind := ⟨fun _ _ _ first second => second.trans first⟩
  have irrefl : Std.Irrefl Behind := ⟨fun item around => straight item.1 item.2.2 around⟩
  obtain ⟨⟨last, member, path⟩, _, none⟩ :=
    (Finite.wellFounded_of_trans_of_irrefl Behind).has_min Set.univ
      ⟨⟨start, begins, .refl⟩, trivial⟩
  obtain ⟨next, further, step⟩ := goesOn last member
  exact none ⟨next, further, path.tail step⟩ trivial (.single step)

/-! ## Open names -/

theorem openNames_iff {graph : ExecutionGraph} {done : List Nat} {name : String} :
    name ∈ graph.openNames done ↔
      ∃ position, graph.nodeNames[position]? = some name ∧ position ∉ done := by
  simp only [ExecutionGraph.openNames, List.mem_map, List.mem_filter, Prod.exists,
    List.mem_zipIdx_iff_getElem?, exists_and_right, exists_eq_right, Bool.not_eq_true',
    List.contains_eq_mem, decide_eq_false_iff_not]

theorem pending_eq_countP {graph : ExecutionGraph} (distinct : graph.nodeNames.Nodup)
    (done : List Nat) (listed : List String) :
    pending graph.nodeNames done listed = listed.countP (graph.openNames done).contains := by
  unfold pending
  congr 1
  funext name
  rw [Bool.eq_iff_iff, List.contains_iff_mem, openNames_iff, Option.any_eq_true]
  constructor
  · rintro ⟨position, found, fresh⟩
    exact ⟨position, getElem?_of_position? found, by simpa using fresh⟩
  · rintro ⟨position, stored, fresh⟩
    exact ⟨position, position?_of_getElem? distinct stored, by simpa using fresh⟩

/-! ## Ready nodes -/

/-- Everything that the node at a position depends on is completed. -/
def Ready (graph : ExecutionGraph) (done : List Nat) (position : Nat) : Prop :=
  position < graph.nodes.length ∧
    ∀ dependency, graph.DependsOn position dependency → dependency ∈ done

section Ready
variable {graph : ExecutionGraph} {done later : List Nat} {position : Nat}

theorem ready_nil_iff : Ready graph [] position ↔
    position < graph.nodes.length ∧ ∀ dependency, ¬ graph.DependsOn position dependency := by
  simp only [Ready, List.not_mem_nil, imp_false]

-- The last completion that a node has waited for is that of a dependency.
theorem ready_last_iff {last : Nat} :
    Ready graph (done ++ [last]) position ∧ ¬ Ready graph done position ↔
    graph.DependsOn position last ∧ last ∉ done ∧
      ∀ dependency, graph.DependsOn position dependency → dependency ∈ done ++ [last] := by
  constructor
  · rintro ⟨⟨inside, settled⟩, waits⟩
    obtain ⟨dependency, depends, missing⟩ : ∃ dependency, graph.DependsOn position dependency ∧
        dependency ∉ done := by
      by_contra none
      push Not at none
      exact waits ⟨inside, none⟩
    have same := (List.mem_append.mp (settled dependency depends)).resolve_left missing
    rw [List.mem_singleton.mp same] at depends missing
    exact ⟨depends, missing, settled⟩
  · rintro ⟨depends, missing, settled⟩
    refine ⟨⟨?_, settled⟩, fun ready => missing (ready.2 last depends)⟩
    obtain ⟨_, _, known, _⟩ := depends
    exact (List.getElem?_eq_some_iff.mp known).1

theorem Ready.mono (ready : Ready graph done position) (more : done ⊆ later) :
    Ready graph later position :=
  ⟨ready.1, fun dependency depends => more (ready.2 dependency depends)⟩

-- The order of completions does not matter.
theorem ready_reverse : Ready graph done.reverse position ↔ Ready graph done position := by
  simp only [Ready, List.mem_reverse]

theorem ready_iff_free (distinct : graph.nodeNames.Nodup) :
    Ready graph done position ↔
      ∃ listed, (graph.nodes.map ExecutionNode.dependencies)[position]? = some listed ∧
        Free graph.nodeNames done listed := by
  simp only [Ready, ← Run.needs_iff_dependsOn distinct, List.getElem?_map, Option.map_eq_some_iff]
  constructor
  · rintro ⟨inside, settled⟩
    have known := List.getElem?_eq_getElem inside
    exact ⟨_, ⟨_, known, rfl⟩, (Run.free_iff_needs known done).mpr settled⟩
  · rintro ⟨_, ⟨node, known, rfl⟩, free⟩
    exact ⟨(List.getElem?_eq_some_iff.mp known).1, (Run.free_iff_needs known done).mp free⟩

end Ready

/-! ## Completions -/

/-- What completions keep. -/
structure Ledger (graph : ExecutionGraph) (done : List Nat) (batches : List (List Nat))
    (readiness : Readiness) : Prop where
  counts : Counts graph.nodeNames (graph.nodes.map ExecutionNode.dependencies) done.reverse
    readiness
  released : ∀ position, position ∈ batches.flatten ↔ Ready graph done position
  once : batches.flatten.Nodup
  completed : done ⊆ batches.flatten
  apart : done.Nodup

section Ledger
variable {graph : ExecutionGraph} {done : List Nat} {batches : List (List Nat)}
  {readiness : Readiness} {position : Nat}

theorem Ledger.inside (ledger : Ledger graph done batches readiness)
    (released : position ∈ batches.flatten) : position < graph.nodeNames.length := by
  rw [ExecutionGraph.nodeNames, List.length_map]
  exact ((ledger.released position).mp released).1

-- A completion releases what becomes ready by it.
theorem Ledger.mem_complete (ledger : Ledger graph done batches readiness)
    (distinct : graph.nodeNames.Nodup) (released : position ∈ batches.flatten)
    (fresh : position ∉ done) (other : Nat) :
    other ∈ (readiness.complete position).1 ↔
      Ready graph (done ++ [position]) other ∧ ¬ Ready graph done other := by
  rw [ledger.counts.mem_complete (mt List.mem_reverse.mp fresh) (ledger.inside released),
    ← @ready_reverse graph (done ++ [position]), ← @ready_reverse graph done,
    ready_iff_free distinct, ready_iff_free distinct, List.reverse_concat]
  constructor
  · rintro ⟨listed, known, free, waits⟩
    refine ⟨⟨listed, known, free⟩, ?_⟩
    rintro ⟨same, alike, before⟩
    rw [known, Option.some.injEq] at alike
    exact waits (alike ▸ before)
  · rintro ⟨⟨listed, known, free⟩, waits⟩
    exact ⟨listed, known, free, fun before => waits ⟨listed, known, before⟩⟩

theorem ledger_start (distinct : graph.nodeNames.Nodup) :
    Ledger graph [] [(Run.start graph).readiness.initial] (Run.start graph).readiness := by
  have counts := counts_ofNodes graph.nodeNames (graph.nodes.map ExecutionNode.dependencies)
  constructor
  · exact counts
  · intro position
    rw [List.flatten_singleton, ready_iff_free distinct]
    exact counts.mem_initial position
  · rw [List.flatten_singleton]
    exact nodup_initial _
  · exact List.nil_subset _
  · exact List.nodup_nil

theorem Ledger.complete (ledger : Ledger graph done batches readiness)
    (distinct : graph.nodeNames.Nodup) (released : position ∈ batches.flatten)
    (fresh : position ∉ done) :
    Ledger graph (done ++ [position]) (batches ++ [(readiness.complete position).1])
      (readiness.complete position).2 := by
  have mem_complete := ledger.mem_complete distinct released fresh
  have grown : done ⊆ done ++ [position] := List.subset_append_left done [position]
  constructor
  · rw [List.reverse_concat]
    exact ledger.counts.complete (mt List.mem_reverse.mp fresh) (ledger.inside released)
  · intro other
    rw [List.flatten_append, List.flatten_singleton, List.mem_append, ledger.released, mem_complete]
    constructor
    · rintro (before | ⟨now, _⟩)
      · exact before.mono grown
      · exact now
    · intro now
      by_cases before : Ready graph done other
      · exact Or.inl before
      · exact Or.inr ⟨now, before⟩
  · rw [List.flatten_append, List.flatten_singleton]
    refine ledger.once.append
      (ledger.counts.nodup_complete (mt List.mem_reverse.mp fresh) (ledger.inside released)) ?_
    intro other before now
    exact ((mem_complete other).mp now).2 ((ledger.released other).mp before)
  · intro other member
    rw [List.flatten_append]
    apply List.mem_append_left
    rcases List.mem_append.mp member with before | last
    · exact ledger.completed before
    · exact List.mem_singleton.mp last ▸ released
  · exact ledger.apart.append (List.nodup_singleton _) (List.disjoint_singleton.mpr fresh)

theorem ledger_of_completes (distinct : graph.nodeNames.Nodup)
    (completes : Completes graph done batches readiness) : Ledger graph done batches readiness := by
  induction completes with
  | start => exact ledger_start distinct
  | complete _ released fresh ih => exact ih.complete distinct released fresh

end Ledger

/-! ## Counters and batches -/

section Completes
variable {graph : ExecutionGraph} {done : List Nat} {batches : List (List Nat)}
  {readiness : Readiness} {position : Nat}

theorem Ledger.counter (ledger : Ledger graph done batches readiness)
    (distinct : graph.nodeNames.Nodup) {node : ExecutionNode}
    (known : graph.nodes[position]? = some node) :
    readiness.remaining[position]? =
      some (node.dependencies.countP (graph.openNames done).contains) := by
  have same : pending graph.nodeNames done.reverse node.dependencies =
      pending graph.nodeNames done node.dependencies := by
    simp only [pending, List.contains_reverse]
  rw [ledger.counts.remaining, List.getElem?_map, List.getElem?_map, known, Option.map_some,
    Option.map_some, same, pending_eq_countP distinct]

-- Where a counter is about to be taken down, something is left of it.
theorem Ledger.positive (ledger : Ledger graph done batches readiness)
    (released : position ∈ batches.flatten) (fresh : position ∉ done)
    {before after : List Nat} {other : Nat}
    (listed : (readiness.dependents[position]?).getD [] = before ++ other :: after) :
    ∃ left, (countDown readiness.remaining before).2[other]? = some (left + 1) := by
  rw [ledger.counts.waiting (ledger.inside released)] at listed
  have affords := ledger.counts.affords (mt List.mem_reverse.mp fresh) other
  have times := count_waitingFor graph.nodeNames (graph.nodes.map ExecutionNode.dependencies)
    position other
  rw [listed, List.count_append, List.count_cons_self] at times affords
  rw [getElem?_countDown]
  cases stored : readiness.remaining[other]? with
  | none =>
    -- Only nodes have entries.
    rw [ledger.counts.remaining, List.getElem?_map, Option.map_eq_none_iff] at stored
    rw [stored] at times
    simp at times
  | some left =>
    have enough := affords left stored
    exact ⟨left - before.count other - 1, by simp only [Option.map_some, Option.some.injEq]; omega⟩

theorem length_of_completes (completes : Completes graph done batches readiness) :
    batches.length = done.length + 1 := by
  induction completes with
  | start => rfl
  | complete _ _ _ ih => simp [ih]

theorem first_of_completes (distinct : graph.nodeNames.Nodup)
    (completes : Completes graph done batches readiness) :
    ∃ batch, batches[0]? = some batch ∧ ∀ other, other ∈ batch ↔ Ready graph [] other := by
  induction completes with
  | start =>
    refine ⟨_, rfl, fun other => ?_⟩
    rw [← (ledger_start distinct).released, List.flatten_singleton]
  | complete before _ _ ih =>
    obtain ⟨batch, found, exact⟩ := ih
    refine ⟨batch, ?_, exact⟩
    rw [List.getElem?_append_left (by simp [length_of_completes before]), found]

theorem batch_of_completes (distinct : graph.nodeNames.Nodup)
    (completes : Completes graph done batches readiness) {earlier later : List Nat}
    (split : done = earlier ++ position :: later) :
    ∃ batch, batches[earlier.length + 1]? = some batch ∧ ∀ other, other ∈ batch ↔
      Ready graph (earlier ++ [position]) other ∧ ¬ Ready graph earlier other := by
  induction completes generalizing later with
  | start => simp at split
  | @complete done batches readiness last before released fresh ih =>
    have length := length_of_completes before
    rcases Run.split_concat split with ⟨rest, inside⟩ | ⟨rfl, rfl⟩
    · obtain ⟨batch, found, exact⟩ := ih inside
      have early : earlier.length + 1 < batches.length := by
        rw [length, inside]
        simp
      exact ⟨batch, by rw [List.getElem?_append_left early, found], exact⟩
    · have ledger := ledger_of_completes distinct before
      refine ⟨_, ?_, ledger.mem_complete distinct released fresh⟩
      rw [← length, List.getElem?_concat_length]

theorem ready_of_completes (distinct : graph.nodeNames.Nodup)
    (completes : Completes graph done batches readiness) {earlier later : List Nat}
    (split : done = earlier ++ position :: later) : Ready graph earlier position := by
  induction completes generalizing later with
  | start => simp at split
  | @complete done batches readiness last before released fresh ih =>
    rcases Run.split_concat split with ⟨rest, inside⟩ | ⟨rfl, rfl⟩
    · exact ih inside
    · exact ((ledger_of_completes distinct before).released _).mp released

/-! ## Nodes that are never released -/

-- What a completed node depends on was completed before it.
theorem before_of_path (distinct : graph.nodeNames.Nodup)
    (completes : Completes graph done batches readiness) {other : Nat}
    (path : Relation.TransGen graph.DependsOn position other) {earlier later : List Nat}
    (split : done = earlier ++ position :: later) : other ∈ earlier := by
  induction path with
  | single depends => exact (ready_of_completes distinct completes split).2 _ depends
  | tail _ depends ih =>
    obtain ⟨start, rest, rfl⟩ := List.append_of_mem ih
    rw [List.append_assoc] at split
    exact List.mem_append_left _ ((ready_of_completes distinct completes split).2 _ depends)

theorem released_of_path (ledger : Ledger graph done batches readiness) {other : Nat}
    (path : Relation.ReflTransGen graph.DependsOn position other)
    (released : position ∈ batches.flatten) : other ∈ batches.flatten := by
  induction path with
  | refl => exact released
  | tail _ depends ih => exact ledger.completed (((ledger.released _).mp ih).2 _ depends)

theorem not_released_of_entangled (distinct : graph.nodeNames.Nodup)
    (completes : Completes graph done batches readiness) (entangled : graph.Entangled position) :
    position ∉ batches.flatten := by
  intro released
  obtain ⟨other, path, around⟩ := entangled
  have ledger := ledger_of_completes distinct completes
  obtain ⟨last, arrives, depends⟩ := Relation.TransGen.tail'_iff.mp around
  have reached := released_of_path ledger (path.trans arrives) released
  have member := ((ledger.released _).mp reached).2 _ depends
  obtain ⟨earlier, later, split⟩ := List.append_of_mem member
  have again := before_of_path distinct completes around split
  have apart := ledger.apart
  rw [split] at apart
  exact (List.nodup_append.mp apart).2.2 other again other List.mem_cons_self rfl

theorem entangled_of_not_released (distinct : graph.nodeNames.Nodup)
    (completes : Completes graph done batches readiness) (all : batches.flatten ⊆ done)
    (inside : position < graph.nodes.length) (left : position ∉ batches.flatten) :
    graph.Entangled position := by
  have ledger := ledger_of_completes distinct completes
  have finite : {other | other < graph.nodes.length ∧ other ∉ batches.flatten}.Finite :=
    (Set.finite_lt_nat graph.nodes.length).subset fun _ left => left.1
  refine exists_cycle finite ?_ ⟨inside, left⟩
  rintro other ⟨within, waits⟩
  have unready : ¬ Ready graph done other := fun ready => waits ((ledger.released other).mpr ready)
  obtain ⟨dependency, depends, missing⟩ : ∃ dependency, graph.DependsOn other dependency ∧
      dependency ∉ done := by
    by_contra settled
    push Not at settled
    exact unready ⟨within, settled⟩
  have known : dependency < graph.nodes.length := by
    obtain ⟨_, _, _, stored, _⟩ := depends
    exact (List.getElem?_eq_some_iff.mp stored).1
  exact ⟨dependency, ⟨known, fun released => missing (all released)⟩, depends⟩

end Completes

/-- What the tracker has released after some completions, and when. -/
structure Releases (graph : ExecutionGraph) (done : List Nat) (batches : List (List Nat))
    (readiness : Readiness) : Prop where
  counters : ∀ (position : Nat) (node : ExecutionNode), graph.nodes[position]? = some node →
    readiness.remaining[position]? =
      some (node.dependencies.countP (graph.openNames done).contains)
  -- Wherever the next completion takes a counter down, the counter is not zero.
  positive : ∀ position ∈ batches.flatten, position ∉ done → ∀ before other after,
    (readiness.dependents[position]?).getD [] = before ++ other :: after →
      ∃ left, (countDown readiness.remaining before).2[other]? = some (left + 1)
  once : batches.flatten.Nodup
  size : batches.length = done.length + 1
  first : ∃ batch, batches[0]? = some batch ∧ ∀ other, other ∈ batch ↔
    other < graph.nodes.length ∧ ∀ dependency, ¬ graph.DependsOn other dependency
  last : ∀ earlier position later, done = earlier ++ position :: later →
    ∃ batch, batches[earlier.length + 1]? = some batch ∧ ∀ other, other ∈ batch ↔
      graph.DependsOn other position ∧
        ∀ dependency, graph.DependsOn other dependency → dependency ∈ earlier ++ [position]
  never : batches.flatten ⊆ done → ∀ position < graph.nodes.length,
    (position ∉ batches.flatten ↔ graph.Entangled position)

theorem releases_of_completes {graph : ExecutionGraph} (distinct : graph.nodeNames.Nodup)
    {done : List Nat} {batches : List (List Nat)} {readiness : Readiness}
    (completes : Completes graph done batches readiness) :
    Releases graph done batches readiness := by
  have ledger := ledger_of_completes distinct completes
  constructor
  · intro position node known
    exact ledger.counter distinct known
  · intro position released fresh before other after listed
    exact ledger.positive released fresh listed
  · exact ledger.once
  · exact length_of_completes completes
  · obtain ⟨batch, found, exact⟩ := first_of_completes distinct completes
    exact ⟨batch, found, fun other => (exact other).trans ready_nil_iff⟩
  · intro earlier position later split
    obtain ⟨batch, found, exact⟩ := batch_of_completes distinct completes split
    have apart := ledger.apart
    rw [split] at apart
    have fresh : position ∉ earlier := fun member =>
      (List.nodup_append.mp apart).2.2 position member position List.mem_cons_self rfl
    refine ⟨batch, found, fun other => ?_⟩
    rw [exact, ready_last_iff]
    exact and_congr_right fun _ => and_iff_right fresh
  · intro all position inside
    exact ⟨entangled_of_not_released distinct completes all inside,
      not_released_of_entangled distinct completes⟩

-- One entry is there twice, one names nothing, one names its own node, and one a node on a cycle.
def mint : ExecutionGraph where
  config := .standard
  runConfig := .standard
  warehouse := .duckdb
  setup := []
  nodes :=
    [⟨⟨"ore", by decide⟩, .operation, none, [], [], [], .pending⟩,
      ⟨⟨"bars", by decide⟩, .operation, none, ["ore", "ore", "elsewhere"], [], [], .pending⟩,
      ⟨⟨"seal", by decide⟩, .operation, none, ["seal"], [], [], .pending⟩,
      ⟨⟨"coins", by decide⟩, .operation, none, ["ore", "bars"], [], [], .pending⟩,
      ⟨⟨"shop", by decide⟩, .operation, none, ["coins", "seal"], [], [], .pending⟩]

theorem mint_releases :
    ∃ readiness, Completes mint [0, 1, 3] [[0], [1], [3], []] readiness ∧
      Releases mint [0, 1, 3] [[0], [1], [3], []] readiness ∧ mint.Entangled 4 := by
  have completes : Completes mint [0, 1, 3] [[0], [1], [3], []] _ :=
    ((Completes.start.complete (by decide) (by decide)).complete (by decide) (by decide)).complete
      (by decide) (by decide)
  have releases := releases_of_completes (by decide) completes
  exact ⟨_, completes, releases, (releases.never (by decide) 4 (by decide)).mp (by decide)⟩

end Readiness
end SqlPipeline
