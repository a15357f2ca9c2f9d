import SqlPipeline.Build
import SqlPipeline.Proofs.Dag.Order
import SqlPipeline.Proofs.Run.Handover
import SqlPipeline.Proofs.Sorted

/-!
Building from a graph without errors and without a cycle, whose names are distinct. The default run
configuration chooses every action that is not disabled; each becomes one node with its own tasks,
and the nodes it depends on stand before it.
-/

namespace SqlPipeline

namespace CompiledGraph

/-- An action lists the name of another one. Only what can be depended upon counts. -/
def DependsOn (graph : CompiledGraph) (dependent dependency : String) : Prop :=
  dependency ∈ graph.names ∧
    ∃ action ∈ graph.executable, action.name.text = dependent ∧ dependency ∈ action.dependencies

theorem rank_lt_of_path {graph : CompiledGraph} (rank : String → Nat)
    (step : ∀ dependent dependency, graph.DependsOn dependent dependency →
      rank dependency < rank dependent)
    {dependent dependency : String}
    (path : Relation.TransGen graph.DependsOn dependent dependency) :
    rank dependency < rank dependent := by
  induction path with
  | single depends => exact step _ _ depends
  | tail _ depends ih => exact Nat.lt_trans (step _ _ depends) ih

-- A numbering in which whatever an action lists comes before it rules out every cycle.
theorem acyclic_of_rank {graph : CompiledGraph} (rank : String → Nat)
    (less : ∀ action ∈ graph.executable, ∀ dependency ∈ action.dependencies,
      dependency ∈ graph.names → rank dependency < rank action.name.text) :
    ∀ name, ¬ Relation.TransGen graph.DependsOn name name := by
  have step : ∀ dependent dependency, graph.DependsOn dependent dependency →
      rank dependency < rank dependent := by
    rintro _ dependency ⟨known, action, member, rfl, lists⟩
    exact less action member dependency lists known
  intro name cycle
  exact Nat.lt_irrefl _ (rank_lt_of_path rank step cycle)

/-! ## Actions by name -/

section Names
variable {graph : CompiledGraph} {name : String} {action : Action}

theorem perm_dependencyTable (distinct : graph.names.Nodup) :
    graph.dependencyTable.Perm
      (graph.executable.map fun action => (action.name.text, action.dependencies)) := by
  apply Sorted.perm_entries
  simpa [names, Function.comp_def] using distinct

theorem mem_tableNames : name ∈ graph.dependencyTable.map Prod.fst ↔ name ∈ graph.names := by
  rw [dependencyTable, Sorted.mem_keys_entries, List.map_map, names]
  rfl

theorem empty_notMem_tableNames : "" ∉ graph.dependencyTable.map Prod.fst := by
  intro member
  obtain ⟨action, _, same⟩ := List.mem_map.mp (mem_tableNames.mp member)
  exact action.name.nonempty same

theorem depends_iff (distinct : graph.names.Nodup) (dependent dependency : String) :
    Dag.Depends graph.dependencyTable dependent dependency ↔
      graph.DependsOn dependent dependency := by
  rw [Dag.Depends, mem_tableNames, DependsOn]
  refine and_congr_right fun _ => ?_
  simp only [(perm_dependencyTable distinct).mem_iff, List.mem_map, Prod.mk.injEq]
  constructor
  · rintro ⟨_, ⟨action, member, rfl, rfl⟩, lists⟩
    exact ⟨action, member, rfl, lists⟩
  · rintro ⟨action, member, rfl, lists⟩
    exact ⟨_, ⟨action, member, rfl, rfl⟩, lists⟩

theorem depends_eq (distinct : graph.names.Nodup) :
    Dag.Depends graph.dependencyTable = graph.DependsOn := by
  funext dependent dependency
  exact propext (graph.depends_iff distinct dependent dependency)

theorem mem_of_find? (found : graph.find? name = some action) :
    action ∈ graph.executable ∧ action.name.text = name :=
  ⟨List.mem_of_find?_eq_some found, by simpa using List.find?_some found⟩

theorem find?_of_mem (distinct : graph.names.Nodup) (member : action ∈ graph.executable) :
    graph.find? action.name.text = some action := by
  cases found : graph.find? action.name.text with
  | none =>
    have absent := List.find?_eq_none.mp found action member
    simp at absent
  | some other =>
    obtain ⟨known, same⟩ := mem_of_find? found
    rw [List.inj_on_of_nodup_map distinct known member same]

theorem enabled_of_mem (distinct : graph.names.Nodup) (member : action ∈ graph.executable) :
    graph.enabled action.name.text = true ↔ action.disabled = false := by
  simp [enabled, find?_of_mem distinct member]

theorem mem_selectedActions_iff {order selected : List String} (distinct : graph.names.Nodup)
    (mem_iff : ∀ name, name ∈ order ↔ name ∈ graph.names) :
    action ∈ graph.selectedActions order selected ↔
      action ∈ graph.executable ∧ action.name.text ∈ selected := by
  simp only [selectedActions, List.mem_filterMap, List.mem_filter, List.contains_iff_mem]
  constructor
  · rintro ⟨_, ⟨_, chosen⟩, found⟩
    obtain ⟨member, rfl⟩ := mem_of_find? found
    exact ⟨member, chosen⟩
  · rintro ⟨member, chosen⟩
    exact ⟨_, ⟨(mem_iff _).mpr (List.mem_map_of_mem member), chosen⟩, find?_of_mem distinct member⟩

end Names

/-! ## The chosen actions -/

section Chosen
variable {graph : CompiledGraph} {dag : Dag} {order : List String}

-- No literal name is asked for, so none can be missing.
theorem selected_standard :
    graph.selected .standard dag = .ok (graph.names.filter graph.enabled) := rfl

/-- The names of the nodes, dependencies first. -/
def picked (graph : CompiledGraph) (order : List String) : List String :=
  order.filter (graph.names.filter graph.enabled).contains

theorem mem_picked (mem_iff : ∀ name, name ∈ order ↔ name ∈ graph.names) {name : String} :
    name ∈ graph.picked order ↔ name ∈ graph.names ∧ graph.enabled name = true := by
  simp only [picked, List.mem_filter, List.contains_iff_mem, mem_iff]
  tauto

theorem names_selectedActions (found : ∀ name ∈ order, (graph.find? name).isSome = true) :
    (order.filterMap graph.find?).map (fun action => action.name.text) = order := by
  induction order with
  | nil => rfl
  | cons name rest ih =>
    obtain ⟨action, here⟩ := Option.isSome_iff_exists.mp (found name List.mem_cons_self)
    rw [List.filterMap_cons, here]
    simp only [List.map_cons]
    rw [(mem_of_find? here).2, ih fun other member => found other (List.mem_cons_of_mem _ member)]

theorem isSome_find?_of_picked (distinct : graph.names.Nodup)
    (mem_iff : ∀ name, name ∈ order ↔ name ∈ graph.names) :
    ∀ name ∈ graph.picked order, (graph.find? name).isSome = true := by
  intro name member
  obtain ⟨known, _⟩ := (mem_picked mem_iff).mp member
  obtain ⟨action, inside, rfl⟩ := List.mem_map.mp known
  rw [find?_of_mem distinct inside, Option.isSome_some]

theorem mem_chosen_iff (distinct : graph.names.Nodup)
    (mem_iff : ∀ name, name ∈ order ↔ name ∈ graph.names) {action : Action} :
    action ∈ (graph.picked order).filterMap graph.find? ↔
      action ∈ graph.executable ∧ action.disabled = false := by
  refine (mem_selectedActions_iff distinct mem_iff).trans (and_congr_right fun member => ?_)
  have known : action.name.text ∈ graph.names := List.mem_map_of_mem member
  rw [List.mem_filter, enabled_of_mem distinct member, and_iff_right known]

end Chosen
end CompiledGraph

/-! ## Nodes -/

/-- A node does what its action asks for, given what exists. -/
structure Realizes (graph : CompiledGraph) (lookup : Lookup) (run : ExecutionGraph)
    (action : Action) (node : ExecutionNode) : Prop where
  name : node.name = action.name
  dependencies : ∀ name, name ∈ node.dependencies ↔
    name ∈ action.dependencies ∧ name ∈ run.nodeNames
  tasks : ∃ existing, action.existing lookup = .ok existing ∧
    node.tasks = action.tasks graph.config.warehouse .standard existing

/-- The nodes of a run are the actions that are not disabled, each once, dependencies first. -/
structure Covers (graph : CompiledGraph) (lookup : Lookup) (run : ExecutionGraph) : Prop where
  distinct : run.nodeNames.Nodup
  actions : ∀ action ∈ graph.executable, action.disabled = false →
    ∃ node ∈ run.nodes, Realizes graph lookup run action node
  nodes : ∀ node ∈ run.nodes, ∃ action ∈ graph.executable, action.disabled = false ∧
    Realizes graph lookup run action node
  first : ∀ dependent dependency, run.DependsOn dependent dependency → dependency < dependent

section Build
variable {graph : CompiledGraph} {lookup : Lookup}

section Node
variable {action : Action} {warehouse : Warehouse} {run : RunConfig} {selected : List String}
  {node : ExecutionNode}

theorem node_eq_ok_iff :
    action.node warehouse run selected lookup = .ok node ↔
      ∃ existing, action.existing lookup = .ok existing ∧
        node = ⟨action.name, action.kind, action.target,
          action.dependencies.filter selected.contains, action.tags,
          action.tasks warehouse run existing, .pending⟩ := by
  unfold Action.node
  cases action.existing lookup <;> simp [Except.map, eq_comm]

-- Only a table is looked up, and only the lookup can refuse.
theorem node_eq_error_iff {fault : BuildError} :
    action.node warehouse run selected lookup = .error fault ↔
      ∃ record error, action = .table record ∧ lookup record.target = .error error ∧
        fault = .lookup record.target error := by
  cases action with
  | table record =>
    cases found : lookup record.target with
    | ok existing => simp [Action.node, Action.existing, Action.lookupTarget?, found, Except.map]
    | error error =>
      simp [Action.node, Action.existing, Action.lookupTarget?, found, Except.map, eq_comm]
  | operation record => simp [Action.node, Action.existing, Action.lookupTarget?, Except.map]
  | assertion record => simp [Action.node, Action.existing, Action.lookupTarget?, Except.map]
  | test record => simp [Action.node, Action.existing, Action.lookupTarget?, Except.map]

theorem exists_node (answers : ∀ target, ∃ existing, lookup target = .ok existing)
    (action : Action) (warehouse : Warehouse) (run : RunConfig) (selected : List String) :
    ∃ node, action.node warehouse run selected lookup = .ok node := by
  cases made : action.node warehouse run selected lookup with
  | ok node => exact ⟨node, rfl⟩
  | error fault =>
    obtain ⟨record, error, _, failed, _⟩ := node_eq_error_iff.mp made
    obtain ⟨existing, found⟩ := answers record.target
    rw [failed] at found
    cases found

theorem parts_of_node (built : action.node warehouse run selected lookup = .ok node) :
    node.name = action.name ∧ node.dependencies = action.dependencies.filter selected.contains ∧
      ∃ existing, action.existing lookup = .ok existing ∧
        node.tasks = action.tasks warehouse run existing := by
  obtain ⟨existing, found, rfl⟩ := node_eq_ok_iff.mp built
  exact ⟨rfl, rfl, existing, found, rfl⟩

end Node

theorem names_of_made {warehouse : Warehouse} {run : RunConfig} {selected : List String}
    {actions : List Action} {nodes : List ExecutionNode}
    (made : List.Forall₂ (fun action node => action.node warehouse run selected lookup = .ok node)
      actions nodes) :
    nodes.map (fun node => node.name.text) = actions.map fun action => action.name.text := by
  induction made with
  | nil => rfl
  | cons made _ ih => rw [List.map_cons, List.map_cons, ih, (parts_of_node made).1]

/-- A graph that is ready to run, once its nodes are made. -/
def CompiledGraph.ready (graph : CompiledGraph) (run : RunConfig) (dag : Dag)
    (order selected : List String) (nodes : List ExecutionNode) : Built where
  graph :=
    { config := graph.config
      runConfig := run
      warehouse := graph.config.warehouse
      setup := setupTasks graph.config.warehouse nodes
      nodes }
  lookups := (graph.selectedActions order selected).filterMap Action.lookupTarget?
  warnings := (graph.selectedActions order selected).flatMap fun action =>
    action.unknownDependencies selected dag

section Stages
variable {run : RunConfig}

theorem build_of_unsound (unsound : graph.errors ≠ []) :
    build graph run lookup = .error (.compilation graph.errors) := by
  have errors : graph.hasErrors = true := by simpa [CompiledGraph.hasErrors] using unsound
  rw [build, if_pos errors]
  rfl

theorem build_of_invalid (sound : graph.errors = []) (invalid : ¬ run.valid = true) :
    build graph run lookup = .error .runConfig := by
  have clean : graph.hasErrors = false := by simp [CompiledGraph.hasErrors, sound]
  simp only [build, clean, invalid, bind, Except.bind, pure, Except.pure, Bool.not_false,
    Bool.false_eq_true, if_false, if_true]
  rfl

theorem build_of_valid (sound : graph.errors = []) (valid : run.valid = true) :
    build graph run lookup =
      ((Dag.build graph.dependencyTable).mapError BuildError.ofProject).bind fun dag =>
        (graph.selected run dag).bind fun selected =>
          (dag.sorted.mapError BuildError.ofProject).bind fun order =>
            ((graph.selectedActions order selected).mapM fun action : Action =>
              action.node graph.config.warehouse run selected lookup).map
                (graph.ready run dag order selected) := by
  have clean : graph.hasErrors = false := by simp [CompiledGraph.hasErrors, sound]
  simp only [build, clean, valid, bind, pure, Except.pure, Bool.not_true, Bool.false_eq_true,
    if_false]
  rfl

theorem stages_of_build {built : Built} (good : build graph run lookup = .ok built) :
    ∃ dag selected order nodes, Dag.build graph.dependencyTable = .ok dag ∧
      graph.selected run dag = .ok selected ∧ dag.sorted = .ok order ∧
      (graph.selectedActions order selected).mapM (fun action : Action =>
        action.node graph.config.warehouse run selected lookup) = .ok nodes ∧
      built = graph.ready run dag order selected nodes := by
  by_cases sound : graph.errors = []
  case neg =>
    rw [build_of_unsound sound] at good
    cases good
  by_cases valid : run.valid = true
  case neg =>
    rw [build_of_invalid sound valid] at good
    cases good
  rw [build_of_valid sound valid] at good
  simp only [bind_eq_ok_iff, mapError_eq_ok_iff, map_eq_ok_iff] at good
  obtain ⟨dag, found, selected, chosen, order, sorted, nodes, made, same⟩ := good
  exact ⟨dag, selected, order, nodes, found, chosen, sorted, made, same.symm⟩

-- Once the names are chosen and in order, it is for the lookups alone to refuse.
theorem build_of_order {dag : Dag} {order selected : List String}
    (sound : graph.errors = []) (valid : run.valid = true)
    (found : Dag.build graph.dependencyTable = .ok dag)
    (chosen : graph.selected run dag = .ok selected) (sorted : dag.sorted = .ok order) :
    build graph run lookup =
      ((graph.selectedActions order selected).mapM fun action : Action =>
        action.node graph.config.warehouse run selected lookup).map
          (graph.ready run dag order selected) := by
  rw [build_of_valid sound valid, found, Except.mapError, Except.bind, chosen, Except.bind, sorted,
    Except.mapError, Except.bind]

end Stages

end Build

/-! ## The nodes of a run -/

section Covers
variable {graph : CompiledGraph} {lookup : Lookup} {order : List String} {run : ExecutionGraph}

theorem pairwise_idxOf (once : order.Nodup) :
    order.Pairwise fun earlier later => order.idxOf earlier < order.idxOf later := by
  refine List.pairwise_iff_getElem.mpr ?_
  intro index later inside insideLater before
  rwa [once.idxOf_getElem, once.idxOf_getElem]

theorem lt_of_ranked {names : List String} {rank : String → Nat}
    (ranked : names.Pairwise fun earlier later => rank earlier < rank later) {index other : Nat}
    {name second : String} (found : names[index]? = some name)
    (foundOther : names[other]? = some second) (before : rank name < rank second) :
    index < other := by
  obtain ⟨inside, rfl⟩ := List.getElem?_eq_some_iff.mp found
  obtain ⟨within, rfl⟩ := List.getElem?_eq_some_iff.mp foundOther
  by_contra late
  rcases Nat.lt_or_eq_of_le (Nat.not_lt.mp late) with behind | same
  · have after := List.pairwise_iff_getElem.mp ranked other index within inside behind
    exact Nat.lt_asymm before after
  · subst same
    exact Nat.lt_irrefl _ before

-- Leaving out names keeps the order of those that stay.
theorem lt_of_listed {keep : String → Bool} (once : order.Nodup)
    (names : run.nodeNames = order.filter keep) {index other : Nat} {node second : ExecutionNode}
    (known : run.nodes[index]? = some node) (knownOther : run.nodes[other]? = some second)
    (before : order.idxOf node.name.text < order.idxOf second.name.text) : index < other := by
  have ranked : run.nodeNames.Pairwise fun earlier later =>
      order.idxOf earlier < order.idxOf later := by
    rw [names]
    exact (pairwise_idxOf once).filter _
  exact lt_of_ranked ranked (ExecutionGraph.nodeNames_of_known known)
    (ExecutionGraph.nodeNames_of_known knownOther) before

/-- The nodes are made of the chosen actions one by one. -/
def Made (graph : CompiledGraph) (lookup : Lookup) (order : List String)
    (nodes : List ExecutionNode) : Prop :=
  List.Forall₂ (fun action node => action.node graph.config.warehouse .standard
      (graph.names.filter graph.enabled) lookup = .ok node)
    ((graph.picked order).filterMap graph.find?) nodes

theorem Made.nodeNames (made : Made graph lookup order run.nodes) (distinct : graph.names.Nodup)
    (mem_iff : ∀ name, name ∈ order ↔ name ∈ graph.names) :
    run.nodeNames = graph.picked order := by
  rw [← CompiledGraph.names_selectedActions
    (CompiledGraph.isSome_find?_of_picked distinct mem_iff)]
  exact names_of_made made

theorem realizes_of_node (names : run.nodeNames = graph.picked order)
    (mem_iff : ∀ name, name ∈ order ↔ name ∈ graph.names) {action : Action} {node : ExecutionNode}
    (made : action.node graph.config.warehouse .standard (graph.names.filter graph.enabled) lookup =
      .ok node) : Realizes graph lookup run action node := by
  obtain ⟨name, dependencies, tasks⟩ := parts_of_node made
  refine ⟨name, ?_, tasks⟩
  intro other
  rw [dependencies, names, CompiledGraph.mem_picked mem_iff]
  simp only [List.mem_filter, List.contains_iff_mem]

-- The nodes stand in the order of their names, in which dependencies come first.
theorem lt_of_dependsOn (distinct : graph.names.Nodup)
    (orders : Dag.Orders (Dag.ofTable graph.dependencyTable) order)
    (names : run.nodeNames = graph.picked order)
    (nodes : ∀ node ∈ run.nodes, ∃ action ∈ graph.executable, action.disabled = false ∧
      Realizes graph lookup run action node) {dependent dependency : Nat}
    (depends : run.DependsOn dependent dependency) : dependency < dependent := by
  obtain ⟨node, other, known, stored, lists⟩ := depends
  obtain ⟨action, member, _, realizes⟩ := nodes node (List.mem_of_getElem? known)
  obtain ⟨_, listed, _, same⟩ := nodes other (List.mem_of_getElem? stored)
  have depends : Dag.Depends graph.dependencyTable node.name.text other.name.text := by
    refine (graph.depends_iff distinct _ _).mpr ⟨?_, action, member, by rw [realizes.name], ?_⟩
    · rw [same.name]
      exact List.mem_map_of_mem listed
    · exact ((realizes.dependencies _).mp lists).1
  exact lt_of_listed orders.once names stored known
    (orders.first _ _ (Dag.leads_ofTable.mpr depends))

theorem covers_of_made (distinct : graph.names.Nodup)
    (orders : Dag.Orders (Dag.ofTable graph.dependencyTable) order)
    (made : Made graph lookup order run.nodes) : Covers graph lookup run := by
  have mem_iff : ∀ name, name ∈ order ↔ name ∈ graph.names := fun name =>
    (orders.mem_iff name).trans CompiledGraph.mem_tableNames
  have names := made.nodeNames distinct mem_iff
  have nodes : ∀ node ∈ run.nodes, ∃ action ∈ graph.executable, action.disabled = false ∧
      Realizes graph lookup run action node := by
    intro node member
    obtain ⟨action, chosen, built⟩ := exists_of_forall₂ made member
    obtain ⟨known, ready⟩ := (CompiledGraph.mem_chosen_iff distinct mem_iff).mp chosen
    exact ⟨action, known, ready, realizes_of_node names mem_iff built⟩
  constructor
  · rw [names]
    exact orders.once.filter _
  · intro action member ready
    have chosen := (CompiledGraph.mem_chosen_iff distinct mem_iff).mpr ⟨member, ready⟩
    obtain ⟨node, listed, built⟩ := exists_of_forall₂ made.flip chosen
    exact ⟨node, listed, realizes_of_node names mem_iff built⟩
  · exact nodes
  · intro dependent dependency
    exact lt_of_dependsOn distinct orders names nodes

end Covers

theorem build_of_sound {graph : CompiledGraph} {lookup : Lookup} (sound : graph.errors = [])
    (distinct : graph.names.Nodup)
    (acyclic : ∀ name, ¬ Relation.TransGen graph.DependsOn name name)
    (answers : ∀ target, ∃ existing, lookup target = .ok existing) :
    ∃ built, build graph .standard lookup = .ok built ∧ Covers graph lookup built.graph := by
  have loopless : ∀ name, ¬ Relation.TransGen (Dag.Depends graph.dependencyTable) name name := by
    rwa [CompiledGraph.depends_eq distinct]
  obtain ⟨order, found, sorted, orders⟩ :=
    Dag.build_of_acyclic CompiledGraph.empty_notMem_tableNames loopless
  let chosen := graph.names.filter graph.enabled
  obtain ⟨nodes, made⟩ := exists_mapM
    (fun (action : Action) (_ : action ∈ graph.selectedActions order chosen) =>
      exists_node answers action graph.config.warehouse .standard chosen)
  refine ⟨graph.ready .standard (Dag.ofTable graph.dependencyTable) order chosen nodes, ?_,
    covers_of_made distinct orders (forall₂_of_mapM made)⟩
  rw [build_of_order sound rfl found CompiledGraph.selected_standard sorted, made]
  rfl

end SqlPipeline
