import Mathlib.Data.List.Permutation
import SqlPipeline.Proofs.Build
import SqlPipeline.Session

/-!
The nodes of a run, whatever is chosen. They stand in the order of the whole graph with the actions
left out that were not chosen, so whatever a node depends on, over however many actions and whether
or not those are nodes, stands before it. A node keeps the dependencies that are nodes themselves.
-/

namespace SqlPipeline

namespace Dag

theorem orders_of_sorted {table : List (String × List String)} {order : List String}
    (sorted : (ofTable table).sorted = .ok order) : Orders (ofTable table) order := by
  rcases sorted_cases (closed_ofTable table) with ⟨_, other, same, orders⟩ | ⟨_, cycle, failed⟩
  · rw [sorted] at same
    cases same
    exact orders
  · rw [sorted] at failed
    cases failed

end Dag

/-! ## What is built -/

/-- The nodes are made of the chosen actions one by one, in the order of the whole graph. -/
structure Assembled (graph : CompiledGraph) (run : RunConfig) (lookup : Lookup)
    (selected order : List String) (nodes : List ExecutionNode) : Prop where
  orders : Dag.Orders (Dag.ofTable graph.dependencyTable) order
  enabled : ∀ name ∈ selected, graph.enabled name = true
  made : List.Forall₂
    (fun action node => action.node graph.config.warehouse run selected lookup = .ok node)
    (graph.selectedActions order selected) nodes

section Assembled
variable {graph : CompiledGraph} {run : RunConfig} {lookup : Lookup} {selected order : List String}
  {built : Built}

theorem enabled_of_selected {dag : Dag} (found : graph.selected run dag = .ok selected) :
    ∀ name ∈ selected, graph.enabled name = true := by
  unfold CompiledGraph.selected at found
  split at found
  · cases found
  · cases found
    intro name member
    exact (List.mem_filter.mp member).2

theorem assembled_of_build (good : build graph run lookup = .ok built) :
    ∃ selected order, graph.selected run (Dag.ofTable graph.dependencyTable) = .ok selected ∧
      Assembled graph run lookup selected order built.graph.nodes := by
  obtain ⟨dag, selected, order, nodes, found, chosen, sorted, made, rfl⟩ := stages_of_build good
  obtain ⟨rfl, _⟩ := Dag.ofTable_of_build found
  exact ⟨selected, order, chosen, Dag.orders_of_sorted sorted, enabled_of_selected chosen,
    forall₂_of_mapM made⟩

theorem isSome_find?_of_enabled {name : String} (enabled : graph.enabled name = true) :
    (graph.find? name).isSome = true := by
  cases found : graph.find? name with
  | some action => rfl
  | none => simp [CompiledGraph.enabled, found] at enabled

theorem Assembled.nodeNames
    (assembled : Assembled graph run lookup selected order built.graph.nodes) :
    built.graph.nodeNames = order.filter selected.contains := by
  have found : ∀ name ∈ order.filter selected.contains, (graph.find? name).isSome = true := by
    intro name member
    have chosen := List.contains_iff_mem.mp (List.mem_filter.mp member).2
    exact isSome_find?_of_enabled (assembled.enabled name chosen)
  rw [← CompiledGraph.names_selectedActions found]
  exact names_of_made assembled.made

theorem mem_order_iff (orders : Dag.Orders (Dag.ofTable graph.dependencyTable) order)
    {name : String} : name ∈ order ↔ name ∈ graph.names :=
  (orders.mem_iff name).trans CompiledGraph.mem_tableNames

-- What is chosen has an action, so it is in the order; the nodes are what was chosen.
theorem Assembled.mem_nodeNames_iff
    (assembled : Assembled graph run lookup selected order built.graph.nodes) {name : String} :
    name ∈ built.graph.nodeNames ↔ name ∈ selected := by
  rw [assembled.nodeNames, List.mem_filter, List.contains_iff_mem, and_iff_right_iff_imp]
  intro chosen
  obtain ⟨action, found⟩ :=
    Option.isSome_iff_exists.mp (isSome_find?_of_enabled (assembled.enabled name chosen))
  obtain ⟨member, named⟩ := CompiledGraph.mem_of_find? found
  exact (mem_order_iff assembled.orders).mpr (named ▸ List.mem_map_of_mem member)

end Assembled

/-! ## Nodes and actions -/

section Nodes
variable {graph : CompiledGraph} {run : RunConfig} {lookup : Lookup} {built : Built}

theorem nodup_of_build (good : build graph run lookup = .ok built) :
    built.graph.nodeNames.Nodup := by
  obtain ⟨selected, order, _, assembled⟩ := assembled_of_build good
  rw [assembled.nodeNames]
  exact assembled.orders.once.filter _

theorem action_of_node (good : build graph run lookup = .ok built) {node : ExecutionNode}
    (member : node ∈ built.graph.nodes) :
    ∃ action, graph.find? node.name.text = some action ∧ node.name = action.name ∧
      node.dependencies = action.dependencies.filter built.graph.nodeNames.contains := by
  obtain ⟨selected, order, _, assembled⟩ := assembled_of_build good
  obtain ⟨action, listed, made⟩ := exists_of_forall₂ assembled.made member
  obtain ⟨name, dependencies, _⟩ := parts_of_node made
  obtain ⟨chosen, _, found⟩ := List.mem_filterMap.mp listed
  refine ⟨action, ?_, name, ?_⟩
  · rw [name, (CompiledGraph.mem_of_find? found).2]
    exact found
  · rw [dependencies]
    apply List.filter_congr
    intro dependency _
    rw [Bool.eq_iff_iff, List.contains_iff_mem, List.contains_iff_mem, assembled.mem_nodeNames_iff]

theorem idxOf_lt_of_path {order : List String} (distinct : graph.names.Nodup)
    (orders : Dag.Orders (Dag.ofTable graph.dependencyTable) order) {dependent dependency : String}
    (path : Relation.TransGen graph.DependsOn dependent dependency) :
    order.idxOf dependency < order.idxOf dependent := by
  refine CompiledGraph.rank_lt_of_path (order.idxOf ·) ?_ path
  intro later earlier depends
  exact orders.first _ _ (Dag.leads_ofTable.mpr ((graph.depends_iff distinct _ _).mpr depends))

theorem lt_of_path (distinct : graph.names.Nodup) (good : build graph run lookup = .ok built)
    {later earlier : Nat} {dependent dependency : ExecutionNode}
    (known : built.graph.nodes[later]? = some dependent)
    (knownEarlier : built.graph.nodes[earlier]? = some dependency)
    (path : Relation.TransGen graph.DependsOn dependent.name.text dependency.name.text) :
    earlier < later := by
  obtain ⟨selected, order, _, assembled⟩ := assembled_of_build good
  exact lt_of_listed assembled.orders.once assembled.nodeNames knownEarlier known
    (idxOf_lt_of_path distinct assembled.orders path)

end Nodes

theorem ExecutionGraph.exists_known {run : ExecutionGraph} {name : String}
    (member : name ∈ run.nodeNames) :
    ∃ (position : Nat) (node : ExecutionNode),
      run.nodes[position]? = some node ∧ node.name.text = name := by
  obtain ⟨node, listed, named⟩ := List.mem_map.mp member
  obtain ⟨position, known⟩ := List.mem_iff_getElem?.mp listed
  exact ⟨position, node, known, named⟩

/-- How the nodes of a run stand to the actions of the graph that it was built from. -/
structure Arranged (graph : CompiledGraph) (run : ExecutionGraph) : Prop where
  distinct : run.nodeNames.Nodup
  dependencies : ∀ node ∈ run.nodes, ∃ action ∈ graph.executable, node.name = action.name ∧
    node.dependencies = action.dependencies.filter run.nodeNames.contains
  first : ∀ (position : Nat) (node : ExecutionNode), run.nodes[position]? = some node →
    ∀ name ∈ node.dependencies, ∃ (before : Nat) (other : ExecutionNode),
      before < position ∧ run.nodes[before]? = some other ∧ other.name.text = name
  ordered : ∀ (later earlier : Nat) (dependent dependency : ExecutionNode),
    run.nodes[later]? = some dependent → run.nodes[earlier]? = some dependency →
      Relation.TransGen graph.DependsOn dependent.name.text dependency.name.text → earlier < later

theorem arranged_of_build {graph : CompiledGraph} {run : RunConfig} {lookup : Lookup}
    {built : Built} (distinct : graph.names.Nodup) (good : build graph run lookup = .ok built) :
    Arranged graph built.graph := by
  constructor
  · exact nodup_of_build good
  · intro node member
    obtain ⟨action, found, name, dependencies⟩ := action_of_node good member
    exact ⟨action, (CompiledGraph.mem_of_find? found).1, name, dependencies⟩
  · intro position node known dependency lists
    obtain ⟨action, found, name, dependencies⟩ := action_of_node good (List.mem_of_getElem? known)
    rw [dependencies, List.mem_filter, List.contains_iff_mem] at lists
    obtain ⟨before, other, knownOther, rfl⟩ := ExecutionGraph.exists_known lists.2
    refine ⟨before, other, ?_, knownOther, rfl⟩
    obtain ⟨further, otherFound, otherName, _⟩ :=
      action_of_node good (List.mem_of_getElem? knownOther)
    have depends : graph.DependsOn node.name.text other.name.text := by
      refine ⟨?_, action, (CompiledGraph.mem_of_find? found).1, by rw [name], lists.1⟩
      rw [otherName]
      exact List.mem_map_of_mem (CompiledGraph.mem_of_find? otherFound).1
    exact lt_of_path distinct good known knownOther (.single depends)
  · intro later earlier dependent dependency known knownEarlier path
    exact lt_of_path distinct good known knownEarlier path

-- Each waits for the one before it, and one is left out of the run in the middle.
def relay : List Declaration :=
  [{ Declaration.single .operations "archive" "run archive" with dependencies := ["clean"] },
    { Declaration.single .operations "audit" "run audit" with
      dependencies := ["archive", "clean"] },
    { Declaration.single .operations "clean" "run clean" with dependencies := ["load"] },
    .single .operations "load" "run load",
    { Declaration.single .operations "ship" "run ship" with dependencies := ["audit"] }]

def relayRun : RunConfig := ⟨false, ["archive", "audit", "load", "ship"], false⟩

def relayGraph : ExecutionGraph where
  config := .standard
  runConfig := relayRun
  warehouse := .duckdb
  setup := []
  nodes :=
    [⟨⟨"load", by decide⟩, .operation, none, [], [], [.plain "run load"], .pending⟩,
      ⟨⟨"archive", by decide⟩, .operation, none, [], [], [.plain "run archive"], .pending⟩,
      ⟨⟨"audit", by decide⟩, .operation, none, ["archive"], [], [.plain "run audit"], .pending⟩,
      ⟨⟨"ship", by decide⟩, .operation, none, ["audit"], [], [.plain "run ship"], .pending⟩]

def relayTable : List (String × List String) :=
  [("archive", ["clean"]), ("audit", ["archive", "clean"]), ("clean", ["load"]), ("load", []),
    ("ship", ["audit"])]

theorem build_relay :
    build (compile .standard relay) relayRun Catalog.empty.lookup = .ok ⟨relayGraph, [], []⟩ := by
  have table : (compile .standard relay).dependencyTable = relayTable := by decide
  have found : Dag.build relayTable = .ok (Dag.ofTable relayTable) := by cbv
  have chosen : (compile .standard relay).selected relayRun (Dag.ofTable relayTable) =
      .ok relayRun.nodes := by decide
  have sorted : (Dag.ofTable relayTable).sorted =
      .ok ["load", "clean", "archive", "audit", "ship"] := by cbv
  rw [build_of_order (by decide) (by decide) (table ▸ found) (table ▸ chosen) (table ▸ sorted)]
  decide

theorem relay_arranged :
    (compile .standard relay).names.Nodup ∧
      build (compile .standard relay) relayRun Catalog.empty.lookup = .ok ⟨relayGraph, [], []⟩ ∧
      Arranged (compile .standard relay) relayGraph := by
  have distinct : (compile .standard relay).names.Nodup := by decide
  exact ⟨distinct, build_relay, arranged_of_build distinct build_relay⟩

end SqlPipeline
