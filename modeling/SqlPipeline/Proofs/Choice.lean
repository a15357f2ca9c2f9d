import SqlPipeline.Proofs.Dag.Ancestors
import SqlPipeline.Proofs.Selection

/-!
What a run consists of. An action is asked for by its name or by a pattern that matches it, and what
the actions asked for depend on can be included. A disabled action is no node itself, but what it
depends on is included all the same, because the actions are disabled last.
-/

namespace SqlPipeline

/-- A name is listed as it stands, or some pattern that is listed matches it. -/
def RunConfig.AsksFor (run : RunConfig) (name : String) : Prop :=
  (name ∈ run.nodes ∧ Pattern.isWildcard name = false) ∨
    ∃ pattern ∈ run.nodes, Pattern.isWildcard pattern = true ∧ Pattern.covers pattern name = true

/-- Whether an action belongs to a run. -/
structure Chosen (graph : CompiledGraph) (run : RunConfig) (action : Action) : Prop where
  executable : action ∈ graph.executable
  enabled : action.disabled = false
  wanted : run.nodes = [] ∨ run.AsksFor action.name.text ∨
    (run.includeDependencies = true ∧ ∃ asked ∈ graph.executable, run.AsksFor asked.name.text ∧
      Relation.TransGen graph.DependsOn asked.name.text action.name.text)

namespace CompiledGraph

/-! ## The chosen names -/

/-- What is asked for, without what it depends on. -/
def named (graph : CompiledGraph) (run : RunConfig) : List String :=
  run.nodes.filter (fun name => !Pattern.isWildcard name)
    ++ Pattern.union (run.nodes.filter Pattern.isWildcard) graph.names

section Names
variable {graph : CompiledGraph} {run : RunConfig} {name : String}

theorem chosen_eq (graph : CompiledGraph) (run : RunConfig) (dag : Dag) :
    graph.chosen run dag =
      if run.nodes = [] then graph.names
      else if run.includeDependencies = true then
        graph.named run ++ (graph.named run).flatMap dag.ancestors
      else graph.named run := rfl

theorem asksFor_of_named (member : name ∈ graph.named run) : run.AsksFor name := by
  rcases List.mem_append.mp member with literal | matched
  · obtain ⟨listed, plain⟩ := List.mem_filter.mp literal
    exact Or.inl ⟨listed, by simpa using plain⟩
  · obtain ⟨_, pattern, listed, covers⟩ := Pattern.mem_union.mp matched
    obtain ⟨listed, wild⟩ := List.mem_filter.mp listed
    exact Or.inr ⟨pattern, listed, wild, covers⟩

theorem mem_named_iff (known : name ∈ graph.names) :
    name ∈ graph.named run ↔ run.AsksFor name := by
  constructor
  · exact asksFor_of_named
  · rintro (⟨listed, plain⟩ | ⟨pattern, listed, wild, covers⟩)
    · exact List.mem_append_left _ (List.mem_filter.mpr ⟨listed, by simpa using plain⟩)
    · have matched := List.mem_filter.mpr ⟨listed, wild⟩
      exact List.mem_append_right _ (Pattern.mem_union.mpr ⟨known, pattern, matched, covers⟩)

theorem exists_dependent {dependency : String}
    (path : Relation.TransGen graph.DependsOn name dependency) :
    ∃ action ∈ graph.executable, action.name.text = name := by
  obtain ⟨_, ⟨_, action, member, named, _⟩, _⟩ := Relation.TransGen.head'_iff.mp path
  exact ⟨action, member, named⟩

theorem mem_flatMap_ancestors_iff (distinct : graph.names.Nodup) :
    name ∈ (graph.named run).flatMap (Dag.ofTable graph.dependencyTable).ancestors ↔
      ∃ asked ∈ graph.executable, run.AsksFor asked.name.text ∧
        Relation.TransGen graph.DependsOn asked.name.text name := by
  simp only [List.mem_flatMap, Dag.mem_ancestors_iff, depends_eq distinct]
  constructor
  · rintro ⟨asked, member, path⟩
    obtain ⟨action, executable, rfl⟩ := exists_dependent path
    exact ⟨action, executable, asksFor_of_named member, path⟩
  · rintro ⟨action, executable, asks, path⟩
    exact ⟨_, (mem_named_iff (List.mem_map_of_mem executable)).mpr asks, path⟩

theorem wanted_iff (distinct : graph.names.Nodup) (known : name ∈ graph.names) :
    name ∈ graph.chosen run (Dag.ofTable graph.dependencyTable) ↔
      run.nodes = [] ∨ run.AsksFor name ∨
        (run.includeDependencies = true ∧ ∃ asked ∈ graph.executable,
          run.AsksFor asked.name.text ∧
            Relation.TransGen graph.DependsOn asked.name.text name) := by
  rw [chosen_eq]
  by_cases all : run.nodes = []
  · simp [all, known]
  · by_cases further : run.includeDependencies = true
    · rw [if_neg all, if_pos further, List.mem_append, mem_named_iff known,
        mem_flatMap_ancestors_iff distinct]
      tauto
    · rw [if_neg all, if_neg further, mem_named_iff known]
      simp [all, further]

-- Disabled actions are left out of what was chosen, dependencies and all.
theorem mem_filter_chosen_iff (distinct : graph.names.Nodup) {action : Action}
    (member : action ∈ graph.executable) :
    action.name.text ∈
        (graph.chosen run (Dag.ofTable graph.dependencyTable)).filter graph.enabled ↔
      Chosen graph run action := by
  rw [List.mem_filter, wanted_iff distinct (List.mem_map_of_mem member),
    enabled_of_mem distinct member]
  constructor
  · rintro ⟨wanted, enabled⟩
    exact ⟨member, enabled, wanted⟩
  · intro chosen
    exact ⟨chosen.wanted, chosen.enabled⟩

end Names

theorem kind_ne_test {graph : CompiledGraph} {action : Action}
    (member : action ∈ graph.executable) : action.kind ≠ .test := by
  simp only [executable, List.mem_append, List.mem_map] at member
  rcases member with (⟨_, _, rfl⟩ | ⟨_, _, rfl⟩) | ⟨_, _, rfl⟩ <;> simp [Action.kind]

theorem executable_of_kind {graph : CompiledGraph} {action : Action}
    (listed : action ∈ graph.actions) (kind : action.kind ≠ .test) :
    action ∈ graph.executable := by
  rcases List.mem_append.mp listed with executable | isTest
  · exact executable
  · obtain ⟨_, _, rfl⟩ := List.mem_map.mp isTest
    exact absurd rfl kind

end CompiledGraph

/-! ## The nodes -/

/-- A node stands for an action: it has its name, its kind, its target and its tags. -/
structure ExecutionNode.Represents (node : ExecutionNode) (action : Action) : Prop where
  name : node.name = action.name
  kind : node.kind = action.kind
  target : node.target = action.target
  tags : node.tags = action.tags

section Nodes
variable {graph : CompiledGraph} {run : RunConfig} {lookup : Lookup} {built : Built}
  {action : Action} {node : ExecutionNode}

theorem represents_of_node {warehouse : Warehouse} {selected : List String}
    (made : action.node warehouse run selected lookup = .ok node) : node.Represents action := by
  obtain ⟨_, _, rfl⟩ := node_eq_ok_iff.mp made
  exact ⟨rfl, rfl, rfl, rfl⟩

theorem exists_represented (good : build graph run lookup = .ok built)
    (member : node ∈ built.graph.nodes) : ∃ action ∈ graph.executable, node.Represents action := by
  obtain ⟨selected, order, _, assembled⟩ := assembled_of_build good
  obtain ⟨action, listed, made⟩ := exists_of_forall₂ assembled.made member
  obtain ⟨_, _, found⟩ := List.mem_filterMap.mp listed
  exact ⟨action, (CompiledGraph.mem_of_find? found).1, represents_of_node made⟩

theorem mem_nodeNames_iff (distinct : graph.names.Nodup)
    (good : build graph run lookup = .ok built) (member : action ∈ graph.executable) :
    action.name.text ∈ built.graph.nodeNames ↔ Chosen graph run action := by
  obtain ⟨selected, order, found, assembled⟩ := assembled_of_build good
  rw [assembled.mem_nodeNames_iff, ← CompiledGraph.mem_filter_chosen_iff distinct member]
  unfold CompiledGraph.selected at found
  split at found
  · cases found
  · cases found
    rfl

theorem chosen_of_represents (distinct : graph.names.Nodup)
    (good : build graph run lookup = .ok built) (member : node ∈ built.graph.nodes)
    (executable : action ∈ graph.executable) (represents : node.Represents action) :
    Chosen graph run action := by
  refine (mem_nodeNames_iff distinct good executable).mp ?_
  rw [← represents.name]
  exact List.mem_map_of_mem member

theorem executable_of_represents (good : build graph run lookup = .ok built)
    (member : node ∈ built.graph.nodes) (listed : action ∈ graph.actions)
    (represents : node.Represents action) : action ∈ graph.executable := by
  obtain ⟨other, executable, same⟩ := exists_represented good member
  refine CompiledGraph.executable_of_kind listed ?_
  rw [← represents.kind, same.kind]
  exact CompiledGraph.kind_ne_test executable

theorem exists_node_of_chosen (distinct : graph.names.Nodup)
    (good : build graph run lookup = .ok built) (chosen : Chosen graph run action) :
    ∃ node ∈ built.graph.nodes, node.Represents action := by
  have named := (mem_nodeNames_iff distinct good chosen.executable).mpr chosen
  obtain ⟨node, member, same⟩ := List.mem_map.mp named
  obtain ⟨other, executable, represents⟩ := exists_represented good member
  rw [represents.name] at same
  obtain rfl := List.inj_on_of_nodup_map distinct executable chosen.executable same
  exact ⟨node, member, represents⟩

theorem existsUnique_position (good : build graph run lookup = .ok built)
    (member : node ∈ built.graph.nodes) (represents : node.Represents action) :
    ∃! position : Nat, ∃ node, built.graph.nodes[position]? = some node ∧
      node.Represents action := by
  obtain ⟨position, known⟩ := List.mem_iff_getElem?.mp member
  refine ⟨position, ⟨node, known, represents⟩, ?_⟩
  rintro other ⟨second, knownToo, representsToo⟩
  have name := ExecutionGraph.nodeNames_of_known known
  have nameToo := ExecutionGraph.nodeNames_of_known knownToo
  rw [represents.name] at name
  rw [representsToo.name, ← name] at nameToo
  obtain ⟨inside, _⟩ := List.getElem?_eq_some_iff.mp name
  exact ((List.getElem?_inj inside (nodup_of_build good)).mp nameToo.symm).symm

-- What a node depends on is reached from what it was included for, or from the node itself.
theorem Chosen.of_path (chosen : Chosen graph run action)
    (further : run.includeDependencies = true) {other : Action}
    (executable : other ∈ graph.executable) (enabled : other.disabled = false)
    (path : Relation.TransGen graph.DependsOn action.name.text other.name.text) :
    Chosen graph run other := by
  refine ⟨executable, enabled, ?_⟩
  rcases chosen.wanted with all | asks | ⟨_, asked, member, asks, before⟩
  · exact Or.inl all
  · exact Or.inr (Or.inr ⟨further, action, chosen.executable, asks, path⟩)
  · exact Or.inr (Or.inr ⟨further, asked, member, asks, before.trans path⟩)

end Nodes

theorem nodes_of_build {graph : CompiledGraph} {run : RunConfig} {lookup : Lookup} {built : Built}
    (distinct : graph.names.Nodup) (good : build graph run lookup = .ok built) :
    (∀ action ∈ graph.actions,
      (∃ node ∈ built.graph.nodes, node.Represents action) ↔ Chosen graph run action) ∧
    (∀ node ∈ built.graph.nodes, node.kind ≠ .test ∧
      ∃ action, Chosen graph run action ∧ node.Represents action) ∧
    (∀ action, Chosen graph run action → ∃! position : Nat, ∃ node,
      built.graph.nodes[position]? = some node ∧ node.Represents action) ∧
    (run.includeDependencies = true → ∀ node ∈ built.graph.nodes, ∀ action ∈ graph.executable,
      action.disabled = false →
      Relation.TransGen graph.DependsOn node.name.text action.name.text →
        ∃ other ∈ built.graph.nodes, other.Represents action) := by
  have chosen_of_node {node : ExecutionNode} (member : node ∈ built.graph.nodes) :
      ∃ action, Chosen graph run action ∧ node.Represents action := by
    obtain ⟨action, executable, represents⟩ := exists_represented good member
    exact ⟨action, chosen_of_represents distinct good member executable represents, represents⟩
  refine ⟨?_, ?_, ?_, ?_⟩
  · intro action listed
    constructor
    · rintro ⟨node, member, represents⟩
      have executable := executable_of_represents good member listed represents
      exact chosen_of_represents distinct good member executable represents
    · exact exists_node_of_chosen distinct good
  · intro node member
    obtain ⟨action, chosen, represents⟩ := chosen_of_node member
    refine ⟨?_, action, chosen, represents⟩
    rw [represents.kind]
    exact CompiledGraph.kind_ne_test chosen.executable
  · intro action chosen
    obtain ⟨node, member, represents⟩ := exists_node_of_chosen distinct good chosen
    exact existsUnique_position good member represents
  · intro further node member action executable enabled path
    obtain ⟨dependent, chosen, represents⟩ := chosen_of_node member
    rw [represents.name] at path
    exact exists_node_of_chosen distinct good (chosen.of_path further executable enabled path)

-- What is fetched reaches the report through a table that is disabled; nothing asks for the spare.
def haul : List Declaration :=
  [.single .operations "fetch" "run fetch",
    { Declaration.single .operations "report_daily" "run report" with
      dependencies := ["staging"] },
    .single .operations "spare" "run spare",
    { Declaration.single (.dataset .view) "staging" "select 1" with
      dependencies := ["fetch"], disabled := true }]

def haulRun : RunConfig := ⟨false, ["report_*"], true⟩

def haulGraph : ExecutionGraph where
  config := .standard
  runConfig := haulRun
  warehouse := .duckdb
  setup := []
  nodes :=
    [⟨⟨"fetch", by decide⟩, .operation, none, [], [], [.plain "run fetch"], .pending⟩,
      ⟨⟨"report_daily", by decide⟩, .operation, none, [], [], [.plain "run report"], .pending⟩]

def haulTable : List (String × List String) :=
  [("fetch", []), ("report_daily", ["staging"]), ("spare", []), ("staging", ["fetch"])]

theorem build_haul :
    build (compile .standard haul) haulRun Catalog.empty.lookup = .ok ⟨haulGraph, [], []⟩ := by
  have table : (compile .standard haul).dependencyTable = haulTable := by decide
  have found : Dag.build haulTable = .ok (Dag.ofTable haulTable) := by cbv
  have ancestors : (Dag.ofTable haulTable).ancestors "report_daily" = ["staging", "fetch"] := by
    cbv
  have chosen : (compile .standard haul).selected haulRun (Dag.ofTable haulTable) =
      .ok ["report_daily", "fetch"] := by
    change Except.ok (List.filter (compile .standard haul).enabled
      (["report_daily"] ++ ((Dag.ofTable haulTable).ancestors "report_daily" ++ []))) = _
    rw [ancestors]
    decide
  have sorted : (Dag.ofTable haulTable).sorted =
      .ok ["spare", "fetch", "staging", "report_daily"] := by cbv
  rw [build_of_order (by decide) (by decide) (table ▸ found) (table ▸ chosen) (table ▸ sorted)]
  decide

theorem haul_nodes :
    (compile .standard haul).names.Nodup ∧
      build (compile .standard haul) haulRun Catalog.empty.lookup = .ok ⟨haulGraph, [], []⟩ ∧
      ∀ action ∈ (compile .standard haul).actions,
        (∃ node ∈ haulGraph.nodes, node.Represents action) ↔
          Chosen (compile .standard haul) haulRun action := by
  have distinct : (compile .standard haul).names.Nodup := by decide
  exact ⟨distinct, build_haul, (nodes_of_build distinct build_haul).1⟩

end SqlPipeline
