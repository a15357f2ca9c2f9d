import SqlPipeline.Proofs.Choice

/-!
How building ends. What can stand in its way is looked at in a fixed order: the errors of the graph,
the run configuration, cycles among all executable actions, the names that are asked for, and at
last what exists at the targets of the chosen tables.
-/

namespace SqlPipeline

/-! ## What a build needs -/

/-- Nothing is wrong that shows before the dependencies are looked at. -/
structure Usable (graph : CompiledGraph) (run : RunConfig) : Prop where
  sound : graph.errors = []
  valid : run.includeDependencies = true → run.nodes ≠ []

/-- No executable action depends on itself, whether or not it is asked for. -/
structure Orderable (graph : CompiledGraph) (run : RunConfig) : Prop extends Usable graph run where
  acyclic : ∀ name, ¬ Relation.TransGen graph.DependsOn name name

/-- A name that is no pattern and none of an executable action. -/
def Unknown (graph : CompiledGraph) (name : String) : Prop :=
  Pattern.isWildcard name = false ∧ name ∉ graph.names

/-- Only the lookups can still refuse. -/
structure Selectable (graph : CompiledGraph) (run : RunConfig) : Prop
    extends Orderable graph run where
  known : ∀ name ∈ run.nodes, ¬ Unknown graph name

/-- The actions of a run, in the order of its nodes. -/
def CompiledGraph.planned (graph : CompiledGraph) (run : RunConfig) : List Action :=
  let dag := Dag.ofTable graph.dependencyTable
  match dag.sorted with
  | .ok order => graph.selectedActions order ((graph.chosen run dag).filter graph.enabled)
  | .error _ => []

/-- What exists at the target of a table can not be found out. -/
def Action.Fails (lookup : Lookup) (action : Action) : Prop :=
  ∃ record fault, action = .table record ∧ lookup record.target = .error fault

/-! ## What stops a build before the lookups -/

/-- Each reason presupposes that those before it do not apply. -/
inductive Refuses (graph : CompiledGraph) (run : RunConfig) : BuildError → Prop where
  | compilation (unsound : graph.errors ≠ []) : Refuses graph run (.compilation graph.errors)
  | runConfig (sound : graph.errors = []) (further : run.includeDependencies = true)
      (all : run.nodes = []) : Refuses graph run .runConfig
  | circularDependency {cycle : List String} (usable : Usable graph run)
      (refused : Dag.build graph.dependencyTable = .error (.circularDependency cycle)) :
      Refuses graph run (.circularDependency cycle)
  | nodeNotFound {name : String} (orderable : Orderable graph run)
      (first : First (Unknown graph) run.nodes name) : Refuses graph run (.nodeNotFound name)

section Refusals
variable {graph : CompiledGraph} {run : RunConfig} {fault : BuildError}

theorem Usable.valid_eq (usable : Usable graph run) : run.valid = true := by
  cases further : run.includeDependencies with
  | false => simp [RunConfig.valid, further]
  | true => simp [RunConfig.valid, usable.valid further]

theorem Orderable.exists_order (orderable : Orderable graph run)
    (distinct : graph.names.Nodup) :
    ∃ order, Dag.build graph.dependencyTable = .ok (Dag.ofTable graph.dependencyTable) ∧
      (Dag.ofTable graph.dependencyTable).sorted = .ok order ∧
      Dag.Orders (Dag.ofTable graph.dependencyTable) order := by
  refine Dag.build_of_acyclic CompiledGraph.empty_notMem_tableNames ?_
  rw [CompiledGraph.depends_eq distinct]
  exact orderable.acyclic

theorem unknown_iff {name : String} :
    (!Pattern.isWildcard name && !(Dag.ofTable graph.dependencyTable).contains name) = true ↔
      Unknown graph name := by
  have known : (Dag.ofTable graph.dependencyTable).contains name = true ↔ name ∈ graph.names :=
    List.contains_iff_mem.trans CompiledGraph.mem_tableNames
  simp [Unknown, ← known]

theorem selected_of_unknown {name : String} (first : First (Unknown graph) run.nodes name) :
    graph.selected run (Dag.ofTable graph.dependencyTable) = .error (.nodeNotFound name) := by
  rw [CompiledGraph.selected, (find?_eq_some_iff_first fun _ => unknown_iff).mpr first]

theorem selected_of_known (known : ∀ name ∈ run.nodes, ¬ Unknown graph name) :
    graph.selected run (Dag.ofTable graph.dependencyTable) =
      .ok ((graph.chosen run (Dag.ofTable graph.dependencyTable)).filter graph.enabled) := by
  have none : run.nodes.find? (fun name => !Pattern.isWildcard name &&
      !(Dag.ofTable graph.dependencyTable).contains name) = none :=
    List.find?_eq_none.mpr fun name listed => mt unknown_iff.mp (known name listed)
  rw [CompiledGraph.selected, none]

theorem build_of_refuses (distinct : graph.names.Nodup) (refuses : Refuses graph run fault)
    (lookup : Lookup) : build graph run lookup = .error fault := by
  cases refuses with
  | compilation unsound => exact build_of_unsound unsound
  | runConfig sound further all =>
    have invalid : ¬ run.valid = true := by simp [RunConfig.valid, further, all]
    exact build_of_invalid sound invalid
  | circularDependency usable refused =>
    rw [build_of_valid usable.sound usable.valid_eq, refused]
    rfl
  | nodeNotFound orderable first =>
    obtain ⟨order, found, _⟩ := orderable.exists_order distinct
    rw [build_of_valid orderable.sound orderable.valid_eq, found, Except.mapError, Except.bind,
      selected_of_unknown first]
    rfl

theorem cyclic_iff (distinct : graph.names.Nodup) :
    (∃ cycle, Dag.build graph.dependencyTable = .error (.circularDependency cycle)) ↔
      ∃ name, Relation.TransGen graph.DependsOn name name := by
  rw [← CompiledGraph.depends_eq distinct]
  constructor
  · rintro ⟨cycle, failed⟩
    by_contra acyclic
    push Not at acyclic
    obtain ⟨_, found, _⟩ := Dag.build_of_acyclic CompiledGraph.empty_notMem_tableNames acyclic
    rw [found] at failed
    cases failed
  · exact Dag.build_of_cyclic CompiledGraph.empty_notMem_tableNames

-- The reasons are tried one after the other.
theorem refuses_or_selectable (distinct : graph.names.Nodup) :
    (∃ fault, Refuses graph run fault) ∨ Selectable graph run := by
  by_cases sound : graph.errors = []
  case neg => exact Or.inl ⟨_, .compilation sound⟩
  by_cases valid : run.includeDependencies = true → run.nodes ≠ []
  case neg =>
    push Not at valid
    exact Or.inl ⟨_, .runConfig sound valid.1 valid.2⟩
  have usable : Usable graph run := ⟨sound, valid⟩
  by_cases acyclic : ∀ name, ¬ Relation.TransGen graph.DependsOn name name
  case neg =>
    push Not at acyclic
    obtain ⟨cycle, refused⟩ := (cyclic_iff distinct).mpr acyclic
    exact Or.inl ⟨_, .circularDependency usable refused⟩
  have orderable : Orderable graph run := ⟨usable, acyclic⟩
  by_cases known : ∀ name ∈ run.nodes, ¬ Unknown graph name
  case neg =>
    push Not at known
    obtain ⟨name, listed, unknown⟩ := known
    obtain ⟨missing, first⟩ := exists_first listed unknown
    exact Or.inl ⟨_, .nodeNotFound orderable first⟩
  exact Or.inr ⟨orderable, known⟩

end Refusals

/-! ## The lookups -/

section Lookups
variable {graph : CompiledGraph} {run : RunConfig} {lookup other : Lookup} {action : Action}
  {warehouse : Warehouse} {selected : List String}

theorem exists_error_iff_fails :
    (∃ fault, action.node warehouse run selected lookup = .error fault) ↔ action.Fails lookup := by
  simp only [node_eq_error_iff, Action.Fails]
  constructor
  · rintro ⟨_, record, error, rfl, failed, _⟩
    exact ⟨record, error, rfl, failed⟩
  · rintro ⟨record, error, rfl, failed⟩
    exact ⟨_, record, error, rfl, failed, rfl⟩

theorem node_congr (same : ∀ record, action = .table record →
      other record.target = lookup record.target) :
    action.node warehouse run selected other = action.node warehouse run selected lookup := by
  cases action with
  | table record => simp only [Action.node, Action.existing, Action.lookupTarget?, same record rfl]
  | operation | assertion | test => rfl

end Lookups

/-! ## The nodes that are planned -/

section Planned
variable {graph : CompiledGraph} {run : RunConfig} {lookup other : Lookup} {action : Action}

-- The plan does not depend on the lookups, and nothing else can still go wrong.
theorem Selectable.exists_plan (selectable : Selectable graph run)
    (distinct : graph.names.Nodup) :
    ∃ order selected, graph.planned run = graph.selectedActions order selected ∧
      (∀ action, action ∈ graph.planned run ↔ Chosen graph run action) ∧
      ∀ lookup, build graph run lookup =
        ((graph.planned run).mapM fun action : Action =>
          action.node graph.config.warehouse run selected lookup).map
            (graph.ready run (Dag.ofTable graph.dependencyTable) order selected) := by
  obtain ⟨order, found, sorted, orders⟩ := selectable.exists_order distinct
  have planned : graph.planned run = graph.selectedActions order
      ((graph.chosen run (Dag.ofTable graph.dependencyTable)).filter graph.enabled) := by
    simp only [CompiledGraph.planned, sorted]
  refine ⟨order, _, planned, ?_, ?_⟩
  · intro action
    rw [planned, CompiledGraph.mem_selectedActions_iff distinct fun _ => mem_order_iff orders]
    constructor
    · rintro ⟨member, chosen⟩
      exact (CompiledGraph.mem_filter_chosen_iff distinct member).mp chosen
    · intro chosen
      have member := chosen.executable
      exact ⟨member, (CompiledGraph.mem_filter_chosen_iff distinct member).mpr chosen⟩
  · intro lookup
    rw [planned]
    exact build_of_order selectable.sound selectable.valid_eq found
      (selected_of_known selectable.known) sorted

theorem Selectable.mem_planned_iff (selectable : Selectable graph run)
    (distinct : graph.names.Nodup) : action ∈ graph.planned run ↔ Chosen graph run action := by
  obtain ⟨_, _, _, mem_iff, _⟩ := selectable.exists_plan distinct
  exact mem_iff action

theorem Selectable.build_eq_error_iff (selectable : Selectable graph run)
    (distinct : graph.names.Nodup) {fault : BuildError} :
    build graph run lookup = .error fault ↔
      ∃ record error, First (Action.Fails lookup) (graph.planned run) (.table record) ∧
        lookup record.target = .error error ∧ fault = .lookup record.target error := by
  obtain ⟨order, selected, _, _, built⟩ := selectable.exists_plan distinct
  rw [built lookup, map_eq_error_iff]
  constructor
  · intro failed
    obtain ⟨action, first, failed⟩ := first_of_mapM failed
    simp only [exists_error_iff_fails] at first
    obtain ⟨record, error, rfl, unanswered, rfl⟩ := node_eq_error_iff.mp failed
    exact ⟨record, error, first, unanswered, rfl⟩
  · rintro ⟨record, error, first, failed, rfl⟩
    refine mapM_of_first ?_ (node_eq_error_iff.mpr ⟨record, error, rfl, failed, rfl⟩)
    simpa only [exists_error_iff_fails] using first

theorem Selectable.exists_built_iff (selectable : Selectable graph run)
    (distinct : graph.names.Nodup) :
    (∃ built, build graph run lookup = .ok built) ↔
      ∀ record, Chosen graph run (.table record) →
        ∃ existing, lookup record.target = .ok existing := by
  constructor
  · rintro ⟨built, good⟩ record chosen
    cases found : lookup record.target with
    | ok existing => exact ⟨existing, rfl⟩
    | error error =>
      have fails : Action.Fails lookup (.table record) := ⟨record, error, rfl, found⟩
      obtain ⟨_, first⟩ := exists_first ((selectable.mem_planned_iff distinct).mpr chosen) fails
      obtain ⟨table, fault, rfl, failed⟩ := first.1
      have refused :=
        (selectable.build_eq_error_iff distinct).mpr ⟨table, fault, first, failed, rfl⟩
      rw [good] at refused
      cases refused
  · intro answers
    cases made : build graph run lookup with
    | ok built => exact ⟨built, rfl⟩
    | error fault =>
      obtain ⟨record, error, first, failed, _⟩ := (selectable.build_eq_error_iff distinct).mp made
      obtain ⟨existing, found⟩ :=
        answers record ((selectable.mem_planned_iff distinct).mp first.mem)
      rw [failed] at found
      cases found

theorem Selectable.build_congr (selectable : Selectable graph run)
    (distinct : graph.names.Nodup)
    (same : ∀ record, Chosen graph run (.table record) →
      other record.target = lookup record.target) :
    build graph run other = build graph run lookup := by
  obtain ⟨order, selected, _, mem_iff, built⟩ := selectable.exists_plan distinct
  rw [built other, built lookup]
  congr 1
  refine mapM_congr fun action member => node_congr ?_
  rintro record rfl
  exact same record ((mem_iff _).mp member)

theorem Selectable.ready_of_build (selectable : Selectable graph run)
    (distinct : graph.names.Nodup) {built : Built} (good : build graph run lookup = .ok built) :
    built.graph.nodeNames = (graph.planned run).map (fun action => action.name.text) ∧
      built.lookups = (graph.planned run).filterMap Action.lookupTarget? := by
  obtain ⟨order, selected, planned, _, build⟩ := selectable.exists_plan distinct
  rw [build lookup, map_eq_ok_iff] at good
  obtain ⟨nodes, made, rfl⟩ := good
  refine ⟨names_of_made (forall₂_of_mapM made), ?_⟩
  rw [planned]
  rfl

end Planned

/-! ## The outcome -/

/-- How a build ends, and what decides it. -/
structure BuildOutcome (graph : CompiledGraph) (run : RunConfig) (lookup : Lookup) : Prop where
  compilation : ∀ errors, build graph run lookup = .error (.compilation errors) ↔
    graph.errors ≠ [] ∧ errors = graph.errors
  runConfig : build graph run lookup = .error .runConfig ↔
    graph.errors = [] ∧ run.includeDependencies = true ∧ run.nodes = []
  circularDependency :
    (∃ cycle, build graph run lookup = .error (.circularDependency cycle)) ↔
      Usable graph run ∧ ∃ name, Relation.TransGen graph.DependsOn name name
  nodeNotFound : ∀ name, build graph run lookup = .error (.nodeNotFound name) ↔
    Orderable graph run ∧ First (Unknown graph) run.nodes name
  lookupError : ∀ target fault, build graph run lookup = .error (.lookup target fault) ↔
    Selectable graph run ∧ ∃ record,
      First (Action.Fails lookup) (graph.planned run) (.table record) ∧
        record.target = target ∧ lookup target = .error fault
  success : (∃ built, build graph run lookup = .ok built) ↔
    Selectable graph run ∧ ∀ record, Chosen graph run (.table record) →
      ∃ existing, lookup record.target = .ok existing
  -- Errors of the project are all accounted for; an empty name is not among them.
  accounted : ∀ fault, build graph run lookup ≠ .error (.project fault)
  planned : Selectable graph run →
    ∀ action, action ∈ graph.planned run ↔ Chosen graph run action
  order : ∀ other built, build graph run other = .ok built →
    built.graph.nodeNames = (graph.planned run).map (fun action => action.name.text) ∧
      built.lookups = (graph.planned run).filterMap Action.lookupTarget?
  -- No answer counts but those on chosen tables, and even these only once all else is in order.
  unread : ∀ other : Lookup,
    (Selectable graph run → ∀ record, Chosen graph run (.table record) →
      other record.target = lookup record.target) →
        build graph run other = build graph run lookup

section Refused
variable {graph : CompiledGraph} {run : RunConfig} {lookup : Lookup} {fault : BuildError}

theorem refuses_of_build (distinct : graph.names.Nodup)
    (failed : build graph run lookup = .error fault)
    (early : ∀ target error, fault ≠ .lookup target error) : Refuses graph run fault := by
  rcases refuses_or_selectable distinct with ⟨other, refuses⟩ | selectable
  · rw [build_of_refuses distinct refuses lookup] at failed
    cases failed
    exact refuses
  · obtain ⟨_, _, _, _, same⟩ := (selectable.build_eq_error_iff distinct).mp failed
    exact absurd same (early _ _)

theorem selectable_of_built (distinct : graph.names.Nodup) {built : Built}
    (good : build graph run lookup = .ok built) : Selectable graph run := by
  refine (refuses_or_selectable distinct).resolve_left ?_
  rintro ⟨fault, refuses⟩
  have failed := build_of_refuses distinct refuses lookup
  rw [good] at failed
  cases failed

theorem selectable_of_lookup (distinct : graph.names.Nodup) {target : Target} {error : DbError}
    (failed : build graph run lookup = .error (.lookup target error)) : Selectable graph run := by
  refine (refuses_or_selectable distinct).resolve_left ?_
  rintro ⟨fault, refuses⟩
  rw [build_of_refuses distinct refuses lookup] at failed
  cases failed
  cases refuses

end Refused

theorem outcome_of_distinct {graph : CompiledGraph} (distinct : graph.names.Nodup)
    (run : RunConfig) (lookup : Lookup) : BuildOutcome graph run lookup where
  compilation errors := by
    constructor
    · intro failed
      cases refuses_of_build distinct failed nofun with
      | compilation unsound => exact ⟨unsound, rfl⟩
    · rintro ⟨unsound, rfl⟩
      exact build_of_refuses distinct (.compilation unsound) lookup
  runConfig := by
    constructor
    · intro failed
      cases refuses_of_build distinct failed nofun with
      | runConfig sound further all => exact ⟨sound, further, all⟩
    · rintro ⟨sound, further, all⟩
      exact build_of_refuses distinct (.runConfig sound further all) lookup
  circularDependency := by
    constructor
    · rintro ⟨cycle, failed⟩
      cases refuses_of_build distinct failed nofun with
      | circularDependency usable refused =>
        exact ⟨usable, (cyclic_iff distinct).mp ⟨cycle, refused⟩⟩
    · rintro ⟨usable, cyclic⟩
      obtain ⟨cycle, refused⟩ := (cyclic_iff distinct).mpr cyclic
      exact ⟨cycle, build_of_refuses distinct (.circularDependency usable refused) lookup⟩
  nodeNotFound name := by
    constructor
    · intro failed
      cases refuses_of_build distinct failed nofun with
      | nodeNotFound orderable first => exact ⟨orderable, first⟩
    · rintro ⟨orderable, first⟩
      exact build_of_refuses distinct (.nodeNotFound orderable first) lookup
  lookupError target fault := by
    constructor
    · intro failed
      have selectable := selectable_of_lookup distinct failed
      obtain ⟨record, error, first, unanswered, same⟩ :=
        (selectable.build_eq_error_iff distinct).mp failed
      cases same
      exact ⟨selectable, record, first, rfl, unanswered⟩
    · rintro ⟨selectable, record, first, rfl, unanswered⟩
      exact (selectable.build_eq_error_iff distinct).mpr ⟨record, fault, first, unanswered, rfl⟩
  success := by
    constructor
    · rintro ⟨built, good⟩
      have selectable := selectable_of_built distinct good
      exact ⟨selectable, (selectable.exists_built_iff distinct).mp ⟨built, good⟩⟩
    · rintro ⟨selectable, answers⟩
      exact (selectable.exists_built_iff distinct).mpr answers
  accounted fault := by
    intro failed
    cases refuses_of_build distinct failed nofun
  planned selectable action := selectable.mem_planned_iff distinct
  order other built good := (selectable_of_built distinct good).ready_of_build distinct good
  unread other same := by
    rcases refuses_or_selectable distinct with ⟨fault, refuses⟩ | selectable
    · rw [build_of_refuses distinct refuses other, build_of_refuses distinct refuses lookup]
    · exact selectable.build_congr distinct (same selectable)

-- Two disabled views need each other; the run asks for something else, and for a name of nothing.
def deadlock : List Declaration :=
  [.single .operations "launch" "run launch",
    { Declaration.single (.dataset .view) "inflow" "select 1" with
      dependencies := ["outflow"], disabled := true },
    { Declaration.single (.dataset .view) "outflow" "select 2" with
      dependencies := ["inflow"], disabled := true }]

def deadlockRun : RunConfig := ⟨false, ["launch", "landing"], false⟩

theorem deadlock_outcome :
    (compile .standard deadlock).names.Nodup ∧
      ∀ lookup, BuildOutcome (compile .standard deadlock) deadlockRun lookup ∧
        ∃ cycle, build (compile .standard deadlock) deadlockRun lookup =
          .error (.circularDependency cycle) := by
  have distinct : (compile .standard deadlock).names.Nodup := by decide
  have usable : Usable (compile .standard deadlock) deadlockRun := ⟨by decide, by decide⟩
  have there : (compile .standard deadlock).DependsOn "inflow" "outflow" :=
    ⟨by decide, by decide⟩
  have back : (compile .standard deadlock).DependsOn "outflow" "inflow" :=
    ⟨by decide, by decide⟩
  refine ⟨distinct, fun lookup => ?_⟩
  have outcome := outcome_of_distinct distinct deadlockRun lookup
  exact ⟨outcome, outcome.circularDependency.mpr ⟨usable, "inflow", .tail (.single there) back⟩⟩

end SqlPipeline
