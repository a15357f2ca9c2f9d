import SqlPipeline.Proofs.Session.Agreement

/-!
The suffix of a project. It stands behind the schema of every target, once, whichever way the schema
was found: written before the dot of a name, set for the action, or taken from one of the two
defaults. Nothing else that is compiled changes with it.
-/

namespace SqlPipeline

def ProjectConfig.withSuffix (config : ProjectConfig) (suffix : String) : ProjectConfig :=
  { config with schemaSuffix := some suffix }

/-- The object of the same name in the schema with a suffix. -/
def Target.suffixed (suffix : String) (target : Target) : Target :=
  { target with schema := target.schema ++ "_" ++ suffix }

/-- The action with its target moved; an action without a target has none to move. -/
def Action.retargeted (move : Target → Target) : Action → Action
  | .table record => .table { record with target := move record.target }
  | .operation record => .operation { record with target := record.target.map move }
  | .assertion record => .assertion { record with target := move record.target }
  | .test record => .test record

/-- The graph with every target moved. -/
def CompiledGraph.retargeted (move : Target → Target) (graph : CompiledGraph) : CompiledGraph :=
  { graph with
    tables := graph.tables.map fun record => { record with target := move record.target }
    operations := graph.operations.map fun record =>
      { record with target := record.target.map move }
    assertions := graph.assertions.map fun record =>
      { record with target := move record.target } }

/-! ## Targets -/

section Target
variable {config : ProjectConfig}

theorem target_withSuffix (plain : config.schemaSuffix = none) (suffix name : String)
    (schema : Option String) :
    (config.withSuffix suffix).target name schema =
      (config.target name schema).suffixed suffix := by
  unfold ProjectConfig.target
  split
  all_goals
    simp only [ProjectConfig.suffixed, ProjectConfig.withSuffix, plain]
    rfl

theorem targetIn_withSuffix (plain : config.schemaSuffix = none) (suffix : String)
    (declaration : Declaration) (schema : Option String) :
    declaration.targetIn (config.withSuffix suffix) schema =
      (declaration.targetIn config schema).suffixed suffix := by
  unfold Declaration.targetIn
  rw [target_withSuffix plain]
  rfl

-- An assertion takes its schema from the configuration before the suffix is put behind it.
theorem action_withSuffix (plain : config.schemaSuffix = none) (suffix : String)
    (declaration : Declaration) (name : ActionName) :
    declaration.action (config.withSuffix suffix) name =
      (declaration.action config name).retargeted (Target.suffixed suffix) := by
  have moved := targetIn_withSuffix plain suffix declaration
  unfold Declaration.action
  cases declaration.kind with
  | dataset flavour =>
    simp only [moved]
    rfl
  | operations =>
    simp only [moved]
    cases declaration.hasOutput <;> rfl
  | assertion =>
    simp only [moved]
    rfl
  | test => rfl

theorem Target.suffixed_ne (suffix : String) (target : Target) :
    target.suffixed suffix ≠ target := by
  intro same
  have lengths := congrArg (fun target => target.schema.length) same
  simp only [suffixed, String.length_append] at lengths
  have mark : "_".length = 1 := rfl
  omega

end Target

/-! ## Actions -/

namespace Action

theorem name_retargeted (move : Target → Target) (action : Action) :
    (action.retargeted move).name = action.name := by
  cases action <;> rfl

theorem target_retargeted (move : Target → Target) (action : Action) :
    (action.retargeted move).target = action.target.map move := by
  cases action <;> rfl

-- Patterns are expanded without a look at targets.
theorem retargeted_expanded (move : Target → Target) (known : List String) (action : Action) :
    (action.expanded known).retargeted move = (action.retargeted move).expanded known := by
  cases action <;> rfl

end Action

theorem CompiledGraph.registry_retargeted (move : Target → Target) (graph : CompiledGraph)
    (kind : ActionKind) :
    (graph.retargeted move).registry kind =
      (graph.registry kind).map (Action.retargeted move) := by
  cases kind <;>
    simp [registry, retargeted, Action.retargeted, Function.comp_def]

/-! ## Compiling -/

section Compile
variable {config : ProjectConfig}

-- Names carry no suffix, so a pattern matches what it matched before.
theorem mem_names_withSuffix (config : ProjectConfig) (suffix : String)
    (declarations : List Declaration) (name : String) :
    name ∈ (compile (config.withSuffix suffix) declarations).names ↔
      name ∈ (compile config declarations).names := by
  rw [mem_names_of_compile, mem_names_of_compile]

theorem mem_registry_withSuffix (plain : config.schemaSuffix = none) (suffix : String)
    (declarations : List Declaration) (kind : ActionKind) (action : Action) :
    action ∈ (compile (config.withSuffix suffix) declarations).registry kind ↔
      action ∈ ((compile config declarations).registry kind).map
        (Action.retargeted (Target.suffixed suffix)) := by
  have moved : ∀ (declaration : Declaration) (name : ActionName),
      (declaration.action (config.withSuffix suffix) name).expanded
          (compile (config.withSuffix suffix) declarations).names =
        ((declaration.action config name).expanded
          (compile config declarations).names).retargeted (Target.suffixed suffix) := by
    intro declaration name
    rw [action_withSuffix plain, Action.retargeted_expanded,
      Action.expanded_congr (mem_names_withSuffix config suffix declarations)]
  rw [mem_registry_iff, List.mem_map]
  simp only [mem_registry_iff, moved]
  constructor
  · rintro ⟨declaration, found, same⟩
    let original := (declaration.action config action.name).expanded
      (compile config declarations).names
    have named : original.name = action.name := by
      rw [Action.name_expanded, Session.action_name]
    exact ⟨original, ⟨declaration, named.symm ▸ found, by rw [named]⟩, same.symm⟩
  · rintro ⟨original, ⟨declaration, found, same⟩, rfl⟩
    rw [Action.name_retargeted]
    exact ⟨declaration, found, congrArg (Action.retargeted _) same⟩

theorem registry_withSuffix (plain : config.schemaSuffix = none) (suffix : String)
    (declarations : List Declaration) (kind : ActionKind) :
    (compile (config.withSuffix suffix) declarations).registry kind =
      ((compile config declarations).registry kind).map
        (Action.retargeted (Target.suffixed suffix)) := by
  have sorted : CompiledGraph.InOrder ((compile config declarations).registry kind) :=
    pairwise_registry config declarations kind
  apply CompiledGraph.InOrder.eq_of_mem_iff (pairwise_registry _ declarations kind)
    (sorted.map (Action.name_retargeted _))
  exact mem_registry_withSuffix plain suffix declarations kind

theorem graph_withSuffix (plain : config.schemaSuffix = none) (suffix : String)
    (declarations : List Declaration) :
    compile (config.withSuffix suffix) declarations =
      { (compile config declarations).retargeted (Target.suffixed suffix) with
        config := config.withSuffix suffix } := by
  let moved : CompiledGraph :=
    { (compile config declarations).retargeted (Target.suffixed suffix) with
      config := config.withSuffix suffix }
  have errors : (compile (config.withSuffix suffix) declarations).errors = moved.errors := by
    calc (compile (config.withSuffix suffix) declarations).errors
        = (compile config declarations).errors := by rw [errors_of_compile, errors_of_compile]
      _ = moved.errors := rfl
  have registry : ∀ kind, (compile (config.withSuffix suffix) declarations).registry kind =
      moved.registry kind := by
    intro kind
    rw [registry_withSuffix plain, ← CompiledGraph.registry_retargeted]
    cases kind <;> rfl
  have same : compile (config.withSuffix suffix) declarations = { moved with errors := _ } :=
    CompiledGraph.eq_of_registry (config_of_compile _ declarations) registry
  rw [same, errors]

-- Two actions of one kind and one name are one action before and after.
theorem target_of_withSuffix (plain : config.schemaSuffix = none) (suffix : String)
    (declarations : List Declaration) {kind : ActionKind} {action moved : Action}
    (member : action ∈ (compile config declarations).registry kind)
    (listed : moved ∈ (compile (config.withSuffix suffix) declarations).registry kind)
    (named : moved.name = action.name) :
    moved.target = action.target.map (Target.suffixed suffix) := by
  rw [registry_withSuffix plain] at listed
  obtain ⟨original, found, rfl⟩ := List.mem_map.mp listed
  have sorted : CompiledGraph.InOrder ((compile config declarations).registry kind) :=
    pairwise_registry config declarations kind
  rw [Action.name_retargeted] at named
  rw [Action.target_retargeted, sorted.eq_of_name found member (by rw [named])]

end Compile

theorem compile_withSuffix {config : ProjectConfig} (plain : config.schemaSuffix = none)
    (suffix : String) (declarations : List Declaration) :
    compile (config.withSuffix suffix) declarations =
      { (compile config declarations).retargeted (Target.suffixed suffix) with
        config := config.withSuffix suffix } ∧
    ∀ kind, ∀ action ∈ (compile config declarations).registry kind,
      ∀ moved ∈ (compile (config.withSuffix suffix) declarations).registry kind,
        moved.name = action.name →
          moved.target = action.target.map (Target.suffixed suffix) ∧
            ∀ target, moved.target = some target → action.target ≠ some target := by
  refine ⟨graph_withSuffix plain suffix declarations, ?_⟩
  intro kind action member moved listed named
  have moves := target_of_withSuffix plain suffix declarations member listed named
  refine ⟨moves, fun target writes kept => ?_⟩
  rw [moves, kept] at writes
  exact Target.suffixed_ne suffix target (Option.some.inj writes)

-- Every way in which a schema is found: the name, the action, and both defaults.
def branch : List Declaration :=
  [.single (.dataset .table) "raw.orders.v2" "select 1 as amount",
    { Declaration.single (.dataset .incremental) "orders" "select 2 as amount" with
      schema := some "sales"
      database := some "live"
      dependencies := ["raw.*.*"] },
    { Declaration.single .operations "counted" "create table counted (amount int)" with
      hasOutput := true },
    .single .operations "vacuumed" "vacuum",
    .single .assertion "orders_positive" "select * from orders where amount < 0",
    { Declaration.single .assertion "orders_known" "select * from orders" with
      schema := some "checks" }]

theorem branch_withSuffix :
    ProjectConfig.standard.schemaSuffix = none ∧
      ((compile (ProjectConfig.standard.withSuffix "dev") branch).actions.filterMap Action.target).map
          Target.path =
        ["live.sales_dev.orders", "raw_dev.orders.v2", "weft_dev.counted", "checks_dev.orders_known",
          "weft_assertions_dev.orders_positive"] ∧
      compile (ProjectConfig.standard.withSuffix "dev") branch =
        { (compile .standard branch).retargeted (Target.suffixed "dev") with
          config := ProjectConfig.standard.withSuffix "dev" } :=
  ⟨rfl, by decide, (compile_withSuffix rfl "dev" branch).1⟩

end SqlPipeline
