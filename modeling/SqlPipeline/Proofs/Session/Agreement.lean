import SqlPipeline.Proofs.Pattern.Expand
import SqlPipeline.Proofs.Session.Settings

/-!
When two compilations agree. A registry is in the order of its names, so the records it holds settle
it; the registries settle a graph up to its errors; and what the patterns of an action expand to is
settled by the sets of names that it lists and that are known, in whatever order they come.
-/

namespace SqlPipeline

/-! ## Sets of names -/

theorem Pattern.expand_congr {listed others known names : List String}
    (sameListed : ∀ name, name ∈ listed ↔ name ∈ others)
    (sameKnown : ∀ name, name ∈ known ↔ name ∈ names) :
    expand listed known = expand others names := by
  apply (pairwise_expand listed known).eq_of_mem_iff (pairwise_expand others names)
  intro name
  simp only [mem_expand, sameListed, sameKnown]

theorem Action.expanded_congr {known names : List String}
    (same : ∀ name, name ∈ known ↔ name ∈ names) (action : Action) :
    action.expanded known = action.expanded names := by
  have alike : ∀ listed, Pattern.expand listed known = Pattern.expand listed names :=
    fun listed => Pattern.expand_congr (fun _ => Iff.rfl) same
  cases action with
  | table record => simp only [expanded, alike]
  | operation record => simp only [expanded, alike]
  | assertion record => simp only [expanded, alike]
  | test record => rfl

/-! ## Registries -/

namespace CompiledGraph

/-- The records of a registry come in the order of their names. -/
def InOrder (actions : List Action) : Prop :=
  actions.Pairwise fun earlier later => earlier.name.text < later.name.text

theorem InOrder.eq_of_mem_iff {actions others : List Action} (sorted : InOrder actions)
    (ordered : InOrder others) (same : ∀ action, action ∈ actions ↔ action ∈ others) :
    actions = others := by
  have asymm : Std.Antisymm fun earlier later : Action => earlier.name.text < later.name.text :=
    ⟨fun _ _ before after => absurd after (String.lt_asymm before)⟩
  have irrefl : Std.Irrefl fun earlier later : Action => earlier.name.text < later.name.text :=
    ⟨fun action => String.lt_irrefl action.name.text⟩
  exact List.Pairwise.eq_of_mem_iff sorted ordered same

theorem InOrder.map {actions : List Action} (sorted : InOrder actions) {change : Action → Action}
    (keeps : ∀ action, (change action).name = action.name) : InOrder (actions.map change) := by
  unfold InOrder
  rw [List.pairwise_map]
  simp only [keeps]
  exact sorted

theorem InOrder.eq_of_name {actions : List Action} (sorted : InOrder actions)
    {action other : Action} (member : action ∈ actions) (listed : other ∈ actions)
    (same : action.name.text = other.name.text) : action = other := by
  have distinct : (actions.map fun action => action.name.text).Nodup := by
    apply List.pairwise_map.mpr
    apply sorted.imp
    intro earlier later before
    exact ne_of_lt before
  exact List.inj_on_of_nodup_map distinct member listed same

theorem mem_names_iff {graph : CompiledGraph} {name : String} :
    name ∈ graph.names ↔
      ∃ kind, kind ≠ .test ∧ ∃ action ∈ graph.registry kind, action.name.text = name := by
  simp only [names, executable, List.mem_map, List.mem_append]
  constructor
  · rintro ⟨action, (table | operation) | assertion, same⟩
    · exact ⟨.table, by decide, action, List.mem_map.mpr table, same⟩
    · exact ⟨.operation, by decide, action, List.mem_map.mpr operation, same⟩
    · exact ⟨.assertion, by decide, action, List.mem_map.mpr assertion, same⟩
  · rintro ⟨kind, executable, action, member, same⟩
    refine ⟨action, ?_, same⟩
    cases kind with
    | table => exact Or.inl (Or.inl (List.mem_map.mp member))
    | operation => exact Or.inl (Or.inr (List.mem_map.mp member))
    | assertion => exact Or.inr (List.mem_map.mp member)
    | test => exact absurd rfl executable

theorem eq_of_registry {graph other : CompiledGraph} (config : graph.config = other.config)
    (registry : ∀ kind, graph.registry kind = other.registry kind) :
    graph = { other with errors := graph.errors } := by
  have tables := List.map_injective_iff.mpr (fun _ _ => Action.table.inj) (registry .table)
  have operations :=
    List.map_injective_iff.mpr (fun _ _ => Action.operation.inj) (registry .operation)
  have assertions :=
    List.map_injective_iff.mpr (fun _ _ => Action.assertion.inj) (registry .assertion)
  have tests := List.map_injective_iff.mpr (fun _ _ => Action.test.inj) (registry .test)
  cases graph
  cases other
  subst config tables operations assertions tests
  rfl

end CompiledGraph

/-! ## Compiling -/

theorem config_of_compile (config : ProjectConfig) (declarations : List Declaration) :
    (compile config declarations).config = config := by
  obtain ⟨session, keeps, compiled⟩ := keeps_of_compile config declarations
  rw [compiled]
  exact keeps.config

-- What can be depended upon is known from the declarations alone.
theorem mem_names_of_compile {config : ProjectConfig} {declarations : List Declaration}
    {name : String} :
    name ∈ (compile config declarations).names ↔
      name ≠ "" ∧ ∃ declaration ∈ declarations,
        declaration.kind.actionKind ≠ .test ∧ declaration.name = name := by
  simp only [CompiledGraph.mem_names_iff, exists_registered_iff]
  constructor
  · rintro ⟨kind, executable, named, declaration, listed, rfl, same⟩
    exact ⟨named, declaration, listed, executable, same⟩
  · rintro ⟨named, declaration, listed, executable, same⟩
    exact ⟨_, executable, named, declaration, listed, rfl, same⟩

end SqlPipeline
