import SqlPipeline.Proofs.Sorted
import SqlPipeline.Session

/-!
What a session without errors has registered: every declaration once, under its own name, and no
two under one name in whatever registries they stand.
-/

namespace SqlPipeline

namespace Session

/-- The names in all four registries. -/
def names (session : Session) : List String :=
  session.graph.actions.map fun action => action.name.text

theorem names_eq (session : Session) :
    session.names = session.tables.map (·.name.text) ++ session.operations.map (·.name.text) ++
      session.assertions.map (·.name.text) ++ session.tests.map (·.name.text) := by
  simp [names, graph, CompiledGraph.actions, CompiledGraph.executable, Action.name,
    Function.comp_def]

theorem contains_iff {session : Session} {name : String} :
    session.contains name = true ↔ name ∈ session.names := by
  simp only [contains, Bool.or_eq_true, List.any_eq_true, beq_iff_eq, names_eq, List.mem_append,
    List.mem_map]

theorem perm_register {session : Session} {action : Action}
    (free : action.name.text ∉ session.names) :
    (session.register action).names.Perm (action.name.text :: session.names) := by
  simp only [names_eq, List.mem_append, not_or] at free ⊢
  obtain ⟨⟨⟨tables, operations⟩, assertions⟩, tests⟩ := free
  cases action with
  | table record =>
    have entered := (Sorted.perm_enter tables).map (·.name.text)
    exact ((entered.append_right _).append_right _).append_right _
  | operation record =>
    have entered := (Sorted.perm_enter operations).map (·.name.text)
    have placed := (entered.append_left (session.tables.map (·.name.text))).trans List.perm_middle
    exact (placed.append_right _).append_right _
  | assertion record =>
    have entered := (Sorted.perm_enter assertions).map (·.name.text)
    exact ((entered.append_left _).trans List.perm_middle).append_right _
  | test record =>
    have entered := (Sorted.perm_enter tests).map (·.name.text)
    exact (entered.append_left _).trans List.perm_middle

/-! ## Declaring without errors -/

theorem errors_register (session : Session) (action : Action) :
    (session.register action).errors = session.errors := by
  cases action <;> rfl

theorem action_name (declaration : Declaration) (config : ProjectConfig) (name : ActionName) :
    (declaration.action config name).name = name := by
  unfold Declaration.action
  cases declaration.kind <;> rfl

theorem text_of_ofText? {text : String} {name : ActionName}
    (named : ActionName.ofText? text = some name) : name.text = text := by
  unfold ActionName.ofText? at named
  split at named
  · cases named
    rfl
  · cases named

theorem free_of_errorsOf {session : Session} {declaration : Declaration} {name : ActionName}
    (sound : session.errorsOf declaration name = []) : name.text ∉ session.names := by
  intro taken
  rw [← contains_iff] at taken
  simp [errorsOf, taken] at sound

theorem declare_of_sound {session : Session} {declaration : Declaration}
    (sound : (session.declare declaration).1.errors = []) :
    session.errors = [] ∧ declaration.name ∉ session.names ∧
      (session.declare declaration).1.names.Perm (declaration.name :: session.names) := by
  unfold declare at sound ⊢
  cases named : ActionName.ofText? declaration.name with
  | none =>
    rw [named] at sound
    exact absurd sound (by simp [note])
  | some name =>
    simp only [named, errors_register, List.append_eq_nil_iff] at sound ⊢
    obtain ⟨before, clean⟩ := sound
    have free := free_of_errorsOf clean
    have registered := @perm_register
      { session with errors := session.errors ++ session.errorsOf declaration name }
      (declaration.action session.config name)
    rw [action_name] at registered
    have entered := registered free
    rw [text_of_ofText? named] at free entered
    exact ⟨before, free, entered⟩

/-- Unless something is noted, the names are those declared so far, and no two are the same. -/
def Holds (session : Session) (declared : List String) : Prop :=
  session.errors = [] → session.names.Perm declared ∧ session.names.Nodup

theorem Holds.declare {session : Session} {declared : List String} (holds : Holds session declared)
    (declaration : Declaration) :
    Holds (session.declare declaration).1 (declaration.name :: declared) := by
  intro sound
  obtain ⟨before, free, entered⟩ := declare_of_sound sound
  obtain ⟨perm, once⟩ := holds before
  exact ⟨entered.trans (perm.cons _), entered.nodup_iff.mpr (List.nodup_cons.mpr ⟨free, once⟩)⟩

theorem Holds.declareAll {session : Session} {declared : List String}
    (holds : Holds session declared) (declarations : List Declaration) :
    Holds (declarations.foldl (fun session declaration => (session.declare declaration).1) session)
      ((declarations.map Declaration.name).reverse ++ declared) := by
  induction declarations generalizing session declared with
  | nil => exact holds
  | cons first rest ih =>
    rw [List.map_cons, List.reverse_cons, List.append_assoc]
    exact ih (holds.declare first)

end Session

theorem CompiledGraph.actionNames_expanded (graph : CompiledGraph) :
    (graph.expanded.actions.map fun action => action.name.text) =
      graph.actions.map fun action => action.name.text := by
  simp [actions, executable, expanded, Action.name, Function.comp_def]

theorem names_of_compile {config : ProjectConfig} {declarations : List Declaration}
    (sound : (compile config declarations).errors = []) :
    ((compile config declarations).actions.map fun action => action.name.text).Perm
        (declarations.map Declaration.name) ∧
      (compile config declarations).names.Nodup := by
  have start : (Session.start config).Holds [] := fun _ => ⟨.refl _, List.nodup_nil⟩
  obtain ⟨perm, once⟩ := start.declareAll declarations sound
  rw [List.append_nil] at perm
  have same := CompiledGraph.actionNames_expanded (declarations.foldl
    (fun session declaration => (session.declare declaration).1) (Session.start config)).graph
  constructor
  · exact same ▸ perm.trans (List.reverse_perm _)
  · have once : ((compile config declarations).actions.map fun action =>
        action.name.text).Nodup := same ▸ once
    rw [CompiledGraph.actions, List.map_append] at once
    exact (List.nodup_append.mp once).1

end SqlPipeline
