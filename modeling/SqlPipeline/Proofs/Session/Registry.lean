import Mathlib.Data.List.Induction
import SqlPipeline.Proofs.Session
import SqlPipeline.Proofs.Sorted
import SqlPipeline.Proofs.Text.Bytes

/-!
What a session holds after any list of declarations. In each registry a name belongs to the first
declaration that asked for it, whatever rules were broken and whatever the other registries hold.
What is noted about a declaration depends on itself and on the names declared before it.
-/

namespace SqlPipeline

/-! ## Registries -/

/-- What declarations of a kind are registered as. -/
def DeclarationKind.actionKind : DeclarationKind → ActionKind
  | .dataset _ => .table
  | .operations => .operation
  | .assertion => .assertion
  | .test => .test

/-- The records of one kind in order. -/
def CompiledGraph.registry (graph : CompiledGraph) : ActionKind → List Action
  | .table => graph.tables.map .table
  | .operation => graph.operations.map .operation
  | .assertion => graph.assertions.map .assertion
  | .test => graph.tests.map .test

/-- The action with its patterns replaced by those of the known names that they match. -/
def Action.expanded (known : List String) : Action → Action
  | .table record =>
      .table { record with dependencies := Pattern.expand record.dependencies known }
  | .operation record =>
      .operation { record with dependencies := Pattern.expand record.dependencies known }
  | .assertion record =>
      .assertion { record with dependencies := Pattern.expand record.dependencies known }
  | .test record => .test record

/-- The first declaration of a name among those for one registry. -/
def Declaration.first? (declarations : List Declaration) (kind : ActionKind) (name : String) :
    Option Declaration :=
  declarations.find? fun declaration =>
    declaration.kind.actionKind = kind ∧ declaration.name = name

namespace Action

theorem name_expanded (known : List String) (action : Action) :
    (action.expanded known).name = action.name := by
  cases action <;> rfl

end Action

namespace CompiledGraph

theorem mem_actions_iff {graph : CompiledGraph} {action : Action} :
    action ∈ graph.actions ↔ ∃ kind, action ∈ graph.registry kind := by
  constructor
  · intro member
    simp only [actions, executable, List.mem_append] at member
    obtain ((table | operation) | assertion) | test := member
    · exact ⟨.table, table⟩
    · exact ⟨.operation, operation⟩
    · exact ⟨.assertion, assertion⟩
    · exact ⟨.test, test⟩
  · rintro ⟨kind, member⟩
    simp only [actions, executable, List.mem_append]
    cases kind <;> simp only [registry] at member <;> simp [member]

theorem registry_expanded (graph : CompiledGraph) (kind : ActionKind) :
    graph.expanded.registry kind = (graph.registry kind).map (Action.expanded graph.names) := by
  cases kind <;> simp [registry, expanded, Action.expanded, Function.comp_def]

end CompiledGraph

theorem Declaration.kind_action (declaration : Declaration) (config : ProjectConfig)
    (name : ActionName) :
    (declaration.action config name).kind = declaration.kind.actionKind := by
  unfold Declaration.action
  cases declaration.kind <;> rfl

namespace Declaration

theorem of_first? {declarations : List Declaration} {kind : ActionKind} {name : String}
    {declaration : Declaration} (found : first? declarations kind name = some declaration) :
    declaration ∈ declarations ∧ declaration.kind.actionKind = kind ∧ declaration.name = name :=
  ⟨List.mem_of_find?_eq_some found, by simpa using List.find?_some found⟩

theorem exists_first? {declarations : List Declaration} {declaration : Declaration}
    (member : declaration ∈ declarations) :
    ∃ earliest, first? declarations declaration.kind.actionKind declaration.name =
      some earliest := by
  rw [← Option.isSome_iff_exists, first?, List.find?_isSome]
  exact ⟨declaration, member, by simp⟩

theorem first?_concat (declarations : List Declaration) (last : Declaration) (kind : ActionKind)
    (name : String) :
    first? (declarations ++ [last]) kind name =
      (first? declarations kind name).or
        (if last.kind.actionKind = kind ∧ last.name = name then some last else none) := by
  rw [first?, List.find?_append, List.find?_singleton, first?]
  simp only [decide_eq_true_eq]

end Declaration

/-! ## What is noted -/

/-- The rules that a declaration breaks, given the names declared before it. -/
def Declaration.broken (declaration : Declaration) (earlier : List String) : List Violation :=
  declaration.violations ++
    if declaration.name ∈ earlier then [.duplicateName declaration.name] else []

/-- A broken rule as it is noted. -/
def Declaration.complaint (declaration : Declaration) (violation : Violation) : CompileError :=
  ⟨declaration.fileName, some declaration.name, violation.message⟩

/-- What is noted about a declaration, given the names declared before it. -/
def Declaration.complaints (declaration : Declaration) (earlier : List String) :
    List CompileError :=
  if declaration.name = "" then [⟨declaration.fileName, none, Violation.emptyName.message⟩]
  else (declaration.broken earlier).map declaration.complaint

/-- Every declaration of a list with the names declared before it. -/
def Declaration.withEarlier (declarations : List Declaration) :
    List (Declaration × List String) :=
  declarations.mapIdx fun index declaration =>
    (declaration, (declarations.take index).map Declaration.name)

namespace Declaration

theorem withEarlier_concat (declarations : List Declaration) (last : Declaration) :
    withEarlier (declarations ++ [last]) =
      withEarlier declarations ++ [(last, declarations.map Declaration.name)] := by
  rw [withEarlier, List.mapIdx_concat, List.take_left', withEarlier]
  · congr 1
    rw [List.mapIdx_eq_mapIdx_iff]
    intro index inside
    rw [List.take_append_of_le_length (Nat.le_of_lt inside)]
  · rfl

theorem map_fst_withEarlier (declarations : List Declaration) :
    (withEarlier declarations).map Prod.fst = declarations := by
  apply List.ext_getElem <;> simp [withEarlier]

theorem mem_of_withEarlier {declarations : List Declaration}
    {entry : Declaration × List String} (member : entry ∈ withEarlier declarations) :
    entry.1 ∈ declarations := by
  have listed := List.mem_map_of_mem (f := Prod.fst) member
  rw [map_fst_withEarlier] at listed
  exact listed

theorem exists_withEarlier {declarations : List Declaration} {declaration : Declaration}
    (listed : declaration ∈ declarations) :
    ∃ earlier, (declaration, earlier) ∈ withEarlier declarations := by
  rw [← map_fst_withEarlier declarations] at listed
  obtain ⟨⟨_, earlier⟩, member, rfl⟩ := List.mem_map.mp listed
  exact ⟨earlier, member⟩

theorem nodup_names_iff (declarations : List Declaration) :
    (declarations.map Declaration.name).Nodup ↔
      ∀ entry ∈ withEarlier declarations, entry.1.name ∉ entry.2 := by
  induction declarations using List.reverseRecOn with
  | nil => simp [withEarlier]
  | append_singleton front last ih =>
    rw [withEarlier_concat, List.map_append, List.forall_mem_append, ← ih]
    simp [List.nodup_append_comm, List.nodup_cons, and_comm]

theorem complaints_of_unnamed {declaration : Declaration} (unnamed : declaration.name = "")
    (earlier : List String) :
    declaration.complaints earlier =
      [⟨declaration.fileName, none, Violation.emptyName.message⟩] :=
  if_pos unnamed

theorem complaints_of_named {declaration : Declaration} (named : declaration.name ≠ "")
    (earlier : List String) :
    declaration.complaints earlier = (declaration.broken earlier).map declaration.complaint :=
  if_neg named

theorem complaints_eq_nil_iff {declaration : Declaration} {earlier : List String} :
    declaration.complaints earlier = [] ↔
      declaration.name ≠ "" ∧ declaration.violations = [] ∧ declaration.name ∉ earlier := by
  by_cases unnamed : declaration.name = ""
  · simp [complaints_of_unnamed unnamed, unnamed]
  · simp [complaints_of_named unnamed, unnamed, broken]

-- Only a declaration without a name is noted without one.
theorem unnamed_complaints (declaration : Declaration) (earlier : List String) :
    (declaration.complaints earlier).filter (fun error => error.actionName.isNone) =
      if declaration.name = "" then [⟨declaration.fileName, none, Violation.emptyName.message⟩]
      else [] := by
  by_cases unnamed : declaration.name = ""
  · rw [complaints_of_unnamed unnamed, if_pos unnamed]
    rfl
  · rw [complaints_of_named unnamed, if_neg unnamed, List.filter_eq_nil_iff]
    intro error noted
    obtain ⟨violation, _, rfl⟩ := List.mem_map.mp noted
    exact Bool.false_ne_true

-- What a rule picks out of all that is noted, where it picks at most one error a declaration.
theorem filter_complaints {picks : CompileError → Bool} {Broken : Declaration × List String → Prop}
    [DecidablePred Broken] {error : Declaration × List String → CompileError}
    (single : ∀ entry : Declaration × List String, (entry.1.complaints entry.2).filter picks =
      if Broken entry then [error entry] else [])
    (entries : List (Declaration × List String)) :
    (entries.flatMap fun entry => entry.1.complaints entry.2).filter picks =
      (entries.filter fun entry => Broken entry).map error := by
  induction entries with
  | nil => rfl
  | cons first rest ih =>
    rw [List.flatMap_cons, List.filter_append, ih, single, List.filter_cons]
    by_cases broken : Broken first <;> simp [broken]

end Declaration

/-! ## One declaration after the other -/

namespace Session

/-- What a session holds once some declarations were made. -/
structure Keeps (session : Session) (project : ProjectConfig) (declared : List Declaration) :
    Prop where
  config : session.config = project
  sorted : ∀ kind, (session.graph.registry kind).Pairwise fun earlier later =>
    earlier.name.text < later.name.text
  mem_iff : ∀ kind action, action ∈ session.graph.registry kind ↔
    ∃ declaration, Declaration.first? declared kind action.name.text = some declaration ∧
      action = declaration.action project action.name
  errors : session.errors =
    (Declaration.withEarlier declared).flatMap fun entry => entry.1.complaints entry.2

section Keeps
variable {session : Session} {project : ProjectConfig} {declared : List Declaration}

theorem Keeps.taken_iff (keeps : Keeps session project declared) {kind : ActionKind}
    {name : ActionName} :
    name.text ∈ (session.graph.registry kind).map (fun action => action.name.text) ↔
      ∃ declaration, Declaration.first? declared kind name.text = some declaration := by
  constructor
  · intro taken
    obtain ⟨action, member, same⟩ := List.mem_map.mp taken
    obtain ⟨declaration, found, _⟩ := (keeps.mem_iff kind action).mp member
    exact ⟨declaration, same ▸ found⟩
  · rintro ⟨declaration, found⟩
    have named : (declaration.action project name).name = name := action_name ..
    refine List.mem_map.mpr ⟨declaration.action project name, ?_, by rw [named]⟩
    exact (keeps.mem_iff kind _).mpr ⟨declaration, by rw [named, found], by rw [named]⟩

theorem registry_register (session : Session) (action : Action) (kind : ActionKind) :
    (session.register action).graph.registry kind =
      if action.kind = kind then
        Sorted.enter (fun action => action.name.text) action (session.graph.registry kind)
      else session.graph.registry kind := by
  cases action <;> cases kind <;> first | rfl | exact Sorted.map_enter fun _ => rfl

theorem config_register (session : Session) (action : Action) :
    (session.register action).config = session.config := by
  cases action <;> rfl

-- Registering is entering into the one registry that the declaration is meant for.
theorem registry_declare {declaration : Declaration} {name : ActionName}
    (named : ActionName.ofText? declaration.name = some name) (kind : ActionKind) :
    (session.declare declaration).1.graph.registry kind =
      if declaration.kind.actionKind = kind then
        Sorted.enter (fun action => action.name.text) (declaration.action session.config name)
          (session.graph.registry kind)
      else session.graph.registry kind := by
  have kept : ∀ errors, ({ session with errors } : Session).graph.registry kind =
      session.graph.registry kind := by
    intro errors
    cases kind <;> rfl
  simp only [declare, named, registry_register, Declaration.kind_action, kept]

theorem registry_declare_unnamed {declaration : Declaration} (unnamed : declaration.name = "")
    (kind : ActionKind) :
    (session.declare declaration).1.graph.registry kind = session.graph.registry kind := by
  rw [declare, (ActionName.ofText?_eq_none_iff _).mpr unnamed]
  cases kind <;> rfl

theorem config_declare (session : Session) (declaration : Declaration) :
    (session.declare declaration).1.config = session.config := by
  unfold declare
  split
  · rfl
  · exact config_register ..

theorem errors_declare {declaration : Declaration} {earlier : List String}
    (known : declaration.name ∈ session.names ↔
      declaration.name ≠ "" ∧ declaration.name ∈ earlier) :
    (session.declare declaration).1.errors =
      session.errors ++ declaration.complaints earlier := by
  unfold declare
  cases named : ActionName.ofText? declaration.name with
  | none =>
    rw [Declaration.complaints_of_unnamed ((ActionName.ofText?_eq_none_iff _).mp named)]
    rfl
  | some name =>
    have text := text_of_ofText? named
    have nonempty : declaration.name ≠ "" := text ▸ name.nonempty
    have taken : session.contains declaration.name = true ↔ declaration.name ∈ earlier := by
      rw [contains_iff, known]
      exact and_iff_right nonempty
    rw [Declaration.complaints_of_named nonempty]
    simp only [errors_register, errorsOf, text, taken]
    rfl

theorem Keeps.mem_names_iff (keeps : Keeps session project declared) (name : String) :
    name ∈ session.names ↔ name ≠ "" ∧ name ∈ declared.map Declaration.name := by
  rw [names, List.mem_map, List.mem_map]
  constructor
  · rintro ⟨action, member, rfl⟩
    obtain ⟨kind, member⟩ := CompiledGraph.mem_actions_iff.mp member
    obtain ⟨declaration, found, _⟩ := (keeps.mem_iff kind action).mp member
    obtain ⟨listed, _, same⟩ := Declaration.of_first? found
    exact ⟨action.name.nonempty, declaration, listed, same⟩
  · rintro ⟨nonempty, declaration, listed, rfl⟩
    have found := Declaration.exists_first? listed
    let name : ActionName := ⟨declaration.name, nonempty⟩
    have taken := keeps.taken_iff.mpr (show ∃ earliest, Declaration.first? declared
      declaration.kind.actionKind name.text = some earliest from found)
    obtain ⟨action, member, same⟩ := List.mem_map.mp taken
    exact ⟨action, CompiledGraph.mem_actions_iff.mpr ⟨_, member⟩, same⟩

theorem Keeps.mem_iff_declare (keeps : Keeps session project declared) (last : Declaration)
    (kind : ActionKind) (action : Action) :
    action ∈ (session.declare last).1.graph.registry kind ↔
      ∃ declaration,
        Declaration.first? (declared ++ [last]) kind action.name.text = some declaration ∧
          action = declaration.action project action.name := by
  rw [Declaration.first?_concat]
  by_cases fits : last.kind.actionKind = kind ∧ last.name = action.name.text
  · obtain ⟨rfl, same⟩ := fits
    have named : ActionName.ofText? last.name = some action.name :=
      same ▸ ActionName.ofText?_text action.name
    have text : (last.action project action.name).name = action.name := action_name ..
    rw [registry_declare named, if_pos rfl, Sorted.mem_enter_iff (keeps.sorted _), keeps.mem_iff,
      keeps.config, text, keeps.taken_iff, if_pos ⟨rfl, same⟩]
    cases found : Declaration.first? declared last.kind.actionKind action.name.text <;> simp
  · rw [if_neg fits, Option.or_none, ← keeps.mem_iff]
    cases named : ActionName.ofText? last.name with
    | none => rw [registry_declare_unnamed ((ActionName.ofText?_eq_none_iff _).mp named)]
    | some name =>
      rw [registry_declare named]
      split
      · rename_i meant
        have other : action ≠ last.action session.config name := by
          rintro rfl
          exact fits ⟨meant, by rw [action_name, text_of_ofText? named]⟩
        rw [Sorted.mem_enter_iff (keeps.sorted kind)]
        simp [other]
      · rfl

theorem Keeps.declare (keeps : Keeps session project declared) (last : Declaration) :
    Keeps (session.declare last).1 project (declared ++ [last]) where
  config := by rw [config_declare, keeps.config]
  sorted := by
    intro kind
    cases named : ActionName.ofText? last.name with
    | none =>
      rw [registry_declare_unnamed ((ActionName.ofText?_eq_none_iff _).mp named)]
      exact keeps.sorted kind
    | some name =>
      rw [registry_declare named]
      split
      · exact Sorted.pairwise_enter (keeps.sorted kind)
      · exact keeps.sorted kind
  mem_iff := keeps.mem_iff_declare last
  errors := by
    rw [errors_declare (keeps.mem_names_iff last.name), Declaration.withEarlier_concat,
      List.flatMap_append, keeps.errors, List.flatMap_singleton]

theorem keeps_start (project : ProjectConfig) : Keeps (start project) project [] where
  config := rfl
  sorted := by
    intro kind
    cases kind <;> exact List.Pairwise.nil
  mem_iff := by
    intro kind action
    have empty : (start project).graph.registry kind = [] := by cases kind <;> rfl
    simp [empty, Declaration.first?]
  errors := rfl

theorem Keeps.declareAll (keeps : Keeps session project declared)
    (declarations : List Declaration) :
    Keeps (declarations.foldl (fun session declaration => (session.declare declaration).1) session)
      project (declared ++ declarations) := by
  induction declarations generalizing session declared with
  | nil =>
    rw [List.append_nil]
    exact keeps
  | cons first rest ih =>
    have later := ih (keeps.declare first)
    rw [List.append_assoc] at later
    exact later

end Keeps
end Session

/-! ## Compiling -/

section Compile
variable {config : ProjectConfig} {declarations : List Declaration}

theorem keeps_of_compile (config : ProjectConfig) (declarations : List Declaration) :
    ∃ session : Session, session.Keeps config declarations ∧
      compile config declarations = session.graph.expanded :=
  ⟨_, (Session.keeps_start config).declareAll declarations, rfl⟩

theorem errors_of_compile (config : ProjectConfig) (declarations : List Declaration) :
    (compile config declarations).errors =
      (Declaration.withEarlier declarations).flatMap fun entry => entry.1.complaints entry.2 := by
  obtain ⟨session, keeps, compiled⟩ := keeps_of_compile config declarations
  rw [compiled]
  exact keeps.errors

theorem errors_eq_nil_iff :
    (compile config declarations).errors = [] ↔
      (declarations.map Declaration.name).Nodup ∧
        ∀ declaration ∈ declarations, declaration.name ≠ "" ∧ declaration.violations = [] := by
  rw [errors_of_compile, List.flatMap_eq_nil_iff, Declaration.nodup_names_iff]
  simp only [Declaration.complaints_eq_nil_iff]
  constructor
  · intro clean
    refine ⟨fun entry member => (clean entry member).2.2, fun declaration listed => ?_⟩
    obtain ⟨earlier, member⟩ := Declaration.exists_withEarlier listed
    exact ⟨(clean _ member).1, (clean _ member).2.1⟩
  · rintro ⟨fresh, sound⟩ entry member
    obtain ⟨named, proper⟩ := sound entry.1 (Declaration.mem_of_withEarlier member)
    exact ⟨named, proper, fresh entry member⟩

theorem mem_registry_iff {kind : ActionKind} {action : Action} :
    action ∈ (compile config declarations).registry kind ↔
      ∃ declaration,
        Declaration.first? declarations kind action.name.text = some declaration ∧
          action = (declaration.action config action.name).expanded
            (compile config declarations).names := by
  obtain ⟨session, keeps, compiled⟩ := keeps_of_compile config declarations
  rw [compiled, CompiledGraph.registry_expanded, CompiledGraph.names_expanded, List.mem_map]
  constructor
  · rintro ⟨plain, member, rfl⟩
    obtain ⟨declaration, found, same⟩ := (keeps.mem_iff kind plain).mp member
    rw [Action.name_expanded]
    exact ⟨declaration, found, by rw [← same]⟩
  · rintro ⟨declaration, found, same⟩
    have named := Session.action_name declaration config action.name
    refine ⟨declaration.action config action.name, ?_, same.symm⟩
    exact (keeps.mem_iff kind _).mpr ⟨declaration, by rw [named, found], by rw [named]⟩

theorem pairwise_registry (config : ProjectConfig) (declarations : List Declaration)
    (kind : ActionKind) :
    ((compile config declarations).registry kind).Pairwise fun earlier later =>
      earlier.name.text < later.name.text := by
  obtain ⟨session, keeps, compiled⟩ := keeps_of_compile config declarations
  rw [compiled, CompiledGraph.registry_expanded, List.pairwise_map]
  simp only [Action.name_expanded]
  exact keeps.sorted kind

theorem exists_registered_iff {kind : ActionKind} {name : String} :
    (∃ action ∈ (compile config declarations).registry kind, action.name.text = name) ↔
      name ≠ "" ∧ ∃ declaration ∈ declarations,
        declaration.kind.actionKind = kind ∧ declaration.name = name := by
  constructor
  · rintro ⟨action, member, rfl⟩
    obtain ⟨declaration, found, _⟩ := mem_registry_iff.mp member
    obtain ⟨listed, fits, same⟩ := Declaration.of_first? found
    exact ⟨action.name.nonempty, declaration, listed, fits, same⟩
  · rintro ⟨nonempty, declaration, listed, rfl, rfl⟩
    obtain ⟨earliest, found⟩ := Declaration.exists_first? listed
    let record := (earliest.action config ⟨declaration.name, nonempty⟩).expanded
      (compile config declarations).names
    have named : record.name = ⟨declaration.name, nonempty⟩ := by
      rw [Action.name_expanded, Session.action_name]
    refine ⟨record, mem_registry_iff.mpr ⟨earliest, ?_, ?_⟩, by rw [named]⟩
    · rw [named]
      exact found
    · rw [named]

end Compile

theorem first_declared_wins (config : ProjectConfig) (declarations : List Declaration) :
    (∀ kind, ((compile config declarations).registry kind).Pairwise fun earlier later =>
      Text.bytes earlier.name.text < Text.bytes later.name.text) ∧
    (∀ kind name,
      (∃ action ∈ (compile config declarations).registry kind, action.name.text = name) ↔
        name ≠ "" ∧ ∃ declaration ∈ declarations,
          declaration.kind.actionKind = kind ∧ declaration.name = name) ∧
    (∀ kind, ∀ action ∈ (compile config declarations).registry kind, ∃ declaration,
      Declaration.first? declarations kind action.name.text = some declaration ∧
        action = (declaration.action config action.name).expanded
          (compile config declarations).names) ∧
    (compile config declarations).errors.filter (fun error => error.actionName.isNone) =
      (declarations.filter fun declaration => declaration.name = "").map fun declaration =>
        ⟨declaration.fileName, none, Violation.emptyName.message⟩ := by
  refine ⟨fun kind => ?_, fun _ _ => exists_registered_iff, ?_, ?_⟩
  · exact (pairwise_registry config declarations kind).imp Text.bytes_lt_iff.mpr
  · intro kind action member
    exact mem_registry_iff.mp member
  · have picked := Declaration.filter_complaints
      (fun entry => Declaration.unnamed_complaints entry.1 entry.2)
      (Declaration.withEarlier declarations)
    rw [errors_of_compile, picked]
    conv_rhs => rw [← Declaration.map_fst_withEarlier declarations]
    rw [List.filter_map, List.map_map]
    rfl

end SqlPipeline
