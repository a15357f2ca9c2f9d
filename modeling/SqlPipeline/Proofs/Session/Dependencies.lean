import SqlPipeline.Proofs.Session.Agreement

/-!
What an action depends on. Its list is expanded against the names of a project that can be depended
upon, and only the set of these counts: which of the entries they match, not who declared them, in
which order, or what the tests are called. Entries that match nothing leave no trace.
-/

namespace SqlPipeline

/-! ## Expanding -/

namespace Pattern

theorem isWildcard_iff {pattern : String} : isWildcard pattern = true ↔ '*' ∈ pattern.toList :=
  List.contains_iff_mem

section Idle
variable {pattern : String} {listed known : List String}

-- A pattern that is a known name matches itself, so it is not one that matches nothing.
theorem notMem_expand_of_idle (wild : isWildcard pattern = true)
    (idle : ∀ name ∈ known, covers pattern name = false) : pattern ∉ expand listed known := by
  rw [mem_expand]
  rintro (⟨_, plain⟩ | ⟨inside, _⟩)
  · rw [wild] at plain
    cases plain
  · have matched := covers_refl pattern
    rw [idle pattern inside] at matched
    cases matched

theorem expand_of_idle (wild : isWildcard pattern = true)
    (idle : ∀ name ∈ known, covers pattern name = false) :
    expand (listed.filter (· != pattern)) known = expand listed known := by
  apply (pairwise_expand _ known).eq_of_mem_iff (pairwise_expand listed known)
  intro name
  simp only [mem_expand, List.mem_filter, bne_iff_ne]
  constructor
  · rintro (⟨⟨member, _⟩, plain⟩ | ⟨inside, other, ⟨member, _⟩, matched⟩)
    · exact Or.inl ⟨member, plain⟩
    · exact Or.inr ⟨inside, other, member, matched⟩
  · rintro (⟨member, plain⟩ | ⟨inside, other, member, star, covered⟩)
    · refine Or.inl ⟨⟨member, ?_⟩, plain⟩
      rintro rfl
      rw [wild] at plain
      cases plain
    · refine Or.inr ⟨inside, other, ⟨member, ?_⟩, star, covered⟩
      rintro rfl
      rw [idle name inside] at covered
      cases covered

end Idle
end Pattern

theorem Action.kind_expanded (known : List String) (action : Action) :
    (action.expanded known).kind = action.kind := by
  cases action <;> rfl

/-! ## Declarations -/

namespace Declaration

/-- Whether actions can depend on what is declared. -/
def isDependable (declaration : Declaration) : Bool :=
  declaration.kind.actionKind != .test && declaration.name != ""

/-- The names that can be depended upon. -/
def dependable (declarations : List Declaration) : List String :=
  (declarations.filter isDependable).map Declaration.name

section Dependable
variable {declarations others : List Declaration} {name : String}

theorem mem_dependable_iff :
    name ∈ dependable declarations ↔
      name ≠ "" ∧ ∃ declaration ∈ declarations,
        declaration.kind.actionKind ≠ .test ∧ declaration.name = name := by
  simp only [dependable, List.mem_map, List.mem_filter, isDependable, Bool.and_eq_true, bne_iff_ne]
  constructor
  · rintro ⟨declaration, ⟨listed, kind, named⟩, rfl⟩
    exact ⟨named, declaration, listed, kind, rfl⟩
  · rintro ⟨named, declaration, listed, kind, rfl⟩
    exact ⟨declaration, ⟨listed, kind, named⟩, rfl⟩

theorem mem_dependable_of_perm (perm : others.Perm declarations) :
    name ∈ dependable others ↔ name ∈ dependable declarations :=
  ((perm.filter isDependable).map Declaration.name).mem_iff

/-- The declarations without the tests. -/
def untested (declarations : List Declaration) : List Declaration :=
  declarations.filter fun declaration => declaration.kind.actionKind != .test

theorem dependable_untested (declarations : List Declaration) :
    dependable (untested declarations) = dependable declarations := by
  rw [dependable, untested, List.filter_filter, dependable]
  congr 2
  funext declaration
  cases kind : declaration.kind.actionKind <;> simp [isDependable, kind]

theorem first?_untested {kind : ActionKind} (executable : kind ≠ .test) :
    first? (untested declarations) kind name = first? declarations kind name := by
  rw [first?, untested, List.find?_filter, first?]
  congr 1
  funext declaration
  by_cases fits : declaration.kind.actionKind = kind
  · simp [fits, executable]
  · simp [fits]

theorem dependencies_expanded {declaration : Declaration}
    (executable : declaration.kind.actionKind ≠ .test) (config : ProjectConfig) (name : ActionName)
    (known : List String) :
    ((declaration.action config name).expanded known).dependencies =
      Pattern.expand declaration.dependencies known := by
  unfold action
  cases kind : declaration.kind with
  | dataset | operations | assertion => rfl
  | test =>
    rw [kind] at executable
    exact absurd rfl executable

end Dependable
end Declaration

/-! ## Compiling -/

section Compile
variable {config : ProjectConfig} {declarations : List Declaration} {action : Action}

theorem CompiledGraph.executable_eq (graph : CompiledGraph) :
    graph.executable = graph.registry .table ++ graph.registry .operation ++
      graph.registry .assertion := rfl

theorem CompiledGraph.mem_executable_iff {graph : CompiledGraph} :
    action ∈ graph.executable ↔ ∃ kind, kind ≠ .test ∧ action ∈ graph.registry kind := by
  rw [executable_eq, List.mem_append, List.mem_append]
  constructor
  · rintro ((table | operation) | assertion)
    · exact ⟨.table, by decide, table⟩
    · exact ⟨.operation, by decide, operation⟩
    · exact ⟨.assertion, by decide, assertion⟩
  · rintro ⟨kind, executable, member⟩
    cases kind with
    | table => exact Or.inl (Or.inl member)
    | operation => exact Or.inl (Or.inr member)
    | assertion => exact Or.inr member
    | test => exact absurd rfl executable

theorem mem_dependable_iff_names {name : String} :
    name ∈ (compile config declarations).names ↔ name ∈ Declaration.dependable declarations := by
  rw [mem_names_of_compile, Declaration.mem_dependable_iff]

theorem dependencies_of_compile (member : action ∈ (compile config declarations).executable) :
    ∃ declaration,
      Declaration.first? declarations action.kind action.name.text = some declaration ∧
        action.dependencies =
          Pattern.expand declaration.dependencies (Declaration.dependable declarations) := by
  obtain ⟨kind, executable, listed⟩ := CompiledGraph.mem_executable_iff.mp member
  obtain ⟨declaration, found, same⟩ := mem_registry_iff.mp listed
  obtain ⟨_, rfl, _⟩ := Declaration.of_first? found
  have kind : action.kind = declaration.kind.actionKind := by
    rw [same, Action.kind_expanded, Declaration.kind_action]
  refine ⟨declaration, kind ▸ found, ?_⟩
  rw [same, Declaration.dependencies_expanded executable]
  exact Pattern.expand_congr (fun _ => Iff.rfl) fun _ => mem_dependable_iff_names

theorem registry_untested {kind : ActionKind} (executable : kind ≠ .test) :
    (compile config (Declaration.untested declarations)).registry kind =
      (compile config declarations).registry kind := by
  apply CompiledGraph.InOrder.eq_of_mem_iff (pairwise_registry config _ kind)
    (pairwise_registry config declarations kind)
  intro action
  have known : ∀ name, name ∈ (compile config (Declaration.untested declarations)).names ↔
      name ∈ (compile config declarations).names := by
    intro name
    rw [mem_dependable_iff_names, Declaration.dependable_untested, mem_dependable_iff_names]
  simp only [mem_registry_iff, Declaration.first?_untested executable,
    Action.expanded_congr known]

theorem executable_untested (config : ProjectConfig) (declarations : List Declaration) :
    (compile config (Declaration.untested declarations)).executable =
      (compile config declarations).executable := by
  simp only [CompiledGraph.executable_eq]
  rw [registry_untested (by decide), registry_untested (by decide), registry_untested (by decide)]

-- The declared list is the one of the declaration that the action was made from.
theorem dependencies_congr {settings : ProjectConfig} {others : List Declaration} {other : Action}
    (same : ∀ name, name ∈ Declaration.dependable others ↔
      name ∈ Declaration.dependable declarations)
    (member : action ∈ (compile config declarations).executable)
    (listed : other ∈ (compile settings others).executable)
    (alike : (Declaration.first? others other.kind other.name.text).map Declaration.dependencies =
      (Declaration.first? declarations action.kind action.name.text).map
        Declaration.dependencies) :
    other.dependencies = action.dependencies := by
  obtain ⟨first, found, expanded⟩ := dependencies_of_compile member
  obtain ⟨second, foundOther, expandedOther⟩ := dependencies_of_compile listed
  rw [found, foundOther, Option.map_some, Option.map_some, Option.some.injEq] at alike
  rw [expanded, expandedOther, alike]
  exact Pattern.expand_congr (fun _ => Iff.rfl) same

end Compile

theorem expanded_dependencies :
    (∀ listed known : List String,
      (Pattern.expand listed known).Pairwise
        (fun earlier later => Text.bytes earlier < Text.bytes later) ∧
      (∀ name, name ∈ Pattern.expand listed known ↔
        name ∈ listed ∧ '*' ∉ name.toList ∨
          name ∈ known ∧ ∃ pattern ∈ listed, '*' ∈ pattern.toList ∧
            Pattern.covers pattern name = true) ∧
      ∀ pattern, '*' ∈ pattern.toList → (∀ name ∈ known, Pattern.covers pattern name = false) →
        pattern ∉ Pattern.expand listed known ∧
          Pattern.expand (listed.filter (· != pattern)) known = Pattern.expand listed known) ∧
    ∀ (config : ProjectConfig) (declarations : List Declaration),
      (∀ action ∈ (compile config declarations).executable, ∃ declaration,
        Declaration.first? declarations action.kind action.name.text = some declaration ∧
          action.dependencies =
            Pattern.expand declaration.dependencies (Declaration.dependable declarations)) ∧
      (∀ name, name ∈ Declaration.dependable declarations ↔
        ∃ action ∈ (compile config declarations).executable, action.name.text = name) ∧
      (compile config (Declaration.untested declarations)).executable =
        (compile config declarations).executable ∧
      (∀ others : List Declaration, others.Perm declarations → ∀ name,
        name ∈ Declaration.dependable others ↔ name ∈ Declaration.dependable declarations) ∧
      ∀ (settings : ProjectConfig) (others : List Declaration),
        (∀ name, name ∈ Declaration.dependable others ↔
          name ∈ Declaration.dependable declarations) →
        ∀ action ∈ (compile config declarations).executable,
        ∀ other ∈ (compile settings others).executable,
          (Declaration.first? others other.kind other.name.text).map Declaration.dependencies =
            (Declaration.first? declarations action.kind action.name.text).map
              Declaration.dependencies →
          other.dependencies = action.dependencies := by
  refine ⟨fun listed known => ⟨?_, fun name => ?_, fun pattern star idle => ?_⟩,
    fun config declarations => ⟨?_, ?_, executable_untested config declarations, ?_, ?_⟩⟩
  · exact (Pattern.pairwise_expand listed known).imp Text.bytes_lt_iff.mpr
  · simp only [Pattern.mem_expand, ← Bool.not_eq_true, Pattern.isWildcard_iff]
  · have wild := Pattern.isWildcard_iff.mpr star
    exact ⟨Pattern.notMem_expand_of_idle wild idle, Pattern.expand_of_idle wild idle⟩
  · exact fun action => dependencies_of_compile
  · exact fun name => mem_dependable_iff_names.symm.trans List.mem_map
  · exact fun others perm name => Declaration.mem_dependable_of_perm perm
  · exact fun settings others same action member other => dependencies_congr same member

/-- A report on whatever there is of fruit and in the barn, and a test among the fruit. -/
def orchard : List Declaration :=
  [{ Declaration.single (.dataset .view) "fruit.report" "select 1" with
      dependencies := ["fruit.*", "fruit.picked", "cellar", "barn.*"] },
    Declaration.single .test "fruit.taste" "select 2",
    Declaration.single .operations "fruit.picked" "run pick"]

-- Read backwards, and without anything in the barn, the report depends on the same.
theorem orchard_expanded :
    (∀ name, name ∈ Declaration.dependable orchard.reverse ↔
      name ∈ Declaration.dependable orchard) ∧
    (∀ name ∈ Declaration.dependable orchard, Pattern.covers "barn.*" name = false) ∧
    "barn.*" ∉ Pattern.expand ["fruit.*", "fruit.picked", "cellar", "barn.*"]
      (Declaration.dependable orchard) ∧
    (compile .standard orchard).tables.map Table.dependencies =
      [["cellar", "fruit.picked", "fruit.report"]] ∧
    ∀ action ∈ (compile .standard orchard).executable,
    ∀ other ∈ (compile .standard orchard.reverse).executable,
      (Declaration.first? orchard.reverse other.kind other.name.text).map
          Declaration.dependencies =
        (Declaration.first? orchard action.kind action.name.text).map Declaration.dependencies →
      other.dependencies = action.dependencies := by
  obtain ⟨expands, compiles⟩ := expanded_dependencies
  obtain ⟨_, _, _, arranged, settled⟩ := compiles .standard orchard
  have same := arranged orchard.reverse (List.reverse_perm orchard)
  have idle : ∀ name ∈ Declaration.dependable orchard, Pattern.covers "barn.*" name = false := by
    decide
  exact ⟨same, idle, ((expands _ _).2.2 "barn.*" (by decide) idle).1, by decide,
    settled .standard orchard.reverse same⟩

end SqlPipeline
