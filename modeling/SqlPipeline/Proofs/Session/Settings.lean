import SqlPipeline.Proofs.Session.Registry

/-!
What becomes of the settings of a declaration. Each kind of record has a place for some of them
only. The rules see to it that nothing else is set: what breaks none of them is kept whole by its
record, and what no record of its kind could keep is reported.
-/

namespace SqlPipeline

/-- What a declaration can set beside its name, its target, its tags and its dependencies. -/
structure Settings where
  flavour : Option Dataset
  statements : List String
  hasOutput : Bool
  disabled : Bool
  isProtected : Bool
  redshift : Option RedshiftLayout
  bigquery : Option BigQueryLayout
  rowFilter : Option String
  incrementalQuery : Option String
  incrementalFilter : Option String
  preOps : List String
  postOps : List String
  dataset : Option String
  inputs : List (String × String)
  deriving DecidableEq

def Declaration.settings (declaration : Declaration) : Settings where
  flavour := declaration.kind.dataset?
  statements := declaration.statements
  hasOutput := declaration.hasOutput
  disabled := declaration.disabled
  isProtected := declaration.isProtected
  redshift := declaration.redshift
  bigquery := declaration.bigquery
  rowFilter := declaration.rowFilter
  incrementalQuery := declaration.incrementalQuery
  incrementalFilter := declaration.incrementalFilter
  preOps := declaration.preOps
  postOps := declaration.postOps
  dataset := declaration.dataset
  inputs := declaration.inputs

/-- Statements and nothing else. -/
def Settings.ofStatements (statements : List String) : Settings where
  flavour := none
  statements := statements
  hasOutput := false
  disabled := false
  isProtected := false
  redshift := none
  bigquery := none
  rowFilter := none
  incrementalQuery := none
  incrementalFilter := none
  preOps := []
  postOps := []
  dataset := none
  inputs := []

/-- The settings that a record holds. What it has no place for is not set. -/
def Action.settings : Action → Settings
  | .table record =>
      { Settings.ofStatements [record.query] with
        flavour := some record.dataset
        disabled := record.disabled
        isProtected := record.isProtected
        redshift := record.redshift
        bigquery := record.bigquery
        rowFilter := record.rowFilter
        incrementalQuery := record.incrementalQuery
        incrementalFilter := record.incrementalFilter
        preOps := record.preOps
        postOps := record.postOps }
  | .operation record =>
      { Settings.ofStatements record.queries with hasOutput := record.hasOutput }
  | .assertion record => Settings.ofStatements [record.query]
  | .test record =>
      { Settings.ofStatements [record.query] with
        dataset := some record.dataset
        inputs := record.inputs }

theorem Action.settings_expanded (known : List String) (action : Action) :
    (action.expanded known).settings = action.settings := by
  cases action <;> rfl

namespace Declaration

/-! ## What the rules leave -/

/-- What a declaration that breaks no rule can have set. -/
structure Proper (declaration : Declaration) : Prop where
  statements : declaration.kind ≠ .operations → [declaration.query] = declaration.statements
  hasOutput : declaration.kind ≠ .operations → declaration.hasOutput = false
  isProtected : declaration.kind ≠ .dataset .incremental → declaration.isProtected = false
  incremental : declaration.kind ≠ .dataset .incremental →
    declaration.incrementalQuery = none ∧ declaration.incrementalFilter = none
  disabled : ¬declaration.kind.isDataset = true → declaration.disabled = false
  layout : ¬declaration.kind.isDataset = true →
    declaration.redshift = none ∧ declaration.bigquery = none
  rowFilter : ¬declaration.kind.isDataset = true → declaration.rowFilter = none
  around : ¬declaration.kind.isDataset = true →
    declaration.preOps = [] ∧ declaration.postOps = []
  dataset : declaration.dataset.isSome = true ↔ declaration.kind = .test
  inputs : declaration.kind ≠ .test → declaration.inputs = []

theorem query_of_single {declaration : Declaration} (some : declaration.statements.length ≠ 0)
    (one : ¬1 < declaration.statements.length) :
    [declaration.query] = declaration.statements := by
  have count : declaration.statements.length = 1 := by omega
  obtain ⟨statement, only⟩ := List.length_eq_one_iff.mp count
  simp [query, only]

theorem proper_of_violations {declaration : Declaration} (sound : declaration.violations = []) :
    declaration.Proper := by
  unfold violations at sound
  simp only [List.append_eq_nil_iff, ite_eq_right_iff, decide_eq_true_eq, List.cons_ne_nil,
    imp_false, not_and, not_not] at sound
  obtain ⟨⟨⟨⟨⟨⟨⟨⟨⟨⟨⟨⟨⟨⟨several, missing⟩, output⟩, -⟩, guarded⟩, incremental⟩, disabled⟩, redshift⟩,
    bigquery⟩, filter⟩, before⟩, after⟩, untested⟩, stray⟩, inputs⟩ := sound
  constructor
  case statements => exact fun other => query_of_single (mt missing other) (mt several other)
  case hasOutput => exact fun other => Bool.eq_false_iff.mpr (mt output other)
  case isProtected => exact fun other => Bool.eq_false_iff.mpr (mt guarded other)
  case incremental => simpa [not_imp_comm] using mt incremental
  case disabled => exact fun other => Bool.eq_false_iff.mpr (mt disabled other)
  case layout =>
    exact fun other => ⟨Option.not_isSome_iff_eq_none.mp (mt redshift other),
      Option.not_isSome_iff_eq_none.mp (mt bigquery other)⟩
  case rowFilter => exact fun other => Option.not_isSome_iff_eq_none.mp (mt filter other)
  case around => exact fun other => ⟨not_imp_comm.mp before other, not_imp_comm.mp after other⟩
  case dataset =>
    refine ⟨stray, fun isTest => ?_⟩
    cases under : declaration.dataset with
    | none => exact absurd isTest (untested (by rw [under]; rfl))
    | some name => rfl
  case inputs => exact not_imp_comm.mp inputs

section Proper
variable {declaration : Declaration}

theorem Proper.dataset_eq_none (proper : declaration.Proper) (other : declaration.kind ≠ .test) :
    declaration.dataset = none :=
  Option.not_isSome_iff_eq_none.mp (mt proper.dataset.mp other)

theorem Proper.settings_of_not_dataset (proper : declaration.Proper)
    (other : ¬declaration.kind.isDataset = true) :
    declaration.settings =
      { Settings.ofStatements declaration.statements with
        hasOutput := declaration.hasOutput
        dataset := declaration.dataset
        inputs := declaration.inputs } := by
  have standing : declaration.kind ≠ .dataset .incremental := fun same => other (by rw [same]; rfl)
  have none : declaration.kind.dataset? = none := Option.not_isSome_iff_eq_none.mp other
  simp only [settings, Settings.ofStatements, none, proper.isProtected standing,
    proper.incremental standing, proper.disabled other, proper.layout other,
    proper.rowFilter other, proper.around other]

-- The record of a declaration that breaks no rule has a place for all that is set.
theorem settings_action (proper : declaration.Proper) (config : ProjectConfig)
    (name : ActionName) :
    (declaration.action config name).settings = declaration.settings := by
  unfold action
  cases kind : declaration.kind with
  | dataset flavour =>
    have single : declaration.kind ≠ .operations := by rw [kind]; nofun
    have other : declaration.kind ≠ .test := by rw [kind]; nofun
    simp only [Action.settings, settings, Settings.ofStatements, kind, DeclarationKind.dataset?,
      proper.statements single, proper.hasOutput single, proper.dataset_eq_none other,
      proper.inputs other]
  | operations =>
    have other : declaration.kind ≠ .test := by rw [kind]; nofun
    rw [proper.settings_of_not_dataset (by rw [kind]; nofun), proper.dataset_eq_none other,
      proper.inputs other]
    rfl
  | assertion =>
    have single : declaration.kind ≠ .operations := by rw [kind]; nofun
    have other : declaration.kind ≠ .test := by rw [kind]; nofun
    rw [proper.settings_of_not_dataset (by rw [kind]; nofun), proper.hasOutput single,
      proper.dataset_eq_none other, proper.inputs other, ← proper.statements single]
    rfl
  | test =>
    have single : declaration.kind ≠ .operations := by rw [kind]; nofun
    obtain ⟨dataset, under⟩ := Option.isSome_iff_exists.mp (proper.dataset.mpr kind)
    rw [proper.settings_of_not_dataset (by rw [kind]; nofun), proper.hasOutput single, under,
      ← proper.statements single]
    rfl

end Proper
end Declaration

/-! ## Compiling -/

section Compile
variable {config : ProjectConfig} {declarations : List Declaration}

theorem errors_concat (config : ProjectConfig) (before : List Declaration) (last : Declaration) :
    (compile config (before ++ [last])).errors =
      (compile config before).errors ++ last.complaints (before.map Declaration.name) := by
  rw [errors_of_compile, Declaration.withEarlier_concat, List.flatMap_append, ← errors_of_compile,
    List.flatMap_singleton]

-- What comes later takes back nothing that was noted.
theorem errors_begin (config : ProjectConfig) (before after : List Declaration) :
    (compile config before).errors <+: (compile config (before ++ after)).errors := by
  induction after using List.reverseRecOn with
  | nil => simp only [List.append_nil, List.prefix_rfl]
  | append_singleton front last ih =>
    rw [← List.append_assoc, errors_concat]
    exact ih.trans (List.prefix_append _ _)

theorem first?_of_mem (distinct : (declarations.map Declaration.name).Nodup)
    {declaration : Declaration} (listed : declaration ∈ declarations) :
    Declaration.first? declarations declaration.kind.actionKind declaration.name =
      some declaration := by
  obtain ⟨earliest, found⟩ := Declaration.exists_first? listed
  obtain ⟨member, _, same⟩ := Declaration.of_first? found
  rw [found, List.inj_on_of_nodup_map distinct member listed same]

theorem exists_record_of_sound (sound : (compile config declarations).errors = [])
    {declaration : Declaration} (listed : declaration ∈ declarations) :
    ∃ action ∈ (compile config declarations).registry declaration.kind.actionKind,
      action.name.text = declaration.name ∧ action.settings = declaration.settings := by
  obtain ⟨distinct, proper⟩ := errors_eq_nil_iff.mp sound
  obtain ⟨named, clean⟩ := proper declaration listed
  let name : ActionName := ⟨declaration.name, named⟩
  let record := (declaration.action config name).expanded (compile config declarations).names
  have same : record.name = name := by rw [Action.name_expanded, Session.action_name]
  refine ⟨record, mem_registry_iff.mpr ⟨declaration, ?_, by rw [same]⟩, by rw [same], ?_⟩
  · rw [same]
    exact first?_of_mem distinct listed
  · rw [Action.settings_expanded]
    exact Declaration.settings_action (Declaration.proper_of_violations clean) config name

theorem filter_name_of_mem (sound : (compile config declarations).errors = []) {action : Action}
    (member : action ∈ (compile config declarations).actions) :
    ((compile config declarations).actions.filter fun other =>
      other.name.text = action.name.text) = [action] := by
  have distinct := (names_of_compile sound).1.nodup_iff.mpr (errors_eq_nil_iff.mp sound).1
  have one := List.count_eq_one_of_mem (List.Nodup.of_map _ distinct) member
  calc _ = (compile config declarations).actions.filter (· == action) := by
        refine List.filter_congr fun other listed => ?_
        have same : other.name.text = action.name.text ↔ other = action :=
          ⟨List.inj_on_of_nodup_map distinct listed member, fun same => by rw [same]⟩
        simp only [same, beq_eq_decide]
    _ = [action] := by rw [List.filter_beq, one, List.replicate_one]

-- What no record of its kind holds is reported while the declaration is taken in.
theorem complaints_of_unkept {declaration : Declaration} (named : declaration.name ≠ "")
    (unkept : ∀ action : Action, action.kind = declaration.kind.actionKind →
      action.settings ≠ declaration.settings) (earlier : List String) :
    declaration.complaints earlier ≠ [] := by
  rw [Ne, Declaration.complaints_eq_nil_iff]
  rintro ⟨_, clean, _⟩
  have proper := Declaration.proper_of_violations clean
  exact unkept _ (Declaration.kind_action declaration .standard ⟨_, named⟩)
    (Declaration.settings_action proper ..)

theorem Declaration.names_of_complaints {declaration : Declaration} (named : declaration.name ≠ "")
    {earlier : List String} {error : CompileError}
    (noted : error ∈ declaration.complaints earlier) :
    error.actionName = some declaration.name ∧ error.fileName = declaration.fileName := by
  rw [Declaration.complaints_of_named named] at noted
  obtain ⟨violation, _, rfl⟩ := List.mem_map.mp noted
  exact ⟨rfl, rfl⟩

end Compile

theorem settings_of_compile (config : ProjectConfig) (declarations : List Declaration) :
    ((compile config declarations).errors = [] →
      (compile config declarations).actions.length = declarations.length ∧
      ∀ declaration ∈ declarations,
        ∃ action ∈ (compile config declarations).registry declaration.kind.actionKind,
          ((compile config declarations).actions.filter fun other =>
            other.name.text = declaration.name) = [action] ∧
          action.settings = declaration.settings) ∧
    ∀ before declaration after, declarations = before ++ declaration :: after →
      declaration.name ≠ "" →
      (∀ action : Action, action.kind = declaration.kind.actionKind →
        action.settings ≠ declaration.settings) →
      ∃ noted, noted ≠ [] ∧
        (compile config before).errors ++ noted <+: (compile config declarations).errors ∧
        ∀ error ∈ noted,
          error.actionName = some declaration.name ∧ error.fileName = declaration.fileName := by
  constructor
  · intro sound
    refine ⟨?_, fun declaration listed => ?_⟩
    · simpa using (names_of_compile sound).1.length_eq
    · obtain ⟨action, member, same, kept⟩ := exists_record_of_sound sound listed
      refine ⟨action, member, ?_, kept⟩
      rw [← same]
      exact filter_name_of_mem sound (CompiledGraph.mem_actions_iff.mpr ⟨_, member⟩)
  · rintro before declaration after rfl named unkept
    refine ⟨declaration.complaints (before.map Declaration.name),
      complaints_of_unkept named unkept _, ?_, fun error => Declaration.names_of_complaints named⟩
    rw [← errors_concat, List.append_cons before declaration after]
    exact errors_begin ..

-- Every kind of record, each with settings of its own.
def depot : List Declaration :=
  [{ Declaration.single (.dataset .incremental) "stock" "select 1 as amount" with
      isProtected := true
      incrementalFilter := some "amount > 0"
      postOps := ["analyze"] },
    { Declaration.single .operations "counted" "create table counted (amount int)" with
      hasOutput := true },
    .single .assertion "stock.positive" "select * from stock where amount < 0",
    { Declaration.single .test "stock.test" "select 1 as amount" with
      dataset := some "stock"
      inputs := [("counted", "select 1 as amount")] }]

/-- An assertion has no inputs. -/
def strayInput : Declaration :=
  { Declaration.single .assertion "stock.known" "select * from stock where amount is null" with
    inputs := [("stock", "select null as amount")] }

theorem depot_settings :
    (compile .standard depot).errors = [] ∧
      (∀ declaration ∈ depot,
        ∃ action ∈ (compile .standard depot).registry declaration.kind.actionKind,
          action.settings = declaration.settings) ∧
      ∃ noted, noted ≠ [] ∧ noted <+: (compile .standard (depot ++ [strayInput])).errors ∧
        ∀ error ∈ noted,
          error.actionName = some "stock.known" ∧ error.fileName = "stock.known.sql" := by
  have sound : (compile .standard depot).errors = [] := by decide
  refine ⟨sound, fun declaration listed => ?_, ?_⟩
  · obtain ⟨action, member, _, kept⟩ :=
      ((settings_of_compile .standard depot).1 sound).2 declaration listed
    exact ⟨action, member, kept⟩
  · have unkept : ∀ action : Action, action.kind = .assertion →
        action.settings ≠ strayInput.settings := by
      rintro action isAssertion same
      cases action with
      | assertion record => cases congrArg Settings.inputs same
      | table record | operation record | test record => cases isAssertion
    have contributed := (settings_of_compile .standard (depot ++ [strayInput])).2
      depot strayInput [] rfl (by decide) unkept
    rw [sound] at contributed
    exact contributed

end SqlPipeline
