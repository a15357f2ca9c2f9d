import SqlPipeline.Declaration
import SqlPipeline.Graph
import SqlPipeline.Warehouse.Reference

/-!
Compilation. A session takes declarations one at a time and keeps a registry for each kind of
action, sorted by name. Within a registry the first declaration of a name stands. Nothing stops a
session: broken rules are noted, and the declaration is registered all the same unless it has no
name.
-/

namespace SqlPipeline

structure Session where
  config : ProjectConfig
  tables : List Table
  operations : List Operation
  assertions : List Assertion
  tests : List Test
  errors : List CompileError
  deriving DecidableEq

/-- An action that was registered. -/
structure Registered where
  name : ActionName
  kind : ActionKind
  deriving DecidableEq

namespace Session

def start (config : ProjectConfig) : Session := ⟨config, [], [], [], [], []⟩

/-- Whether any registry knows a name. -/
def contains (session : Session) (name : String) : Bool :=
  session.tables.any (fun record => record.name.text == name)
    || session.operations.any (fun record => record.name.text == name)
    || session.assertions.any (fun record => record.name.text == name)
    || session.tests.any (fun record => record.name.text == name)

def note (session : Session) (error : CompileError) : Session :=
  { session with errors := session.errors ++ [error] }

end Session

/-! ## Targets -/

/-- The text before the first dot and the text behind it. -/
def splitAtDot (name : String) : Option (String × String) :=
  match name.toList.dropWhile (· != '.') with
  | [] => none
  | _ :: rest => some (String.ofList (name.toList.takeWhile (· != '.')), String.ofList rest)

/-- The target of a name: a schema before the first dot goes before the one given, and that before
the default. The suffix of the project stands behind every schema. -/
def ProjectConfig.target (config : ProjectConfig) (name : String) (schema : Option String) :
    Target :=
  match splitAtDot name with
  | some (explicit, object) => Target.inSchema (config.suffixed explicit) object
  | none => Target.inSchema (config.suffixed (schema.getD config.defaultSchema)) name

namespace Declaration

def databaseIn (declaration : Declaration) (config : ProjectConfig) : Option String :=
  declaration.database <|> config.defaultDatabase

def targetIn (declaration : Declaration) (config : ProjectConfig) (schema : Option String) :
    Target :=
  (config.target declaration.name schema).withDatabase (declaration.databaseIn config)

/-- The action a declaration becomes under a name. -/
def action (declaration : Declaration) (config : ProjectConfig) (name : ActionName) : Action :=
  match declaration.kind with
  | .dataset dataset =>
      .table
        { name
          target := declaration.targetIn config declaration.schema
          dataset
          query := declaration.query
          incrementalQuery := declaration.incrementalQuery
          rowFilter := declaration.rowFilter
          incrementalFilter := declaration.incrementalFilter
          preOps := declaration.preOps
          postOps := declaration.postOps
          dependencies := declaration.dependencies
          tags := declaration.tags
          disabled := declaration.disabled
          isProtected := declaration.isProtected
          redshift := declaration.redshift
          bigquery := declaration.bigquery
          fileName := declaration.fileName }
  | .operations =>
      .operation
        { name
          target :=
            if declaration.hasOutput then some (declaration.targetIn config declaration.schema)
            else none
          hasOutput := declaration.hasOutput
          queries := declaration.statements
          dependencies := declaration.dependencies
          tags := declaration.tags
          fileName := declaration.fileName }
  | .assertion =>
      .assertion
        { name
          target :=
            declaration.targetIn config (some (declaration.schema.getD config.assertionSchema))
          query := declaration.query
          dependencies := declaration.dependencies
          tags := declaration.tags
          fileName := declaration.fileName }
  | .test =>
      .test
        { name
          dataset := declaration.dataset.getD ""
          query := declaration.query
          inputs := declaration.inputs
          fileName := declaration.fileName }

end Declaration

namespace Session

/-! ## Declaring -/

/-- Enters an action into the registry of its kind. -/
def register (session : Session) : Action → Session
  | .table record =>
      { session with tables := Sorted.enter (·.name.text) record session.tables }
  | .operation record =>
      { session with operations := Sorted.enter (·.name.text) record session.operations }
  | .assertion record =>
      { session with assertions := Sorted.enter (·.name.text) record session.assertions }
  | .test record =>
      { session with tests := Sorted.enter (·.name.text) record session.tests }

/-- The errors of a declaration with a name: the rules it breaks, then a name that is taken. -/
def errorsOf (session : Session) (declaration : Declaration) (name : ActionName) :
    List CompileError :=
  let taken : List Violation :=
    if session.contains name.text then [.duplicateName name.text] else []
  (declaration.violations ++ taken).map fun violation =>
    ⟨declaration.fileName, some name.text, violation.message⟩

/-- Nothing is registered only where the declaration has no name. -/
def declare (session : Session) (declaration : Declaration) : Session × Option Registered :=
  match ActionName.ofText? declaration.name with
  | none => (session.note ⟨declaration.fileName, none, Violation.emptyName.message⟩, none)
  | some name =>
      let action := declaration.action session.config name
      let noted := { session with errors := session.errors ++ session.errorsOf declaration name }
      (noted.register action, some ⟨name, action.kind⟩)

/-! ## Referring to actions -/

/-- The target of a registered operation or assertion of a name. -/
def knownTarget? (session : Session) (name : String) : Option Target :=
  ((session.operations.find? fun record => record.name.text == name).bind Operation.target)
    <|> (session.assertions.find? fun record => record.name.text == name).map Assertion.target

/-- How another query refers to an action. An inline table is put in as a subquery; a name that is
not known yet is taken for a dataset with no settings of its own. -/
def resolve (session : Session) (name : String) : String :=
  let reference := session.config.warehouse.reference
  match session.tables.find? fun record => record.name.text == name with
  | some table =>
      if table.dataset = .inline then "(" ++ table.query ++ ")" else reference table.target
  | none =>
      reference ((session.knownTarget? name).getD (session.config.target name none))

/-! ## The graph -/

/-- The registries as they stand, dependencies unexpanded. -/
def graph (session : Session) : CompiledGraph where
  config := session.config
  tables := session.tables
  operations := session.operations
  assertions := session.assertions
  tests := session.tests
  errors := session.errors

def compile (session : Session) : CompiledGraph := session.graph.expanded

end Session

/-- Compiles a list of declarations. It never fails; what is wrong stands among the errors. -/
def compile (config : ProjectConfig) (declarations : List Declaration) : CompiledGraph :=
  (declarations.foldl (fun session declaration => (session.declare declaration).1)
    (Session.start config)).compile

end SqlPipeline
