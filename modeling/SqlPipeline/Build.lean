import SqlPipeline.Dag
import SqlPipeline.Database.Metadata
import SqlPipeline.Execution
import SqlPipeline.Graph
import SqlPipeline.Warehouse.Publish

/-!
Building the graph of a run. The chosen actions are put in an order in which dependencies come
first, and each gets its tasks; what a table needs depends on what exists at its target, so every
chosen table is looked up. Nothing is built from a graph with errors or with a cycle, even one that
the choice leaves out.
-/

namespace SqlPipeline

inductive BuildError where
  | compilation (errors : List CompileError)
  | runConfig
  | circularDependency (cycle : List String)
  | nodeNotFound (name : String)
  | lookup (target : Target) (error : DbError)
  | project (error : ProjectError)
  deriving DecidableEq

namespace BuildError

def ofProject : ProjectError → BuildError
  | .circularDependency cycle => .circularDependency cycle
  | .runConfigInvalid => .runConfig
  | error => .project error

def firstText (errors : List CompileError) : String :=
  (errors.head?.map CompileError.text).getD ""

def message : BuildError → String
  | .compilation errors =>
      "[X001] Compiled graph has " ++ toString errors.length ++ " compilation error(s); first: "
        ++ firstText errors
  | .runConfig => "[X002] Invalid run config: " ++ RunConfig.rule
  | .circularDependency cycle => "[X003] Circular dependency detected: " ++ cycleText cycle
  | .nodeNotFound name => "[X004] Selected node not found: " ++ name
  | .lookup target error => "[X005] Failed to describe " ++ target.path ++ ": " ++ error.message
  | .project error => (ProjectError.message? error).getD ""

end BuildError

/-- A dependency that names no action. -/
structure UnknownDependency where
  name : ActionName
  dependency : String
  deriving DecidableEq

def UnknownDependency.text (warning : UnknownDependency) : String :=
  warning.name.text ++ " depends on unknown action '" ++ warning.dependency ++ "', ignoring"

/-- A graph that is ready to run, and what was asked and noticed on the way. -/
structure Built where
  graph : ExecutionGraph
  lookups : List Target
  warnings : List UnknownDependency
  deriving DecidableEq

namespace CompiledGraph

/-- Dependencies by name. Where a name stands twice the last action of it counts. -/
def dependencyTable (graph : CompiledGraph) : List (String × List String) :=
  Sorted.entries (graph.executable.map fun action => (action.name.text, action.dependencies))

/-- Whether a name is that of an action that is not disabled. -/
def enabled (graph : CompiledGraph) (name : String) : Bool :=
  (graph.find? name).any fun action => !action.disabled

/-- The names a run configuration chooses, those of disabled actions included. -/
def chosen (graph : CompiledGraph) (run : RunConfig) (dag : Dag) : List String :=
  if run.nodes = [] then graph.names
  else
    let named := run.nodes.filter (fun name => !Pattern.isWildcard name)
      ++ Pattern.union (run.nodes.filter Pattern.isWildcard) graph.names
    if run.includeDependencies then named ++ named.flatMap dag.ancestors else named

/-- The names of the nodes of a run. A literal name has to be that of an action. -/
def selected (graph : CompiledGraph) (run : RunConfig) (dag : Dag) :
    Except BuildError (List String) :=
  match run.nodes.find? fun name => !Pattern.isWildcard name && !dag.contains name with
  | some missing => .error (.nodeNotFound missing)
  | none => .ok ((graph.chosen run dag).filter graph.enabled)

/-- The actions of the nodes, dependencies first. -/
def selectedActions (graph : CompiledGraph) (order selected : List String) : List Action :=
  (order.filter selected.contains).filterMap graph.find?

end CompiledGraph

namespace Action

/-- The statements of an action, given what exists at its target. -/
def tasks (action : Action) (warehouse : Warehouse) (run : RunConfig)
    (existing : Option Existing) : List Task :=
  match action with
  | .table record => warehouse.publish record run existing
  | .operation record => record.queries.map Task.plain
  | .assertion record => warehouse.assertion record
  | .test _ => []

/-- The target that has to be looked up before the action can be run. -/
def lookupTarget? : Action → Option Target
  | .table record => some record.target
  | _ => none

def existing (action : Action) (lookup : Lookup) : Except BuildError (Option Existing) :=
  match action.lookupTarget? with
  | none => .ok none
  | some target =>
      match lookup target with
      | .ok object => .ok object
      | .error error => .error (.lookup target error)

def node (action : Action) (warehouse : Warehouse) (run : RunConfig) (selected : List String)
    (lookup : Lookup) : Except BuildError ExecutionNode :=
  (action.existing lookup).map fun object =>
    { name := action.name
      kind := action.kind
      target := action.target
      dependencies := action.dependencies.filter selected.contains
      tags := action.tags
      tasks := action.tasks warehouse run object
      status := .pending }

/-- The dependencies that name no action at all. -/
def unknownDependencies (action : Action) (selected : List String) (dag : Dag) :
    List UnknownDependency :=
  (action.dependencies.filter fun dependency =>
    !selected.contains dependency && !dag.contains dependency).map fun dependency =>
      ⟨action.name, dependency⟩

end Action

/-! ## Schemas -/

/-- No database goes first, then by database and schema. -/
def schemaLt (left right : Option String × String) : Bool :=
  if left.1 = right.1 then left.2 < right.2 else Target.databaseLt left.1 right.1

def enterSchema (place : Option String × String) :
    List (Option String × String) → List (Option String × String)
  | [] => [place]
  | first :: rest =>
      if schemaLt place first then place :: first :: rest
      else if place = first then first :: rest
      else first :: enterSchema place rest

/-- The schemas that nodes write to, each once. -/
def schemasOf (nodes : List ExecutionNode) : List (Option String × String) :=
  ((nodes.filterMap ExecutionNode.target).map fun target => (target.database, target.schema)).foldr
    enterSchema []

def setupTasks (warehouse : Warehouse) (nodes : List ExecutionNode) : List Task :=
  (schemasOf nodes).map fun place => warehouse.createSchema place.2 place.1

/-! ## The graph -/

/-- Builds the graph of a run. -/
def build (graph : CompiledGraph) (run : RunConfig) (lookup : Lookup) :
    Except BuildError Built := do
  if graph.hasErrors then throw (.compilation graph.errors)
  if !run.valid then throw .runConfig
  let dag ← (Dag.build graph.dependencyTable).mapError BuildError.ofProject
  let selected ← graph.selected run dag
  let order ← dag.sorted.mapError BuildError.ofProject
  let actions := graph.selectedActions order selected
  let warehouse := graph.config.warehouse
  let nodes ← actions.mapM fun action => action.node warehouse run selected lookup
  return {
    graph :=
      { config := graph.config
        runConfig := run
        warehouse
        setup := setupTasks warehouse nodes
        nodes }
    lookups := actions.filterMap Action.lookupTarget?
    warnings := actions.flatMap fun action => action.unknownDependencies selected dag }

end SqlPipeline
