import SqlPipeline.Action
import SqlPipeline.Config
import SqlPipeline.Pattern

/-!
The compiled graph: the actions of a project by kind, and what is wrong with its declarations.
Tables, operations and assertions can be run and depended upon; tests can not.
-/

namespace SqlPipeline

/-- A rule that a declaration breaks. It does not stop the compilation. -/
structure CompileError where
  fileName : String
  actionName : Option String
  message : String
  deriving DecidableEq

def CompileError.text (error : CompileError) : String := error.fileName ++ ": " ++ error.message

structure CompiledGraph where
  config : ProjectConfig
  tables : List Table
  operations : List Operation
  assertions : List Assertion
  tests : List Test
  errors : List CompileError
  deriving DecidableEq

namespace CompiledGraph

def hasErrors (graph : CompiledGraph) : Bool := graph.errors != []

/-- What can be run and depended upon, in order of kind. -/
def executable (graph : CompiledGraph) : List Action :=
  graph.tables.map .table ++ graph.operations.map .operation ++ graph.assertions.map .assertion

def actions (graph : CompiledGraph) : List Action := graph.executable ++ graph.tests.map .test

/-- The first executable action of a name. -/
def find? (graph : CompiledGraph) (name : String) : Option Action :=
  graph.executable.find? fun action => action.name.text == name

/-- What a dependency can name. -/
def names (graph : CompiledGraph) : List String :=
  graph.executable.map fun action => action.name.text

/-- Every dependency pattern replaced by the names it matches, which are those of the executable
actions. -/
def expanded (graph : CompiledGraph) : CompiledGraph :=
  let known := graph.names
  { graph with
    tables := graph.tables.map fun record =>
      { record with dependencies := Pattern.expand record.dependencies known }
    operations := graph.operations.map fun record =>
      { record with dependencies := Pattern.expand record.dependencies known }
    assertions := graph.assertions.map fun record =>
      { record with dependencies := Pattern.expand record.dependencies known } }

-- Dependencies are not part of a name, so the graph keeps its names.
theorem names_expanded (graph : CompiledGraph) : graph.expanded.names = graph.names := by
  simp [names, executable, expanded, Action.name, Function.comp_def]

end CompiledGraph
end SqlPipeline
