import SqlPipeline.Graph
import SqlPipeline.Record.Action
import SqlPipeline.Record.Config

/-!
Compiled graphs as documents.
-/

namespace SqlPipeline

open Document

variable {δ : Type} [Document δ]

namespace CompileError

def fieldNames : List String := ["file_name", "action_name", "message"]

def ofFields? (fields : List (String × δ)) : Option CompileError := do
  let fileName ← required? text? "file_name" fields
  let actionName ← optional? text? "action_name" fields
  let message ← required? text? "message" fields
  return { fileName, actionName, message }

def ofDocument? (document : δ) : Option CompileError :=
  (fields? .passed fieldNames document).bind ofFields?

def toJson (error : CompileError) : Json :=
  .record
    ([("file_name", .text error.fileName)]
      ++ Json.given "action_name" .text error.actionName
      ++ [("message", .text error.message)])

/-- The errors of a graph are the only field of a record of their own. -/
def listOfFields? (fields : List (String × δ)) : Option (List CompileError) :=
  defaulted? [] (list? ofDocument?) "compilation_errors" fields

def listOfDocument? (document : δ) : Option (List CompileError) :=
  (fields? .passed ["compilation_errors"] document).bind listOfFields?

def listToJson (errors : List CompileError) : Json :=
  .record [("compilation_errors", .list (errors.map toJson))]

end CompileError

namespace CompiledGraph

def fieldNames : List String :=
  ["project_config", "tables", "operations", "assertions", "tests", "graph_errors"]

def ofFields? (fields : List (String × δ)) : Option CompiledGraph := do
  let config ← required? ProjectConfig.ofDocument? "project_config" fields
  let tables ← defaulted? [] (list? Table.ofDocument?) "tables" fields
  let operations ← defaulted? [] (list? Operation.ofDocument?) "operations" fields
  let assertions ← defaulted? [] (list? Assertion.ofDocument?) "assertions" fields
  let tests ← defaulted? [] (list? Test.ofDocument?) "tests" fields
  let errors ← defaulted? [] CompileError.listOfDocument? "graph_errors" fields
  return { config, tables, operations, assertions, tests, errors }

def ofDocument? (document : δ) : Option CompiledGraph :=
  (fields? .passed fieldNames document).bind ofFields?

def toJson (graph : CompiledGraph) : Json :=
  .record
    [("project_config", graph.config.toJson),
      ("tables", .list (graph.tables.map Table.toJson)),
      ("operations", .list (graph.operations.map Operation.toJson)),
      ("assertions", .list (graph.assertions.map Assertion.toJson)),
      ("tests", .list (graph.tests.map Test.toJson)),
      ("graph_errors", CompileError.listToJson graph.errors)]

end CompiledGraph
end SqlPipeline
