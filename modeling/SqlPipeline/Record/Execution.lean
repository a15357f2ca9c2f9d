import SqlPipeline.Record.Action
import SqlPipeline.Record.Config
import SqlPipeline.Report

/-!
Execution graphs and reports as documents.
-/

namespace SqlPipeline

open Document

variable {δ : Type} [Document δ]

def TaskKind.ofDocument? : δ → Option TaskKind := oneOf? TaskKind.name TaskKind.all

def TaskKind.toJson (kind : TaskKind) : Json := .text kind.name

def NodeStatus.ofDocument? : δ → Option NodeStatus := oneOf? NodeStatus.name NodeStatus.all

def NodeStatus.toJson (status : NodeStatus) : Json := .text status.name

def Timestamp.ofDocument? (document : δ) : Option Timestamp :=
  (text? document).bind Timestamp.read?

def Timestamp.toJson (stamp : Timestamp) : Json := .text stamp.write

namespace Task

def ofFields? (fields : List (String × δ)) : Option Task := do
  let kind ← required? TaskKind.ofDocument? "type" fields
  let statement ← required? text? "statement" fields
  return { kind, statement }

def ofDocument? (document : δ) : Option Task :=
  (fields? .passed ["type", "statement"] document).bind ofFields?

def toJson (task : Task) : Json :=
  .record [("type", task.kind.toJson), ("statement", .text task.statement)]

end Task

namespace ExecutionNode

def fieldNames : List String :=
  ["name", "action_type", "target", "dependencies", "tags", "tasks", "status"]

def ofFields? (fields : List (String × δ)) : Option ExecutionNode := do
  let name ← required? ActionName.ofDocument? "name" fields
  let kind ← required? ActionKind.ofDocument? "action_type" fields
  let target ← optional? Target.ofDocument? "target" fields
  let dependencies ← defaulted? [] texts? "dependencies" fields
  let tags ← defaulted? [] texts? "tags" fields
  let tasks ← required? (list? Task.ofDocument?) "tasks" fields
  let status ← defaulted? NodeStatus.pending NodeStatus.ofDocument? "status" fields
  return { name, kind, target, dependencies, tags, tasks, status }

def ofDocument? (document : δ) : Option ExecutionNode :=
  (fields? .passed fieldNames document).bind ofFields?

def toJson (node : ExecutionNode) : Json :=
  .record
    ([("name", node.name.toJson), ("action_type", node.kind.toJson)]
      ++ Json.given "target" Target.toJson node.target
      ++ [("dependencies", Json.texts node.dependencies)]
      ++ Json.filled "tags" node.tags
      ++ [("tasks", .list (node.tasks.map Task.toJson)), ("status", node.status.toJson)])

end ExecutionNode

namespace ExecutionGraph

def fieldNames : List String :=
  ["project_config", "run_config", "warehouse", "setup_tasks", "nodes"]

def ofFields? (fields : List (String × δ)) : Option ExecutionGraph := do
  let config ← required? ProjectConfig.ofDocument? "project_config" fields
  let runConfig ← required? RunConfig.ofDocument? "run_config" fields
  let warehouse ← required? Warehouse.ofDocument? "warehouse" fields
  let setup ← defaulted? [] (list? Task.ofDocument?) "setup_tasks" fields
  let nodes ← required? (list? ExecutionNode.ofDocument?) "nodes" fields
  return { config, runConfig, warehouse, setup, nodes }

def ofDocument? (document : δ) : Option ExecutionGraph :=
  (fields? .passed fieldNames document).bind ofFields?

def toJson (graph : ExecutionGraph) : Json :=
  .record
    [("project_config", graph.config.toJson), ("run_config", graph.runConfig.toJson),
      ("warehouse", graph.warehouse.toJson),
      ("setup_tasks", .list (graph.setup.map Task.toJson)),
      ("nodes", .list (graph.nodes.map ExecutionNode.toJson))]

end ExecutionGraph

namespace TaskResult

def ofFields? (fields : List (String × δ)) : Option TaskResult := do
  let task ← required? Task.ofDocument? "task" fields
  let ok ← required? flag? "ok" fields
  let error ← optional? text? "error" fields
  return { task, ok, error }

def ofDocument? (document : δ) : Option TaskResult :=
  (fields? .passed ["task", "ok", "error"] document).bind ofFields?

def toJson (result : TaskResult) : Json :=
  .record
    ([("task", result.task.toJson), ("ok", .bool result.ok)]
      ++ Json.given "error" .text result.error)

end TaskResult

namespace ExecutedNode

def fieldNames : List String := ["name", "status", "tasks", "started_at", "duration_ms", "error"]

def ofFields? (fields : List (String × δ)) : Option ExecutedNode := do
  let name ← required? ActionName.ofDocument? "name" fields
  let status ← required? NodeStatus.ofDocument? "status" fields
  let tasks ← defaulted? [] (list? TaskResult.ofDocument?) "tasks" fields
  let startedAt ← optional? Timestamp.ofDocument? "started_at" fields
  let durationMs ← defaulted? 0 natural? "duration_ms" fields
  let error ← optional? text? "error" fields
  return { name, status, tasks, startedAt, durationMs, error }

def ofDocument? (document : δ) : Option ExecutedNode :=
  (fields? .passed fieldNames document).bind ofFields?

def toJson (node : ExecutedNode) : Json :=
  .record
    ([("name", node.name.toJson), ("status", node.status.toJson),
        ("tasks", .list (node.tasks.map TaskResult.toJson))]
      ++ Json.given "started_at" Timestamp.toJson node.startedAt
      ++ [("duration_ms", .nat node.durationMs)]
      ++ Json.given "error" .text node.error)

end ExecutedNode

namespace RunSummary

def fieldNames : List String := ["total", "succeeded", "failed", "cancelled", "skipped"]

def ofFields? (fields : List (String × δ)) : Option RunSummary := do
  let total ← required? natural? "total" fields
  let succeeded ← required? natural? "succeeded" fields
  let failed ← required? natural? "failed" fields
  let cancelled ← required? natural? "cancelled" fields
  let skipped ← required? natural? "skipped" fields
  return { total, succeeded, failed, cancelled, skipped }

def ofDocument? (document : δ) : Option RunSummary :=
  (fields? .passed fieldNames document).bind ofFields?

def toJson (summary : RunSummary) : Json :=
  .record
    [("total", .nat summary.total), ("succeeded", .nat summary.succeeded),
      ("failed", .nat summary.failed), ("cancelled", .nat summary.cancelled),
      ("skipped", .nat summary.skipped)]

end RunSummary

namespace ExecutedGraph

def fieldNames : List String :=
  ["run_id", "ok", "cancelled", "fatal_error", "started_at", "ended_at", "setup_tasks", "nodes"]

def ofFields? (fields : List (String × δ)) : Option ExecutedGraph := do
  let runId ← required? text? "run_id" fields
  let ok ← required? flag? "ok" fields
  let cancelled ← required? flag? "cancelled" fields
  let fatalError ← optional? text? "fatal_error" fields
  let startedAt ← required? Timestamp.ofDocument? "started_at" fields
  let endedAt ← required? Timestamp.ofDocument? "ended_at" fields
  let setup ← defaulted? [] (list? TaskResult.ofDocument?) "setup_tasks" fields
  let nodes ← required? (list? ExecutedNode.ofDocument?) "nodes" fields
  return { runId, ok, cancelled, fatalError, startedAt, endedAt, setup, nodes }

def ofDocument? (document : δ) : Option ExecutedGraph :=
  (fields? .passed fieldNames document).bind ofFields?

def toJson (graph : ExecutedGraph) : Json :=
  .record
    ([("run_id", .text graph.runId), ("ok", .bool graph.ok), ("cancelled", .bool graph.cancelled)]
      ++ Json.given "fatal_error" .text graph.fatalError
      ++ [("started_at", graph.startedAt.toJson), ("ended_at", graph.endedAt.toJson),
        ("setup_tasks", .list (graph.setup.map TaskResult.toJson)),
        ("nodes", .list (graph.nodes.map ExecutedNode.toJson))])

end ExecutedGraph
end SqlPipeline
