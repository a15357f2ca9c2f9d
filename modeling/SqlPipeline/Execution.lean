import SqlPipeline.Action
import SqlPipeline.Config
import SqlPipeline.Task

/-!
The graph a run works through: the chosen actions with their tasks, dependencies first, and the
statements that prepare schemas before any of them.
-/

namespace SqlPipeline

/-- Where a node stands. The last four are final. -/
inductive NodeStatus where
  | pending
  | running
  | succeeded
  | failed
  | cancelled
  /-- Something it depends on did not succeed. -/
  | skipped
  deriving DecidableEq

namespace NodeStatus

def name : NodeStatus → String
  | .pending => "pending"
  | .running => "running"
  | .succeeded => "succeeded"
  | .failed => "failed"
  | .cancelled => "cancelled"
  | .skipped => "skipped"

def all : List NodeStatus := [.pending, .running, .succeeded, .failed, .cancelled, .skipped]

end NodeStatus

structure ExecutionNode where
  name : ActionName
  kind : ActionKind
  target : Option Target
  /-- Those dependencies that are nodes as well. -/
  dependencies : List String
  tags : List String
  tasks : List Task
  status : NodeStatus
  deriving DecidableEq

structure ExecutionGraph where
  config : ProjectConfig
  runConfig : RunConfig
  warehouse : Warehouse
  setup : List Task
  nodes : List ExecutionNode
  deriving DecidableEq

/-- The first node of a name. -/
def ExecutionGraph.node? (graph : ExecutionGraph) (name : String) : Option ExecutionNode :=
  graph.nodes.find? fun node => node.name.text == name

/-- What became of one task; an error stands exactly where it failed. -/
structure TaskResult where
  task : Task
  ok : Bool
  error : Option String
  deriving DecidableEq

namespace TaskResult

def passed (task : Task) : TaskResult := ⟨task, true, none⟩

def failed (task : Task) (error : String) : TaskResult := ⟨task, false, some error⟩

end TaskResult
end SqlPipeline
