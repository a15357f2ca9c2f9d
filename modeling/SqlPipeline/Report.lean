import SqlPipeline.Execution
import SqlPipeline.Timestamp

/-!
The report of a finished run: what became of the setup statements and of every node, in graph
order, and how many nodes ended in which way.
-/

namespace SqlPipeline

structure ExecutedNode where
  name : ActionName
  status : NodeStatus
  /-- One result for every task that was attempted. -/
  tasks : List TaskResult
  /-- Absent for a node that never ran. -/
  startedAt : Option Timestamp
  durationMs : Nat
  error : Option String
  deriving DecidableEq

structure RunSummary where
  total : Nat
  succeeded : Nat
  failed : Nat
  cancelled : Nat
  skipped : Nat
  deriving DecidableEq

namespace RunSummary

def ofStatuses (statuses : List NodeStatus) : RunSummary where
  total := statuses.length
  succeeded := statuses.count .succeeded
  failed := statuses.count .failed
  cancelled := statuses.count .cancelled
  skipped := statuses.count .skipped

def text (summary : RunSummary) : String :=
  toString summary.total ++ " nodes: " ++ toString summary.succeeded ++ " succeeded, "
    ++ toString summary.failed ++ " failed, " ++ toString summary.cancelled ++ " cancelled, "
    ++ toString summary.skipped ++ " skipped"

end RunSummary

structure ExecutedGraph where
  runId : String
  ok : Bool
  cancelled : Bool
  /-- What made the warehouse unusable. -/
  fatalError : Option String
  startedAt : Timestamp
  endedAt : Timestamp
  setup : List TaskResult
  nodes : List ExecutedNode
  deriving DecidableEq

namespace ExecutedGraph

/-- The status of the first node of a name. -/
def status? (graph : ExecutedGraph) (name : String) : Option NodeStatus :=
  (graph.nodes.find? fun node => node.name.text == name).map ExecutedNode.status

def summary (graph : ExecutedGraph) : RunSummary :=
  RunSummary.ofStatuses (graph.nodes.map ExecutedNode.status)

def failedNodes (graph : ExecutedGraph) : List ExecutedNode :=
  graph.nodes.filter fun node => node.status == .failed

end ExecutedGraph
end SqlPipeline
