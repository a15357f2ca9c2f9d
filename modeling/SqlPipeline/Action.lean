import SqlPipeline.Name
import SqlPipeline.Relation

/-!
Compiled actions. Every declaration becomes a table, an operation, an assertion or a test; an
`Action` is any one of the four, seen through what they have in common.
-/

namespace SqlPipeline

/-- Physical layout of a table on Redshift. -/
structure RedshiftLayout where
  distKey : Option String
  distStyle : Option String
  sortKeys : List String
  sortStyle : Option String
  deriving DecidableEq

/-- Physical layout of a table on BigQuery. -/
structure BigQueryLayout where
  partitionBy : Option String
  clusterBy : List String
  deriving DecidableEq

/-- A dataset: a view, a table, an inline or an incremental table. -/
structure Table where
  name : ActionName
  target : Target
  dataset : Dataset
  query : String
  /-- Feeds an append in place of `query`. -/
  incrementalQuery : Option String
  /-- Restricts the rows of an append. -/
  rowFilter : Option String
  incrementalFilter : Option String
  preOps : List String
  postOps : List String
  dependencies : List String
  tags : List String
  disabled : Bool
  isProtected : Bool
  redshift : Option RedshiftLayout
  bigquery : Option BigQueryLayout
  fileName : String
  deriving DecidableEq

/-- Statements of any kind. The target is there when they leave an object behind. -/
structure Operation where
  name : ActionName
  target : Option Target
  hasOutput : Bool
  queries : List String
  dependencies : List String
  tags : List String
  fileName : String
  deriving DecidableEq

/-- A query for offending rows. -/
structure Assertion where
  name : ActionName
  target : Target
  query : String
  dependencies : List String
  tags : List String
  fileName : String
  deriving DecidableEq

/-- A check of one dataset against fixed inputs, which are kept sorted by name. -/
structure Test where
  name : ActionName
  dataset : String
  query : String
  inputs : List (String × String)
  fileName : String
  deriving DecidableEq

/-- The registry an action belongs to. -/
inductive ActionKind where
  | table
  | operation
  | assertion
  | test
  deriving DecidableEq

namespace ActionKind

def name : ActionKind → String
  | .table => "table"
  | .operation => "operation"
  | .assertion => "assertion"
  | .test => "test"

def all : List ActionKind := [.table, .operation, .assertion, .test]

end ActionKind

inductive Action where
  | table (record : Table)
  | operation (record : Operation)
  | assertion (record : Assertion)
  | test (record : Test)
  deriving DecidableEq

namespace Action

def kind : Action → ActionKind
  | .table _ => .table
  | .operation _ => .operation
  | .assertion _ => .assertion
  | .test _ => .test

def name : Action → ActionName
  | .table record => record.name
  | .operation record => record.name
  | .assertion record => record.name
  | .test record => record.name

/-- The object the action writes; tests and operations without output write none. -/
def target : Action → Option Target
  | .table record => some record.target
  | .operation record => record.target
  | .assertion record => some record.target
  | .test _ => none

/-- Tests depend on nothing. -/
def dependencies : Action → List String
  | .table record => record.dependencies
  | .operation record => record.dependencies
  | .assertion record => record.dependencies
  | .test _ => []

def tags : Action → List String
  | .table record => record.tags
  | .operation record => record.tags
  | .assertion record => record.tags
  | .test _ => []

def fileName : Action → String
  | .table record => record.fileName
  | .operation record => record.fileName
  | .assertion record => record.fileName
  | .test record => record.fileName

/-- Only datasets can be disabled. -/
def disabled : Action → Bool
  | .table record => record.disabled
  | _ => false

end Action
end SqlPipeline
