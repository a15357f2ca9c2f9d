import SqlPipeline.Target

/-!
Relations of a warehouse: what kind of object a dataset becomes, and what is known of an object
that already exists.
-/

namespace SqlPipeline

/-- The two kinds of object a warehouse holds. -/
inductive Relation where
  | table
  | view
  deriving DecidableEq

/-- The word in `drop table`, `create view` and the like. -/
def Relation.keyword : Relation → String
  | .table => "table"
  | .view => "view"

def Relation.all : List Relation := [.table, .view]

/-- How a dataset is kept. An inline one is substituted into its dependents, an incremental one
receives new rows once it exists. -/
inductive Dataset where
  | view
  | table
  | inline
  | incremental
  deriving DecidableEq

namespace Dataset

def name : Dataset → String
  | .view => "view"
  | .table => "table"
  | .inline => "inline"
  | .incremental => "incremental"

def all : List Dataset := [.view, .table, .inline, .incremental]

/-- The kind of object the dataset becomes when it is published. -/
def relation : Dataset → Relation
  | .view => .view
  | .inline => .view
  | .table => .table
  | .incremental => .table

end Dataset

/-- An object that exists: its kind and its columns in order. -/
structure Existing where
  target : Target
  relation : Relation
  columns : List String
  deriving DecidableEq

end SqlPipeline
