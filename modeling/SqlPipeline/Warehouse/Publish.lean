import SqlPipeline.Action
import SqlPipeline.Sql.Statement
import SqlPipeline.Task
import SqlPipeline.Warehouse.Reference

/-!
Publishing. What has to happen to the object of a table is a short list of steps: an object of the
other kind is dropped, then rows are appended or the object is built anew. The decision is the same
for every warehouse. Building anew replaces the object at once, or, where the warehouse cannot
replace a table, builds a temporary one and swaps it in.
-/

namespace SqlPipeline

/-- A change to one object. -/
inductive Step where
  | drop (relation : Relation) (target : Target)
  | replace (relation : Relation) (target : Target) (layout query : String)
  | create (target : Target) (layout query : String)
  | rename (target : Target) (name : String)
  | insert (target : Target) (columns : List String) (query : String)
  deriving DecidableEq

namespace Warehouse

/-- Whether a drop takes along what depends on the object. -/
def cascades : Warehouse → Bool
  | .bigquery => false
  | .duckdb | .postgres | .redshift | .snowflake => true

/-- Whether a table is swapped in, for want of a statement that replaces it. -/
def swaps : Warehouse → Bool
  | .postgres | .redshift => true
  | .bigquery | .duckdb | .snowflake => false

def sql (warehouse : Warehouse) : Step → String
  | .drop relation target =>
      Sql.dropIfExists (warehouse.reference target) relation warehouse.cascades
  | .replace relation target layout query =>
      Sql.createOrReplace relation (warehouse.reference target) layout query
  | .create target layout query => Sql.createTable (warehouse.reference target) layout query
  | .rename target name => Sql.rename (warehouse.reference target) (warehouse.part name)
  | .insert target columns query =>
      Sql.insertInto (warehouse.reference target) (columns.map warehouse.column) query

end Warehouse

/-- Each half needs both its style and its key. -/
def RedshiftLayout.clause (layout : RedshiftLayout) : String :=
  (match layout.distStyle, layout.distKey with
    | some style, some key => " diststyle " ++ style ++ " distkey (" ++ key ++ ")"
    | _, _ => "")
  ++ (match layout.sortStyle, layout.sortKeys with
    | some style, key :: keys =>
        " " ++ style ++ " sortkey (" ++ ", ".intercalate (key :: keys) ++ ")"
    | _, _ => "")

def BigQueryLayout.clause (layout : BigQueryLayout) : String :=
  (match layout.partitionBy with
    | some expression => " partition by " ++ expression
    | none => "")
  ++ (match layout.clusterBy with
    | [] => ""
    | columns => " cluster by " ++ ", ".intercalate columns)

namespace Table

/-- The layout of the table on a warehouse that knows one. -/
def layout (table : Table) : Warehouse → String
  | .redshift => (table.redshift.map RedshiftLayout.clause).getD ""
  | .bigquery => (table.bigquery.map BigQueryLayout.clause).getD ""
  | .duckdb | .postgres | .snowflake => ""

/-- The kind of the existing object where it is not the kind the table becomes. -/
def conflict? (table : Table) (existing : Option Existing) : Option Relation :=
  (existing.map Existing.relation).filter fun relation => relation != table.dataset.relation

/-- An incremental table appends to an existing table. A full refresh rebuilds it all the same,
unless the table is protected. -/
def appends (table : Table) (run : RunConfig) (existing : Option Existing) : Bool :=
  table.dataset == .incremental
    && existing.any (fun object => object.relation == .table)
    && (!run.fullRefresh || table.isProtected)

/-- The rows of an append. -/
def appendSource (table : Table) : String :=
  Sql.filtered (table.incrementalQuery.getD table.query)
    (table.rowFilter.toList ++ table.incrementalFilter.toList)

/-- Builds the object anew. -/
def rebuild (table : Table) (warehouse : Warehouse) : List Step :=
  let target := table.target
  match table.dataset.relation with
  | .view => [.replace .view target "" table.query]
  | .table =>
      if warehouse.swaps then
        [.drop .table target.temporary,
          .create target.temporary (table.layout warehouse) table.query,
          .drop .table target, .rename target.temporary target.name]
      else [.replace .table target (table.layout warehouse) table.query]

/-- The steps between the operations before and after them. -/
def steps (table : Table) (warehouse : Warehouse) (run : RunConfig) (existing : Option Existing) :
    List Step :=
  ((table.conflict? existing).map fun relation => Step.drop relation table.target).toList
    ++ (match existing with
      | some object =>
          if table.appends run existing then
            [.insert table.target object.columns table.appendSource]
          else table.rebuild warehouse
      | none => table.rebuild warehouse)

end Table

namespace Warehouse

def publish (warehouse : Warehouse) (table : Table) (run : RunConfig) (existing : Option Existing) :
    List Task :=
  (table.preOps ++ (table.steps warehouse run existing).map warehouse.sql ++ table.postOps).map
    Task.plain

/-- Counts the rows of an object. Two warehouses sum over no rows to null, which counts as none. -/
def count (warehouse : Warehouse) : String :=
  match warehouse with
  | .duckdb | .postgres | .redshift => "count(*)"
  | .snowflake | .bigquery => "sum(1)"

/-- An assertion becomes a view, whose rows are then counted. -/
def assertion (warehouse : Warehouse) (assertion : Assertion) : List Task :=
  let reference := warehouse.reference assertion.target
  [Task.plain (Sql.createOrReplace .view reference "" assertion.query),
    Task.check ("select " ++ warehouse.count ++ " as row_count from " ++ reference)]

def createSchema (warehouse : Warehouse) (schema : String) (database : Option String) : Task :=
  Task.plain (Sql.createSchema (warehouse.schemaReference schema database))

end Warehouse

-- The steps that swap a table in are written as the swap of the two references.
theorem Table.rebuild_sql_of_swaps (table : Table) (warehouse : Warehouse)
    (swaps : warehouse.swaps = true) (isTable : table.dataset.relation = .table) :
    (table.rebuild warehouse).map warehouse.sql =
      Sql.swap (warehouse.reference table.target.temporary) (warehouse.reference table.target)
        (warehouse.part table.target.name)
        (Sql.createTable (warehouse.reference table.target.temporary) (table.layout warehouse)
          table.query) := by
  cases warehouse <;> simp [Warehouse.swaps] at swaps
    <;> simp [rebuild, isTable, Warehouse.swaps, Warehouse.sql, Sql.swap, Warehouse.cascades]

end SqlPipeline
