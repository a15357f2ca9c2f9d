import SqlPipeline.Config
import SqlPipeline.Sql.Quote
import SqlPipeline.Target
import SqlPipeline.Text.Upper

/-!
How each warehouse writes the name of an object. Most quote every part on its own; BigQuery quotes
the dotted path as a whole. Postgres and Redshift know no database in a name, and Snowflake folds
every part to upper case before it is quoted.
-/

namespace SqlPipeline.Warehouse

/-- The case an identifier has when it is written without quotes. -/
def folded (warehouse : Warehouse) (identifier : String) : String :=
  match warehouse with
  | .snowflake => Text.upper identifier
  | .bigquery | .duckdb | .postgres | .redshift => identifier

/-- One part of a name, quoted on its own. -/
def part (warehouse : Warehouse) (identifier : String) : String :=
  Sql.quoteIdent (warehouse.folded identifier)

/-- A schema, in its database where the warehouse names one. -/
def schemaReference (warehouse : Warehouse) (schema : String) (database : Option String) : String :=
  match warehouse, database with
  | .bigquery, some project => Sql.quoteBacktick (project ++ "." ++ schema)
  | .bigquery, none => Sql.quoteBacktick schema
  | .duckdb, some database => warehouse.part database ++ "." ++ warehouse.part schema
  | .snowflake, some database => warehouse.part database ++ "." ++ warehouse.part schema
  | _, _ => warehouse.part schema

def reference (warehouse : Warehouse) (target : Target) : String :=
  match warehouse, target.database with
  | .bigquery, _ => Sql.quoteBacktick target.path
  | .duckdb, some database =>
      warehouse.part database ++ "." ++ warehouse.part target.schema ++ "."
        ++ warehouse.part target.name
  | .snowflake, some database =>
      warehouse.part database ++ "." ++ warehouse.part target.schema ++ "."
        ++ warehouse.part target.name
  | _, _ => warehouse.part target.schema ++ "." ++ warehouse.part target.name

/-- Columns keep the case in which the warehouse reports them. -/
def column (warehouse : Warehouse) (name : String) : String :=
  match warehouse with
  | .bigquery => Sql.quoteBacktick name
  | .duckdb | .postgres | .redshift | .snowflake => Sql.quoteIdent name

end SqlPipeline.Warehouse
