/-!
Configuration. The project configuration fixes where the actions of a project live; the run
configuration says which of them one invocation runs and how.
-/

namespace SqlPipeline

inductive Warehouse where
  | bigquery
  | duckdb
  | postgres
  | redshift
  | snowflake
  deriving DecidableEq

namespace Warehouse

def name : Warehouse → String
  | .bigquery => "bigquery"
  | .duckdb => "duckdb"
  | .postgres => "postgres"
  | .redshift => "redshift"
  | .snowflake => "snowflake"

def all : List Warehouse := [.bigquery, .duckdb, .postgres, .redshift, .snowflake]

end Warehouse

structure ProjectConfig where
  warehouse : Warehouse
  /-- Holds the actions that name no schema of their own. -/
  defaultSchema : String
  /-- Holds the views of assertions. -/
  assertionSchema : String
  /-- Stands behind every schema, after an underscore. -/
  schemaSuffix : Option String
  defaultDatabase : Option String
  deriving DecidableEq

/-- What is wrong with a project configuration. -/
inductive ConfigFault where
  | emptyDefaultSchema
  | emptyAssertionSchema
  | badSuffix (suffix : String)
  deriving DecidableEq

namespace ProjectConfig

def standard : ProjectConfig := ⟨.duckdb, "weft", "weft_assertions", none, none⟩

def isSuffixChar (c : Char) : Bool := c.isAlphanum || c == '_'

def isSuffix (text : String) : Bool := text != "" && text.toList.all isSuffixChar

/-- The first fault; none in a configuration that can be used. -/
def fault? (config : ProjectConfig) : Option ConfigFault :=
  if config.defaultSchema = "" then some .emptyDefaultSchema
  else if config.assertionSchema = "" then some .emptyAssertionSchema
  else (config.schemaSuffix.filter fun suffix => !isSuffix suffix).map .badSuffix

/-- Replaces the schemas that are given. -/
def withSchemas (config : ProjectConfig) (defaultSchema assertionSchema : Option String) :
    ProjectConfig :=
  { config with
    defaultSchema := defaultSchema.getD config.defaultSchema
    assertionSchema := assertionSchema.getD config.assertionSchema }

def suffixed (config : ProjectConfig) (schema : String) : String :=
  match config.schemaSuffix with
  | some suffix => schema ++ "_" ++ suffix
  | none => schema

end ProjectConfig

structure RunConfig where
  /-- Rebuilds incremental tables from scratch. -/
  fullRefresh : Bool
  /-- Names and patterns of the actions to run; all of them where there are none. -/
  nodes : List String
  /-- Runs what the chosen actions depend on as well. -/
  includeDependencies : Bool
  deriving DecidableEq

namespace RunConfig

def standard : RunConfig := ⟨false, [], false⟩

/-- Dependencies are included only of actions that were chosen. -/
def valid (config : RunConfig) : Bool := !config.includeDependencies || config.nodes != []

end RunConfig
end SqlPipeline
