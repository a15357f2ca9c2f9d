import SqlPipeline.Config
import SqlPipeline.Document

/-!
Configurations as documents. The project configuration is strict, since a misspelt setting would
otherwise fall back to its default in silence.
-/

namespace SqlPipeline

open Document

variable {δ : Type} [Document δ]

def Warehouse.ofDocument? : δ → Option Warehouse := oneOf? Warehouse.name Warehouse.all

def Warehouse.toJson (warehouse : Warehouse) : Json := .text warehouse.name

namespace ProjectConfig

def ofFields? (fields : List (String × δ)) : Option ProjectConfig := do
  let warehouse ← defaulted? standard.warehouse Warehouse.ofDocument? "warehouse" fields
  let defaultSchema ← defaulted? standard.defaultSchema text? "default_schema" fields
  let assertionSchema ← defaulted? standard.assertionSchema text? "assertion_schema" fields
  let schemaSuffix ← optional? text? "schema_suffix" fields
  let defaultDatabase ← optional? text? "default_database" fields
  return { warehouse, defaultSchema, assertionSchema, schemaSuffix, defaultDatabase }

def fieldNames : List String :=
  ["warehouse", "default_schema", "assertion_schema", "schema_suffix", "default_database"]

def ofDocument? (document : δ) : Option ProjectConfig :=
  (fields? .refused fieldNames document).bind ofFields?

def toJson (config : ProjectConfig) : Json :=
  .record
    ([("warehouse", config.warehouse.toJson),
        ("default_schema", .text config.defaultSchema),
        ("assertion_schema", .text config.assertionSchema)]
      ++ Json.given "schema_suffix" .text config.schemaSuffix
      ++ Json.given "default_database" .text config.defaultDatabase)

end ProjectConfig

namespace RunConfig

def ofFields? (fields : List (String × δ)) : Option RunConfig := do
  let fullRefresh ← defaulted? false flag? "full_refresh" fields
  let nodes ← defaulted? [] texts? "nodes" fields
  let includeDependencies ← defaulted? false flag? "include_dependencies" fields
  return { fullRefresh, nodes, includeDependencies }

def fieldNames : List String := ["full_refresh", "nodes", "include_dependencies"]

def ofDocument? (document : δ) : Option RunConfig :=
  (fields? .passed fieldNames document).bind ofFields?

def toJson (config : RunConfig) : Json :=
  .record
    ([("full_refresh", .bool config.fullRefresh)]
      ++ Json.filled "nodes" config.nodes
      ++ [("include_dependencies", .bool config.includeDependencies)])

end RunConfig
end SqlPipeline
