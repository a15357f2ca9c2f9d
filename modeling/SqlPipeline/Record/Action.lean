import SqlPipeline.Action
import SqlPipeline.Document

/-!
Actions as documents, with the targets and layouts they hold. Lists and options that are empty are
left out where nothing is lost by it; dependencies are always written.
-/

namespace SqlPipeline

open Document

variable {δ : Type} [Document δ]

def ActionName.ofDocument? (document : δ) : Option ActionName :=
  (text? document).bind ActionName.ofText?

def ActionName.toJson (name : ActionName) : Json := .text name.text

def Relation.ofDocument? : δ → Option Relation := oneOf? Relation.keyword Relation.all

def Relation.toJson (relation : Relation) : Json := .text relation.keyword

def Dataset.ofDocument? : δ → Option Dataset := oneOf? Dataset.name Dataset.all

def Dataset.toJson (dataset : Dataset) : Json := .text dataset.name

def ActionKind.ofDocument? : δ → Option ActionKind := oneOf? ActionKind.name ActionKind.all

def ActionKind.toJson (kind : ActionKind) : Json := .text kind.name

namespace Target

def fieldNames : List String := ["schema", "name", "database"]

def ofFields? (fields : List (String × δ)) : Option Target := do
  let schema ← required? text? "schema" fields
  let name ← required? text? "name" fields
  let database ← optional? text? "database" fields
  return { schema, name, database }

def ofDocument? (document : δ) : Option Target :=
  (fields? .passed fieldNames document).bind ofFields?

def toJson (target : Target) : Json :=
  .record
    ([("schema", .text target.schema), ("name", .text target.name)]
      ++ Json.given "database" .text target.database)

end Target

namespace Existing

def fieldNames : List String := ["target", "type", "columns"]

def ofFields? (fields : List (String × δ)) : Option Existing := do
  let target ← required? Target.ofDocument? "target" fields
  let relation ← required? Relation.ofDocument? "type" fields
  let columns ← defaulted? [] texts? "columns" fields
  return { target, relation, columns }

def ofDocument? (document : δ) : Option Existing :=
  (fields? .passed fieldNames document).bind ofFields?

def toJson (existing : Existing) : Json :=
  .record
    [("target", existing.target.toJson), ("type", existing.relation.toJson),
      ("columns", Json.texts existing.columns)]

end Existing

namespace RedshiftLayout

def fieldNames : List String := ["dist_key", "dist_style", "sort_keys", "sort_style"]

def ofFields? (fields : List (String × δ)) : Option RedshiftLayout := do
  let distKey ← optional? text? "dist_key" fields
  let distStyle ← optional? text? "dist_style" fields
  let sortKeys ← defaulted? [] texts? "sort_keys" fields
  let sortStyle ← optional? text? "sort_style" fields
  return { distKey, distStyle, sortKeys, sortStyle }

def ofDocument? (document : δ) : Option RedshiftLayout :=
  (fields? .passed fieldNames document).bind ofFields?

def toJson (layout : RedshiftLayout) : Json :=
  .record
    (Json.given "dist_key" .text layout.distKey
      ++ Json.given "dist_style" .text layout.distStyle
      ++ Json.filled "sort_keys" layout.sortKeys
      ++ Json.given "sort_style" .text layout.sortStyle)

end RedshiftLayout

namespace BigQueryLayout

def fieldNames : List String := ["partition_by", "cluster_by"]

def ofFields? (fields : List (String × δ)) : Option BigQueryLayout := do
  let partitionBy ← optional? text? "partition_by" fields
  let clusterBy ← defaulted? [] texts? "cluster_by" fields
  return { partitionBy, clusterBy }

def ofDocument? (document : δ) : Option BigQueryLayout :=
  (fields? .passed fieldNames document).bind ofFields?

def toJson (layout : BigQueryLayout) : Json :=
  .record
    (Json.given "partition_by" .text layout.partitionBy
      ++ Json.filled "cluster_by" layout.clusterBy)

end BigQueryLayout

namespace Table

def fieldNames : List String :=
  ["name", "target", "type", "query", "incremental_query", "where_clause", "incremental_where",
    "pre_ops", "post_ops", "dependencies", "tags", "disabled", "protected", "redshift", "bigquery",
    "file_name"]

def ofFields? (fields : List (String × δ)) : Option Table := do
  let name ← required? ActionName.ofDocument? "name" fields
  let target ← required? Target.ofDocument? "target" fields
  let dataset ← required? Dataset.ofDocument? "type" fields
  let query ← required? text? "query" fields
  let incrementalQuery ← optional? text? "incremental_query" fields
  let rowFilter ← optional? text? "where_clause" fields
  let incrementalFilter ← optional? text? "incremental_where" fields
  let preOps ← defaulted? [] texts? "pre_ops" fields
  let postOps ← defaulted? [] texts? "post_ops" fields
  let dependencies ← defaulted? [] texts? "dependencies" fields
  let tags ← defaulted? [] texts? "tags" fields
  let disabled ← defaulted? false flag? "disabled" fields
  let isProtected ← defaulted? false flag? "protected" fields
  let redshift ← optional? RedshiftLayout.ofDocument? "redshift" fields
  let bigquery ← optional? BigQueryLayout.ofDocument? "bigquery" fields
  let fileName ← required? text? "file_name" fields
  return {
    name, target, dataset, query, incrementalQuery, rowFilter, incrementalFilter, preOps, postOps,
    dependencies, tags, disabled, isProtected, redshift, bigquery, fileName }

def ofDocument? (document : δ) : Option Table :=
  (fields? .passed fieldNames document).bind ofFields?

def toJson (table : Table) : Json :=
  .record
    ([("name", table.name.toJson), ("target", table.target.toJson),
        ("type", table.dataset.toJson), ("query", .text table.query)]
      ++ Json.given "incremental_query" .text table.incrementalQuery
      ++ Json.given "where_clause" .text table.rowFilter
      ++ Json.given "incremental_where" .text table.incrementalFilter
      ++ Json.filled "pre_ops" table.preOps
      ++ Json.filled "post_ops" table.postOps
      ++ [("dependencies", Json.texts table.dependencies)]
      ++ Json.filled "tags" table.tags
      ++ [("disabled", .bool table.disabled), ("protected", .bool table.isProtected)]
      ++ Json.given "redshift" RedshiftLayout.toJson table.redshift
      ++ Json.given "bigquery" BigQueryLayout.toJson table.bigquery
      ++ [("file_name", .text table.fileName)])

end Table

namespace Operation

def fieldNames : List String :=
  ["name", "target", "has_output", "queries", "dependencies", "tags", "file_name"]

def ofFields? (fields : List (String × δ)) : Option Operation := do
  let name ← required? ActionName.ofDocument? "name" fields
  let target ← optional? Target.ofDocument? "target" fields
  let hasOutput ← defaulted? false flag? "has_output" fields
  let queries ← required? texts? "queries" fields
  let dependencies ← defaulted? [] texts? "dependencies" fields
  let tags ← defaulted? [] texts? "tags" fields
  let fileName ← required? text? "file_name" fields
  return { name, target, hasOutput, queries, dependencies, tags, fileName }

def ofDocument? (document : δ) : Option Operation :=
  (fields? .passed fieldNames document).bind ofFields?

def toJson (operation : Operation) : Json :=
  .record
    ([("name", operation.name.toJson)]
      ++ Json.given "target" Target.toJson operation.target
      ++ [("has_output", .bool operation.hasOutput), ("queries", Json.texts operation.queries),
        ("dependencies", Json.texts operation.dependencies)]
      ++ Json.filled "tags" operation.tags
      ++ [("file_name", .text operation.fileName)])

end Operation

namespace Assertion

def fieldNames : List String := ["name", "target", "query", "dependencies", "tags", "file_name"]

def ofFields? (fields : List (String × δ)) : Option Assertion := do
  let name ← required? ActionName.ofDocument? "name" fields
  let target ← required? Target.ofDocument? "target" fields
  let query ← required? text? "query" fields
  let dependencies ← defaulted? [] texts? "dependencies" fields
  let tags ← defaulted? [] texts? "tags" fields
  let fileName ← required? text? "file_name" fields
  return { name, target, query, dependencies, tags, fileName }

def ofDocument? (document : δ) : Option Assertion :=
  (fields? .passed fieldNames document).bind ofFields?

def toJson (assertion : Assertion) : Json :=
  .record
    ([("name", assertion.name.toJson), ("target", assertion.target.toJson),
        ("query", .text assertion.query), ("dependencies", Json.texts assertion.dependencies)]
      ++ Json.filled "tags" assertion.tags
      ++ [("file_name", .text assertion.fileName)])

end Assertion

namespace Test

def fieldNames : List String := ["name", "dataset", "query", "inputs", "file_name"]

def ofFields? (fields : List (String × δ)) : Option Test := do
  let name ← required? ActionName.ofDocument? "name" fields
  let dataset ← required? text? "dataset" fields
  let query ← required? text? "query" fields
  let inputs ← defaulted? [] dictionary? "inputs" fields
  let fileName ← required? text? "file_name" fields
  return { name, dataset, query, inputs, fileName }

def ofDocument? (document : δ) : Option Test :=
  (fields? .passed fieldNames document).bind ofFields?

def toJson (test : Test) : Json :=
  .record
    ([("name", test.name.toJson), ("dataset", .text test.dataset), ("query", .text test.query)]
      ++ (if test.inputs = [] then [] else [("inputs", Json.dictionary test.inputs)])
      ++ [("file_name", .text test.fileName)])

end Test
end SqlPipeline
