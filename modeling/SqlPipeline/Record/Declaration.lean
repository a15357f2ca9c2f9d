import SqlPipeline.Declaration
import SqlPipeline.Record.Action

/-!
Declarations as documents. They are strict: a setting that is not known is an error rather than
lost.
-/

namespace SqlPipeline

open Document

variable {δ : Type} [Document δ]

def DeclarationKind.ofDocument? : δ → Option DeclarationKind :=
  oneOf? DeclarationKind.name DeclarationKind.all

def DeclarationKind.toJson (kind : DeclarationKind) : Json := .text kind.name

namespace Declaration

def fieldNames : List String :=
  ["type", "name", "schema", "database", "dependencies", "tags", "has_output", "disabled",
    "protected", "redshift", "bigquery", "dataset", "file_name", "statements", "incremental_query",
    "where", "incremental_where", "pre_operations", "post_operations", "inputs"]

def ofFields? (fields : List (String × δ)) : Option Declaration := do
  let kind ← defaulted? DeclarationKind.standard DeclarationKind.ofDocument? "type" fields
  let name ← required? text? "name" fields
  let schema ← optional? text? "schema" fields
  let database ← optional? text? "database" fields
  let dependencies ← defaulted? [] texts? "dependencies" fields
  let tags ← defaulted? [] texts? "tags" fields
  let hasOutput ← defaulted? false flag? "has_output" fields
  let disabled ← defaulted? false flag? "disabled" fields
  let isProtected ← defaulted? false flag? "protected" fields
  let redshift ← optional? RedshiftLayout.ofDocument? "redshift" fields
  let bigquery ← optional? BigQueryLayout.ofDocument? "bigquery" fields
  let dataset ← optional? text? "dataset" fields
  let fileName ← defaulted? "" text? "file_name" fields
  let statements ← defaulted? [] texts? "statements" fields
  let incrementalQuery ← optional? text? "incremental_query" fields
  let rowFilter ← optional? text? "where" fields
  let incrementalFilter ← optional? text? "incremental_where" fields
  let preOps ← defaulted? [] texts? "pre_operations" fields
  let postOps ← defaulted? [] texts? "post_operations" fields
  let inputs ← defaulted? [] dictionary? "inputs" fields
  return {
    kind, name, schema, database, dependencies, tags, hasOutput, disabled, isProtected, redshift,
    bigquery, dataset, fileName, statements, incrementalQuery, rowFilter, incrementalFilter, preOps,
    postOps, inputs }

def ofDocument? (document : δ) : Option Declaration :=
  (fields? .refused fieldNames document).bind ofFields?

def listOfDocument? : δ → Option (List Declaration) := list? ofDocument?

def toJson (declaration : Declaration) : Json :=
  .record
    ([("type", declaration.kind.toJson), ("name", .text declaration.name)]
      ++ Json.given "schema" .text declaration.schema
      ++ Json.given "database" .text declaration.database
      ++ [("dependencies", Json.texts declaration.dependencies),
        ("tags", Json.texts declaration.tags), ("has_output", .bool declaration.hasOutput),
        ("disabled", .bool declaration.disabled), ("protected", .bool declaration.isProtected)]
      ++ Json.given "redshift" RedshiftLayout.toJson declaration.redshift
      ++ Json.given "bigquery" BigQueryLayout.toJson declaration.bigquery
      ++ Json.given "dataset" .text declaration.dataset
      ++ [("file_name", .text declaration.fileName),
        ("statements", Json.texts declaration.statements)]
      ++ Json.given "incremental_query" .text declaration.incrementalQuery
      ++ Json.given "where" .text declaration.rowFilter
      ++ Json.given "incremental_where" .text declaration.incrementalFilter
      ++ [("pre_operations", Json.texts declaration.preOps),
        ("post_operations", Json.texts declaration.postOps),
        ("inputs", Json.dictionary declaration.inputs)])

end Declaration
end SqlPipeline
