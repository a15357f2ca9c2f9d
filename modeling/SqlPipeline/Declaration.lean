import SqlPipeline.Action
import SqlPipeline.Error

/-!
Declarations: actions as they are handed over, one by one and unchecked. Which settings go with
which kind is a list of rules; a declaration can break any number of them.
-/

namespace SqlPipeline

inductive DeclarationKind where
  | dataset (flavour : Dataset)
  | assertion
  | operations
  | test
  deriving DecidableEq

namespace DeclarationKind

def name : DeclarationKind → String
  | .dataset flavour => flavour.name
  | .assertion => "assertion"
  | .operations => "operations"
  | .test => "test"

def all : List DeclarationKind := Dataset.all.map .dataset ++ [.assertion, .operations, .test]

def standard : DeclarationKind := .dataset .table

/-- The dataset that declarations of the kind create. -/
def dataset? : DeclarationKind → Option Dataset
  | .dataset flavour => some flavour
  | .assertion | .operations | .test => none

def isDataset (kind : DeclarationKind) : Bool := kind.dataset?.isSome

end DeclarationKind

structure Declaration where
  kind : DeclarationKind
  /-- Possibly `schema.name`. -/
  name : String
  schema : Option String
  database : Option String
  dependencies : List String
  tags : List String
  hasOutput : Bool
  disabled : Bool
  isProtected : Bool
  redshift : Option RedshiftLayout
  bigquery : Option BigQueryLayout
  /-- What a test checks. -/
  dataset : Option String
  fileName : String
  statements : List String
  incrementalQuery : Option String
  rowFilter : Option String
  incrementalFilter : Option String
  preOps : List String
  postOps : List String
  /-- What stands in for the inputs of a test, sorted by name. -/
  inputs : List (String × String)
  deriving DecidableEq

/-- The rules, in the order in which they are reported. -/
inductive Violation where
  | severalStatements
  | noStatement (kind : DeclarationKind)
  | outputWithoutOperations
  | outputWithoutSingleStatement
  | protectedNotIncremental
  | incrementalSettings
  | disabledWithoutDataset
  | redshiftWithoutDataset
  | bigqueryWithoutDataset
  | filterWithoutDataset
  | preOpsWithoutDataset
  | postOpsWithoutDataset
  | testWithoutDataset
  | datasetWithoutTest
  | inputsWithoutTest
  | emptyName
  | duplicateName (name : String)
  deriving DecidableEq

def Violation.message : Violation → String
  | .severalStatements =>
      "Actions may only contain more than one SQL statement if they are of type 'operations'."
  | .noStatement kind => "Actions of type '" ++ kind.name ++ "' must contain a SQL query."
  | .outputWithoutOperations =>
      "Actions may only specify 'has_output: true' if they are of type 'operations'."
  | .outputWithoutSingleStatement =>
      "Operations with 'has_output: true' must contain exactly one SQL statement."
  | .protectedNotIncremental =>
      "Actions may only specify 'protected: true' if they are of type 'incremental'."
  | .incrementalSettings =>
      "Actions may only include incremental_where or incremental_query if they are of type "
        ++ "'incremental'."
  | .disabledWithoutDataset =>
      "Actions may only specify 'disabled: true' if they create a dataset."
  | .redshiftWithoutDataset =>
      "Actions may only specify 'redshift: \x7b ... \x7d' layout options if they create a dataset."
  | .bigqueryWithoutDataset =>
      "Actions may only specify 'bigquery: \x7b ... \x7d' layout options if they create a dataset."
  | .filterWithoutDataset =>
      "Actions may only include a 'where' clause if they create a dataset."
  | .preOpsWithoutDataset =>
      "Actions may only include pre_operations if they create a dataset."
  | .postOpsWithoutDataset =>
      "Actions may only include post_operations if they create a dataset."
  | .testWithoutDataset => "Tests must specify the 'dataset' under test."
  | .datasetWithoutTest => "Actions may only specify 'dataset' if they are of type 'test'."
  | .inputsWithoutTest => "Actions may only include 'inputs' if they are of type 'test'."
  | .emptyName => "Actions must have a non-empty name."
  | .duplicateName name =>
      "Duplicate action name detected, names must be unique across tables, operations, assertions "
        ++ "and tests: \"" ++ name ++ "\""

namespace Declaration

/-- A declaration with nothing set. -/
def blank (kind : DeclarationKind) (name : String) : Declaration where
  kind := kind
  name := name
  schema := none
  database := none
  dependencies := []
  tags := []
  hasOutput := false
  disabled := false
  isProtected := false
  redshift := none
  bigquery := none
  dataset := none
  fileName := ""
  statements := []
  incrementalQuery := none
  rowFilter := none
  incrementalFilter := none
  preOps := []
  postOps := []
  inputs := []

/-- A declaration of one statement, in a file named after it. -/
def single (kind : DeclarationKind) (name sql : String) : Declaration :=
  { blank kind name with fileName := name ++ ".sql", statements := [sql] }

/-- The first statement; an empty one where there is none. -/
def query (declaration : Declaration) : String := declaration.statements.head?.getD ""

/-- The settings that go with one kind only, and those that go with datasets only. -/
def violations (declaration : Declaration) : List Violation :=
  let isOperations := declaration.kind = .operations
  let isIncremental := declaration.kind = .dataset .incremental
  let isTest := declaration.kind = .test
  let isDataset := declaration.kind.isDataset = true
  let count := declaration.statements.length
  let broken (rule : Violation) (condition : Bool) : List Violation :=
    if condition then [rule] else []
  broken .severalStatements (1 < count ∧ ¬isOperations)
    ++ broken (.noStatement declaration.kind) (count = 0 ∧ ¬isOperations)
    ++ broken .outputWithoutOperations (declaration.hasOutput ∧ ¬isOperations)
    ++ broken .outputWithoutSingleStatement
      (declaration.hasOutput ∧ isOperations ∧ count ≠ 1)
    ++ broken .protectedNotIncremental (declaration.isProtected ∧ ¬isIncremental)
    ++ broken .incrementalSettings
      ((declaration.incrementalQuery.isSome ∨ declaration.incrementalFilter.isSome)
        ∧ ¬isIncremental)
    ++ broken .disabledWithoutDataset (declaration.disabled ∧ ¬isDataset)
    ++ broken .redshiftWithoutDataset (declaration.redshift.isSome ∧ ¬isDataset)
    ++ broken .bigqueryWithoutDataset (declaration.bigquery.isSome ∧ ¬isDataset)
    ++ broken .filterWithoutDataset (declaration.rowFilter.isSome ∧ ¬isDataset)
    ++ broken .preOpsWithoutDataset (declaration.preOps ≠ [] ∧ ¬isDataset)
    ++ broken .postOpsWithoutDataset (declaration.postOps ≠ [] ∧ ¬isDataset)
    ++ broken .testWithoutDataset (declaration.dataset.isNone ∧ isTest)
    ++ broken .datasetWithoutTest (declaration.dataset.isSome ∧ ¬isTest)
    ++ broken .inputsWithoutTest (declaration.inputs ≠ [] ∧ ¬isTest)

end Declaration
end SqlPipeline
