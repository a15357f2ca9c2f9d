import SqlPipeline.Relation
import SqlPipeline.Text.Blank

/-!
SQL statements over references that are already quoted. Which of them are needed, and when, is
decided elsewhere.
-/

namespace SqlPipeline.Sql

def dropIfExists (reference : String) (relation : Relation) (cascade : Bool) : String :=
  "drop " ++ relation.keyword ++ " if exists " ++ reference ++ if cascade then " cascade" else ""

def createSchema (reference : String) : String := "create schema if not exists " ++ reference

def createOrReplace (relation : Relation) (reference layout query : String) : String :=
  "create or replace " ++ relation.keyword ++ " " ++ reference ++ layout ++ " as " ++ query

def createTable (reference layout query : String) : String :=
  "create table " ++ reference ++ layout ++ " as " ++ query

def rename (reference name : String) : String :=
  "alter table " ++ reference ++ " rename to " ++ name

/-- Predicates that say something, each in parentheses of its own. -/
def conditions (predicates : List String) : List String :=
  ((predicates.map Text.trim).filter fun predicate => predicate != "").map fun predicate =>
    "(" ++ predicate ++ ")"

/-- A query restricted by all predicates; the query itself where none says anything. -/
def filtered (query : String) (predicates : List String) : String :=
  match conditions predicates with
  | [] => query
  | kept => "select * from (" ++ query ++ ") as subquery where " ++ " and ".intercalate kept

/-- Appends the rows of a query, column by column where columns are given. -/
def insertInto (reference : String) (columns : List String) (query : String) : String :=
  match columns with
  | [] => "insert into " ++ reference ++ " select * from (" ++ query ++ ") as insertions"
  | _ =>
      let listed := ", ".intercalate columns
      "insert into " ++ reference ++ " (" ++ listed ++ ") select " ++ listed ++ " from (" ++ query
        ++ ") as insertions"

/-- Puts a table in the place of another: it is built beside it and then takes its name. -/
def swap (temporary target name create : String) : List String :=
  [dropIfExists temporary .table true, create, dropIfExists target .table true,
    rename temporary name]

end SqlPipeline.Sql
