import SqlPipeline.Proofs.Sql.Condition
import SqlPipeline.Proofs.Warehouse.Objects

/-!
The rows of an append. A row is appended when every predicate of the table admits it. So the
predicates are joined in such a way that each of them still reads as one, whatever `and`, `or` and
parentheses it is made of.
-/

namespace SqlPipeline

open Sql

/-- A query restricted by every predicate that is not blank. The condition reads as these
predicates again, one by one. -/
structure Restricts (query : String) (predicates : List String) (statement : String) : Prop where
  unchanged : statement = query ↔ ∀ predicate ∈ predicates, Text.Blanks predicate.toList
  restricted : (∃ predicate ∈ predicates, ¬ Text.Blanks predicate.toList) →
    ∃ condition, statement = "select * from (" ++ query ++ ") as subquery where " ++ condition ∧
      conjuncts condition =
        (predicates.filter fun predicate => ¬ Text.Blanks predicate.toList).map fun predicate =>
          "(" ++ Text.trim predicate ++ ")"

theorem restricts_filtered {predicates : List String}
    (balanced : ∀ predicate ∈ predicates, Balanced predicate.toList) (query : String) :
    Restricts query predicates (filtered query predicates) := by
  refine ⟨filtered_eq_self_iff, fun ⟨predicate, listed, spoken⟩ => ?_⟩
  have some : conditions predicates ≠ [] := fun none =>
    spoken (conditions_eq_nil_iff.mp none predicate listed)
  refine ⟨_, filtered_of_ne_nil some, (conjuncts_conditions balanced some).trans ?_⟩
  rw [conditions_eq, List.map_map]
  rfl

namespace Table

/-- What an append selects from. -/
def appended (table : Table) : String := table.incrementalQuery.getD table.query

/-- The predicates that restrict an append: that on the rows, then that of the increment. -/
def filters (table : Table) : List String :=
  table.rowFilter.toList ++ table.incrementalFilter.toList

theorem appendSource_eq (table : Table) :
    table.appendSource = filtered table.appended table.filters := rfl

end Table

theorem predicates_kept_apart :
    (∀ (query : String) (predicates : List String),
      (∀ predicate ∈ predicates, Balanced predicate.toList) →
        Restricts query predicates (filtered query predicates)) ∧
    ∀ table : Table,
      table.appendSource = filtered table.appended table.filters ∧
      ((∀ predicate ∈ table.filters, Balanced predicate.toList) →
        Restricts table.appended table.filters table.appendSource) := by
  refine ⟨fun query predicates balanced => restricts_filtered balanced query, fun table => ?_⟩
  have source := table.appendSource_eq
  exact ⟨source, fun balanced => source ▸ restricts_filtered balanced table.appended⟩

-- A row filter whose `or` would take in the other predicate if it stood bare, and a predicate with
-- an ` and ` of its own.
def returned : Table :=
  { orders with
    incrementalQuery := some "select 2 as amount"
    rowFilter := some " amount > 1 or (paid and (open)) "
    incrementalFilter := some "amount < 9 and not paid" }

theorem returned_kept_apart :
    (∀ predicate ∈ returned.filters, Balanced predicate.toList) ∧
    (∃ condition, returned.appendSource =
        "select * from (select 2 as amount) as subquery where " ++ condition ∧
      conjuncts condition = ["(amount > 1 or (paid and (open)))", "(amount < 9 and not paid)"]) ∧
    (∀ predicate ∈ ["\t", "a or b", ""], Balanced predicate.toList) ∧
    ∃ condition, filtered "select 1" ["\t", "a or b", ""] =
        "select * from (select 1) as subquery where " ++ condition ∧
      conjuncts condition = ["(a or b)"] := by
  have both : ∀ predicate ∈ returned.filters, Balanced predicate.toList := by decide
  have one : ∀ predicate ∈ ["\t", "a or b", ""], Balanced predicate.toList := by decide
  refine ⟨both, ?_, one, ?_⟩
  · obtain ⟨condition, written, read⟩ :=
      ((predicates_kept_apart.2 returned).2 both).restricted (by decide)
    exact ⟨condition, written, read.trans (by decide)⟩
  · obtain ⟨condition, written, read⟩ :=
      (predicates_kept_apart.1 "select 1" _ one).restricted (by decide)
    exact ⟨condition, written, read.trans (by decide)⟩

end SqlPipeline
