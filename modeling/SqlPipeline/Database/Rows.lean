import SqlPipeline.Json.Print
import SqlPipeline.Text.Blank

/-!
Rows that a statement returns, and the count that an assertion reads off them: the first cell of
the first row. No cell and null count as zero. A number counts without its fractional digits, a
text when it is a whole number with blanks around it at most, and anything else is no count.
-/

namespace SqlPipeline

structure Rows where
  columns : List String
  rows : List (List Json)

namespace Rows

def empty : Rows := ⟨[], []⟩

/-- The first cell of the first row. -/
def scalar? (result : Rows) : Option Json := result.rows.head?.bind List.head?

/-- The count a cell denotes, within 64 bits. -/
def countOf? : Json → Option Int
  | .null => some 0
  | .number (.whole value) => some (min value (Int.pow 2 63 - 1))
  | .number (.double value) => some value.saturated
  | .text value => Digits.signed64? (Text.trimChars value.toList)
  | _ => none

/-- A cell as it stands in a message: a text as it is, everything else as ordered JSON. -/
def shown : Json → String
  | .text value => value
  | value => value.ordered.compact

/-- Offending rows of an assertion, or the cell that is no count. -/
def offending (result : Rows) : Except Json Int :=
  match result.scalar? with
  | none => .ok 0
  | some cell =>
      match countOf? cell with
      | some count => .ok count
      | none => .error cell

end Rows
end SqlPipeline
