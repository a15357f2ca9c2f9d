import SqlPipeline.Json.Value
import SqlPipeline.Number.Decimal

/-!
Cells of DuckDB results. A cell is read as a whole number if it can be, else as a double, else as a
truth value, else as text, and as nothing if it is none of these; so a text that spells a number is
read as that number.
-/

namespace SqlPipeline.Duck

inductive Cell where
  | null
  | bool (value : Bool)
  /-- A whole number of 64 bits, signed or not. -/
  | whole (value : Int)
  | double (value : Double)
  | text (value : String)
  | blob
  deriving DecidableEq

namespace Cell

/-- Doubles lose their fractional digits; what does not fit is no whole number. -/
def whole? : Cell → Option Int
  | .whole value => if Digits.isSigned64 value then some value else none
  | .double value =>
      if value.isFinite ∧ Digits.isSigned64 value.truncated then some value.truncated else none
  | .text value => Digits.signed64? value.toList
  | .null | .bool _ | .blob => none

def double? : Cell → Option Double
  | .whole value => some (Double.ofWhole value)
  | .double value => some value
  | .text value => Decimal.read? value.toList
  | .null | .bool _ | .blob => none

def bool? : Cell → Option Bool
  | .bool value => some value
  | _ => none

def text? : Cell → Option String
  | .text value => some value
  | _ => none

/-- Infinities and not-a-number are nothing in JSON. -/
def ofDouble (value : Double) : Json :=
  if value.isFinite then .number (.double value) else .null

/-- The cell as JSON. -/
def value (cell : Cell) : Json :=
  match cell.whole? with
  | some number => Json.whole number
  | none =>
    match cell.double? with
    | some number => ofDouble number
    | none =>
      match cell.bool? with
      | some truth => .bool truth
      | none => Json.ofOption .text cell.text?

end Cell
end SqlPipeline.Duck
