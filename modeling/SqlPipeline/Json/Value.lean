import SqlPipeline.Number.Double
import SqlPipeline.Sorted

/-!
JSON values. A number is a whole number of 64 bits, signed or not, or a double. A record keeps its
entries in the order they were written, repeated names included. Text that is well-formed JSON but
denotes no value, such as half of a surrogate pair or a number beyond every double, is kept as
`unreadable`: it may stand where nobody looks and nowhere else.
-/

namespace SqlPipeline

inductive Json.Number where
  | whole (value : Int)
  | double (value : Double)
  deriving DecidableEq

inductive Json where
  | null
  | bool (value : Bool)
  | number (value : Json.Number)
  | text (value : String)
  | list (items : List Json)
  | record (entries : List (String × Json))
  | unreadable

namespace Json

def whole (value : Int) : Json := .number (.whole value)

def nat (value : Nat) : Json := whole value

def texts (values : List String) : Json := .list (values.map .text)

def ofOption {α : Type} (encode : α → Json) : Option α → Json
  | some value => encode value
  | none => .null

/-! ## What a value holds -/

def asText? : Json → Option String
  | .text value => some value
  | _ => none

def asFlag? : Json → Option Bool
  | .bool value => some value
  | _ => none

/-- A whole number of 64 bits without sign. -/
def asNatural? : Json → Option Nat
  | .number (.whole value) => if 0 ≤ value ∧ value < Int.pow 2 64 then some value.toNat else none
  | _ => none

def isNull : Json → Bool
  | .null => true
  | _ => false

/-- An alternative is a text, or a record with the text as its only name and nothing under it. -/
def asChoice? : Json → Option String
  | .text value => some value
  | .record [(name, .null)] => some name
  | _ => none

def asList? : Json → Option (List Json)
  | .list items => some items
  | _ => none

def asRecord? : Json → Option (List (String × Json))
  | .record entries => some entries
  | _ => none

/-- The value stored under a name; the last one where the name is repeated. -/
def get? (name : String) : Json → Option Json
  | .record entries => (entries.reverse.find? fun entry => entry.1 == name).map Prod.snd
  | _ => none

/-! ## Order

Equal values may be written in many ways. The ordered form has every record sorted by name,
with the last value of a repeated name. -/

mutual

def ordered : Json → Json
  | .list items => .list (orderedItems items)
  | .record entries => .record (Sorted.entries (orderedEntries entries))
  | value => value

def orderedItems : List Json → List Json
  | [] => []
  | item :: rest => ordered item :: orderedItems rest

def orderedEntries : List (String × Json) → List (String × Json)
  | [] => []
  | (name, value) :: rest => (name, ordered value) :: orderedEntries rest

end

end Json
end SqlPipeline
