import SqlPipeline.Json.Value

/-!
Documents: structured text that records are read from. A reader asks a document for what it
expects, a text, a flag, a list, the fields of a record, and gets nothing where the document holds
something else. Every field of a record may stand once; fields the record does not know are
passed over, or refused where the record is strict. Some documents also write a record as the
list of its fields in order, from which fields at the end may be missing.
-/

namespace SqlPipeline

class Document (δ : Type) where
  text? : δ → Option String
  flag? : δ → Option Bool
  natural? : δ → Option Nat
  /-- Whether it stands for a value that is absent. -/
  absent? : δ → Option Bool
  /-- The name of one of several alternatives. -/
  choice? : δ → Option String
  items? : δ → Option (List δ)
  /-- What is stored under which name, in the order written. -/
  entries? : δ → Option (List (String × δ))
  /-- A record written as the list of its fields. -/
  positions? : δ → Option (List δ)

namespace Document

variable {δ α : Type} [Document δ]

def list? (read : δ → Option α) (document : δ) : Option (List α) :=
  (items? document).bind fun items => items.mapM read

def texts? : δ → Option (List String) := list? text?

/-- One of some alternatives by its name. -/
def oneOf? (name : α → String) (alternatives : List α) (document : δ) : Option α :=
  (choice? document).bind fun text => alternatives.find? fun alternative => name alternative == text

/-- Texts by name, sorted; the last one of a repeated name stands. -/
def dictionary? (document : δ) : Option (List (String × String)) :=
  (entries? document).bind fun entries =>
    (entries.mapM fun entry => (text? entry.2).map fun value => (entry.1, value)).map Sorted.entries

/-! ## Fields of a record -/

/-- Whether a record lets fields pass that it does not know. -/
inductive Unknown where
  | passed
  | refused
  deriving DecidableEq

def fields? (unknown : Unknown) (names : List String) (document : δ) :
    Option (List (String × δ)) :=
  match entries? document with
  | some entries =>
      let known := entries.filter fun entry => names.contains entry.1
      if (known.map Prod.fst).Nodup ∧ (unknown = .passed ∨ known.length = entries.length) then
        some known
      else none
  | none =>
      (positions? document).bind fun values =>
        if values.length ≤ names.length then some (names.zip values) else none

def required? (read : δ → Option α) (name : String) (fields : List (String × δ)) : Option α :=
  (fields.lookup name).bind read

def defaulted? (fallback : α) (read : δ → Option α) (name : String) (fields : List (String × δ)) :
    Option α :=
  match fields.lookup name with
  | some value => read value
  | none => some fallback

/-- A field that may be left out or be null. -/
def optional? (read : δ → Option α) : String → List (String × δ) → Option (Option α) :=
  defaulted? none fun value =>
    (absent? value).bind fun absent => if absent then some none else (read value).map some

end Document

/-! ## JSON as a document -/

namespace Json

instance : Document Json where
  text? := asText?
  flag? := asFlag?
  natural? := asNatural?
  absent? := fun value => some value.isNull
  choice? := asChoice?
  items? := asList?
  entries? := asRecord?
  positions? := asList?

/-! ## Writing records -/

/-- A field that is there only with a value. -/
def given {α : Type} (name : String) (write : α → Json) : Option α → List (String × Json)
  | some value => [(name, write value)]
  | none => []

/-- A list of texts that is there only with items. -/
def filled (name : String) : List String → List (String × Json)
  | [] => []
  | values => [(name, texts values)]

def dictionary (entries : List (String × String)) : Json :=
  .record (entries.map fun entry => (entry.1, .text entry.2))

end Json
end SqlPipeline
