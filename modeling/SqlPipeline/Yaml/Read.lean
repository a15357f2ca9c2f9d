import SqlPipeline.Document
import SqlPipeline.Number.Digits
import SqlPipeline.Yaml.Node

/-!
Reading YAML. A text holds one document at most, and one without any reads like an empty one. What
a scalar stands for depends on what is asked for: it is a text in every style, and a flag or
nothing only in the plain one. Where a list or record is asked for, an empty plain scalar stands for
one without items.
-/

namespace SqlPipeline

/-- A document, or a part of one beside the anchored nodes of the whole. -/
structure Yaml where
  anchored : List (Nat × Yaml.Node)
  node : Yaml.Node

namespace Yaml

/-! ## Scalars -/

def nullTag : List UInt8 := bytesOf "tag:yaml.org,2002:null"

def flagTag : List UInt8 := bytesOf "tag:yaml.org,2002:bool"

def isNullText (text : String) : Bool := ["null", "Null", "NULL", "~"].contains text

def flagOf? (text : String) : Option Bool :=
  if ["true", "True", "TRUE"].contains text then some true
  else if ["false", "False", "FALSE"].contains text then some false
  else none

def part (yaml : Yaml) (node : Node) : Yaml := ⟨yaml.anchored, node⟩

/-- The node that a part stands for. -/
def target (yaml : Yaml) : Node :=
  match yaml.node with
  | .alias number => (yaml.anchored.lookup number).getD .empty
  | node => node

def asText? (yaml : Yaml) : Option String :=
  match yaml.target with
  | .scalar _ _ text => some text
  | _ => none

/-- A flag is plain, or a literal block that is tagged as one. -/
def asFlag? (yaml : Yaml) : Option Bool :=
  match yaml.target with
  | .scalar .plain _ text => flagOf? text
  | .scalar .literal (some tag) text => if tag = flagTag then flagOf? text else none
  | _ => none

def asNatural? (yaml : Yaml) : Option Nat :=
  match yaml.target with
  | .scalar .plain _ text =>
      (Digits.natural? text.toList).filter fun n => Digits.isUnsigned64 n
  | _ => none

/-- Whether nothing is there. A scalar that is tagged as null has to be one. -/
def absent? (yaml : Yaml) : Option Bool :=
  match yaml.target with
  | .scalar .plain none text => some (text = "" || isNullText text)
  | .scalar .plain (some tag) text =>
      if tag ≠ nullTag then some false else if isNullText text then some true else none
  | _ => some false

/-- The name in a tag of the document's own, where it is text. The tag `!` has that for a name. -/
def tagName? (tag : List UInt8) : Option String :=
  if tag = bytesOf "!" then some "!"
  else if tag.head? = some '!'.toUInt8 then String.fromUTF8? ⟨tag.tail.toArray⟩
  else none

/-- An alternative is a text, or a tag with nothing under it. -/
def asChoice? (yaml : Yaml) : Option String :=
  match yaml.target with
  | .scalar style tag text =>
      match tag.bind tagName? with
      | some name => if style = .plain ∧ (text = "" ∨ isNullText text) then some name else none
      | none => some text
  | _ => none

def asList? (yaml : Yaml) : Option (List Yaml) :=
  match yaml.target with
  | .list items => some (items.map yaml.part)
  | .scalar .plain _ "" => some []
  | _ => none

/-- Every name of a record is a scalar. -/
def asRecord? (yaml : Yaml) : Option (List (String × Yaml)) :=
  match yaml.target with
  | .record entries =>
      entries.mapM fun entry =>
        (yaml.part entry.1).asText?.map fun name => (name, yaml.part entry.2)
  | .scalar .plain _ "" => some []
  | _ => none

instance : Document Yaml where
  text? := asText?
  flag? := asFlag?
  natural? := asNatural?
  absent? := absent?
  choice? := asChoice?
  items? := asList?
  entries? := asRecord?
  positions? := fun _ => none

/-! ## Documents -/

def isDirective : Token → Bool
  | .directive _ => true
  | _ => false

def directiveOf? : Token → Option Directive
  | .directive directive => some directive
  | _ => none

/-- A document may be left out behind its mark. -/
def content? (handles : Handles) (tokens : List Token) : Option (Node × Reader) :=
  let reader := Reader.start tokens
  match tokens.head? with
  | none | some .documentStart | some .documentEnd | some (.directive _) => some (.empty, reader)
  | some _ => reader.node? handles true false (Reader.fuel tokens)

/-- The only document of some lexemes. Directives come in front of a mark; without one a document
begins with its content. Behind it nothing follows but marks of its end. -/
def ofTokens? (tokens : List Token) : Option Yaml := do
  let directives := (tokens.takeWhile isDirective).filterMap directiveOf?
  let handles := handlesOf directives
  let (node, reader) ←
    match tokens.dropWhile isDirective with
    | .documentStart :: rest =>
        if directivesAgree directives then content? handles rest else none
    | [] => if directives = [] then some (.empty, Reader.start []) else none
    | rest =>
        if directives = [] then
          (Reader.start rest).node? handles true false (Reader.fuel rest)
        else none
  if reader.tokens.all (· = .documentEnd) then some ⟨reader.anchored, node⟩ else none

def read? (text : String) : Option Yaml := (tokens? text).bind ofTokens?

end Yaml
end SqlPipeline
