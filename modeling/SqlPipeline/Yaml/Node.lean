import SqlPipeline.Sorted
import SqlPipeline.Yaml.Lexer

/-!
The tree of a YAML document. A node that is left out is an empty plain scalar. An alias stands for
an anchored node by the number of its anchor, which may be one of the nodes around it, so aliases
stay in the tree and anchored nodes are listed beside it.
-/

namespace SqlPipeline.Yaml

inductive Node where
  | scalar (style : Style) (tag : Option (List UInt8)) (text : String)
  | list (items : List Node)
  | record (entries : List (Node × Node))
  | alias (number : Nat)

namespace Node

def empty : Node := .scalar .plain none ""

mutual

-- A scalar or an alias is one mark, a list or record has one at each end.
def marks : Node → Nat
  | .scalar .. => 1
  | .alias _ => 1
  | .list items => itemMarks items + 2
  | .record entries => entryMarks entries + 2

def itemMarks : List Node → Nat
  | [] => 0
  | item :: rest => item.marks + itemMarks rest

def entryMarks : List (Node × Node) → Nat
  | [] => 0
  | (key, value) :: rest => key.marks + value.marks + entryMarks rest

end

end Node

/-- What is left to read, the numbers of the anchors so far and the nodes they are set on. An anchor
is numbered by how many names are known, so one whose name is set again can share its number with
others. The number then belongs to the node that begins last. -/
structure Reader where
  tokens : List Token
  numbers : List (String × Nat)
  anchored : List (Nat × Node)

/-- The anchor and the tag in front of a node. -/
structure Properties where
  anchor : Option String
  tag : Option Tag

namespace Reader

def start (tokens : List Token) : Reader := ⟨tokens, [], []⟩

def next (reader : Reader) : Reader := { reader with tokens := reader.tokens.tail }

def properties (reader : Reader) : Properties × Reader :=
  match reader.tokens with
  | .anchor name :: .tag tag :: rest => (⟨some name, some tag⟩, { reader with tokens := rest })
  | .tag tag :: .anchor name :: rest => (⟨some name, some tag⟩, { reader with tokens := rest })
  | .anchor name :: rest => (⟨some name, none⟩, { reader with tokens := rest })
  | .tag tag :: rest => (⟨none, some tag⟩, { reader with tokens := rest })
  | _ => (⟨none, none⟩, reader)

-- Numbers an anchor before its node is read, and takes its number from the node that had it.
def number (anchor : Option String) (reader : Reader) : Reader :=
  match anchor with
  | some name =>
      let number := reader.numbers.length
      { reader with
        numbers := Sorted.put name number reader.numbers
        anchored := reader.anchored.filter (·.1 ≠ number) }
  | none => reader

-- Lists a node under the number it was given unless a node inside it has taken that.
def list (number : Option Nat) (node : Node) (reader : Reader) : Reader :=
  match number with
  | some number =>
      if (reader.anchored.lookup number).isSome then reader
      else { reader with anchored := (number, node) :: reader.anchored }
  | none => reader

def atOneOf (tokens : List Token) (reader : Reader) : Bool :=
  reader.tokens.head?.any tokens.contains

-- A record of one entry inside a list.
def pairEnds : List Token := [.comma, .closeList]

def recordEnds : List Token := [.comma, .closeRecord]

mutual

/-- The node that begins here. Blocks can only begin outside brackets; the items of a list that is
the key or value of a record need no further indentation. -/
def node? (handles : Handles) (inBlock inRecord : Bool) :
    Nat → Reader → Option (Node × Reader)
  | 0, _ => none
  | fuel + 1, reader =>
      match reader.tokens with
      | .alias name :: _ =>
          (reader.numbers.lookup name).map fun number => (.alias number, reader.next)
      | _ => do
          let (properties, reader) := reader.properties
          let tag ← match properties.tag with
            | some tag => (tag.resolve? handles).map some
            | none => some none
          let number := properties.anchor.map fun _ => reader.numbers.length
          let reader := reader.number properties.anchor
          let bare := properties.anchor.isNone && properties.tag.isNone
          let (node, reader) ← content? handles inBlock inRecord bare tag fuel reader
          return (node, reader.list number node)

-- A node without its properties. It may be left out where it has some.
def content? (handles : Handles) (inBlock inRecord bare : Bool)
    (tag : Option (List UInt8)) : Nat → Reader → Option (Node × Reader)
  | 0, _ => none
  | fuel + 1, reader =>
      match reader.tokens with
      | .scalar style text :: _ => some (.scalar style tag text, reader.next)
      | .openList :: _ =>
          (flowItems? handles true fuel reader.next).map fun read => (.list read.1, read.2)
      | .openRecord :: _ =>
          (flowEntries? handles true fuel reader.next).map fun read => (.record read.1, read.2)
      | token :: _ =>
          if token = .item ∧ inRecord then
            (looseItems? handles fuel reader).map fun read => (.list read.1, read.2)
          else if token = .openBlockList ∧ inBlock then
            (blockItems? handles fuel reader.next).map fun read => (.list read.1, read.2)
          else if token = .openBlockRecord ∧ inBlock then
            (blockEntries? handles fuel reader.next).map fun read => (.record read.1, read.2)
          else if bare then none
          else some (.scalar .plain tag "", reader)
      | [] => if bare then none else some (.scalar .plain tag "", reader)

-- A node, or an empty one in front of some lexemes.
def nodeUnless? (handles : Handles) (ends : List Token) (inBlock inRecord : Bool) :
    Nat → Reader → Option (Node × Reader)
  | 0, _ => none
  | fuel + 1, reader =>
      if reader.atOneOf ends then some (.empty, reader)
      else node? handles inBlock inRecord fuel reader

-- A value, if there is a colon.
def value? (handles : Handles) (ends : List Token) (inBlock : Bool) :
    Nat → Reader → Option (Node × Reader)
  | 0, _ => none
  | fuel + 1, reader =>
      if reader.atOneOf [.value] then nodeUnless? handles ends inBlock inBlock fuel reader.next
      else some (.empty, reader)

def blockItems? (handles : Handles) : Nat → Reader → Option (List Node × Reader)
  | 0, _ => none
  | fuel + 1, reader =>
      match reader.tokens with
      | .closeBlock :: _ => some ([], reader.next)
      | .item :: _ => do
          let (item, reader) ← nodeUnless? handles [.item, .closeBlock] true false fuel reader.next
          let (items, reader) ← blockItems? handles fuel reader
          return (item :: items, reader)
      | _ => none

-- Items of a list that is not indented further than the record around it.
def looseItems? (handles : Handles) : Nat → Reader → Option (List Node × Reader)
  | 0, _ => none
  | fuel + 1, reader =>
      match reader.tokens with
      | .item :: _ => do
          let (item, reader) ←
            nodeUnless? handles [.item, .key, .value, .closeBlock] true false fuel reader.next
          let (items, reader) ← looseItems? handles fuel reader
          return (item :: items, reader)
      | _ => some ([], reader)

def blockEntries? (handles : Handles) :
    Nat → Reader → Option (List (Node × Node) × Reader)
  | 0, _ => none
  | fuel + 1, reader =>
      match reader.tokens with
      | .closeBlock :: _ => some ([], reader.next)
      | .key :: _ => do
          let ends : List Token := [.key, .value, .closeBlock]
          let (key, reader) ← nodeUnless? handles ends true true fuel reader.next
          let (value, reader) ← value? handles ends true fuel reader
          let (entries, reader) ← blockEntries? handles fuel reader
          return ((key, value) :: entries, reader)
      | _ => none

/-- Items within brackets, from the first one or from behind one. The last one may have a comma
behind it. -/
def flowItems? (handles : Handles) (first : Bool) :
    Nat → Reader → Option (List Node × Reader)
  | 0, _ => none
  | fuel + 1, reader =>
      if reader.atOneOf [.closeList] then some ([], reader.next)
      else if !first && !reader.atOneOf [.comma] then none
      else do
        let reader := if first then reader else reader.next
        if reader.atOneOf [.closeList] then some ([], reader.next)
        else
          let (item, reader) ←
            if reader.atOneOf [.key] then flowPair? handles fuel reader.next
            else node? handles false false fuel reader
          let (items, reader) ← flowItems? handles false fuel reader
          return (item :: items, reader)

/-- An entry that stands for a record of its own. Where its key is left out, what stands in its
place is passed over. -/
def flowPair? (handles : Handles) : Nat → Reader → Option (Node × Reader)
  | 0, _ => none
  | fuel + 1, reader => do
      let (key, reader) ←
        if reader.atOneOf (.value :: pairEnds) then some (.empty, reader.next)
        else node? handles false false fuel reader
      let (value, reader) ← value? handles pairEnds false fuel reader
      return (.record [(key, value)], reader)

-- Entries within braces. One without any mark has a key and an empty value.
def flowEntries? (handles : Handles) (first : Bool) :
    Nat → Reader → Option (List (Node × Node) × Reader)
  | 0, _ => none
  | fuel + 1, reader =>
      if reader.atOneOf [.closeRecord] then some ([], reader.next)
      else if !first && !reader.atOneOf [.comma] then none
      else do
        let reader := if first then reader else reader.next
        if reader.atOneOf [.closeRecord] then some ([], reader.next)
        else
          let (entry, reader) ←
            if reader.atOneOf [.key] then flowEntry? handles fuel reader.next
            else (node? handles false false fuel reader).map fun read =>
              ((read.1, .empty), read.2)
          let (entries, reader) ← flowEntries? handles false fuel reader
          return (entry :: entries, reader)

def flowEntry? (handles : Handles) : Nat → Reader → Option ((Node × Node) × Reader)
  | 0, _ => none
  | fuel + 1, reader => do
      let (key, reader) ← nodeUnless? handles (.value :: recordEnds) false false fuel reader
      let (value, reader) ← value? handles recordEnds false fuel reader
      return ((key, value), reader)

end

-- Every lexeme is gone into by way of at most four steps.
def fuel (tokens : List Token) : Nat := 4 * (tokens.length + 1)

end Reader
end SqlPipeline.Yaml
