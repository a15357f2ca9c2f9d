import SqlPipeline.Json.Number

/-!
Writing JSON. Both forms write the same lexemes in the same order and differ in the blanks
between them: the compact form has none, the pretty form puts every item on a line of its own,
indented by two blanks a level. An empty container is closed at once in both.
-/

namespace SqlPipeline.Json

def hexChar (digit : Nat) : Char :=
  Char.ofNat (if digit < 10 then 48 + digit else 87 + digit)

/-- A character inside a quoted text. Control characters have short escapes or two hexadecimal
digits; all others but quote and backslash stand for themselves. -/
def escapeChar (c : Char) : List Char :=
  if c = '"' then ['\\', '"']
  else if c = '\\' then ['\\', '\\']
  else if c = '\n' then ['\\', 'n']
  else if c = '\t' then ['\\', 't']
  else if c = '\r' then ['\\', 'r']
  else if c = '\x08' then ['\\', 'b']
  else if c = '\x0c' then ['\\', 'f']
  else if c.toNat < 0x20 then
    ['\\', 'u', '0', '0', hexChar (c.toNat / 16), hexChar (c.toNat % 16)]
  else [c]

def quote (text : String) : List Char := '"' :: text.toList.flatMap escapeChar ++ ['"']

/-- The blanks of a form: what stands before an item of a level, and after a name's colon. -/
structure Layout where
  lineStart : Nat → List Char
  afterColon : List Char

def Layout.compact : Layout := ⟨fun _ => [], []⟩

def Layout.pretty : Layout := ⟨fun level => '\n' :: List.replicate (2 * level) ' ', [' ']⟩

mutual

def write (layout : Layout) (level : Nat) : Json → List Char
  | .null => ['n', 'u', 'l', 'l']
  | .bool true => ['t', 'r', 'u', 'e']
  | .bool false => ['f', 'a', 'l', 's', 'e']
  | .number value => value.write
  | .text value => quote value
  | .list [] => ['[', ']']
  | .list (first :: rest) =>
      '[' :: layout.lineStart (level + 1) ++ write layout (level + 1) first
        ++ writeItems layout level rest
  | .record [] => ['\x7b', '\x7d']
  | .record ((name, value) :: rest) =>
      '\x7b' :: layout.lineStart (level + 1) ++ quote name ++ ':' :: layout.afterColon
        ++ write layout (level + 1) value ++ writeEntries layout level rest
  | .unreadable => ['n', 'u', 'l', 'l']

/-- The items after the first one, and the closing bracket. -/
def writeItems (layout : Layout) (level : Nat) : List Json → List Char
  | [] => layout.lineStart level ++ [']']
  | item :: rest =>
      ',' :: layout.lineStart (level + 1) ++ write layout (level + 1) item
        ++ writeItems layout level rest

def writeEntries (layout : Layout) (level : Nat) : List (String × Json) → List Char
  | [] => layout.lineStart level ++ ['\x7d']
  | (name, value) :: rest =>
      ',' :: layout.lineStart (level + 1) ++ quote name ++ ':' :: layout.afterColon
        ++ write layout (level + 1) value ++ writeEntries layout level rest

end

def compact (value : Json) : String := String.ofList (write .compact 0 value)

def pretty (value : Json) : String := String.ofList (write .pretty 0 value)

end SqlPipeline.Json
