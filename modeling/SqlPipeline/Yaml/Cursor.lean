/-!
The characters of YAML text and a place in it. Indentation and keys depend on where a thing stands,
so a place counts lines and columns, both from zero. Line endings of every kind read as line feeds;
the two Unicode separators break lines too and are kept as they are.
-/

namespace SqlPipeline.Yaml

def isBreak (c : Char) : Bool := c == '\n' || c == '\u2028' || c == '\u2029'

def isBlank (c : Char) : Bool := c == ' ' || c == '\t'

def isSpace (c : Char) : Bool := isBlank c || isBreak c

/-- Characters of the names of anchors, tag handles and directives. -/
def isNameChar (c : Char) : Bool := c.isAlphanum || c == '_' || c == '-'

/-- The ranges of the characters that text may hold, by first and last code point. -/
def textRanges : List (Nat × Nat) :=
  [(0x09, 0x0A), (0x0D, 0x0D), (0x20, 0x7E), (0x85, 0x85), (0xA0, 0xD7FF), (0xE000, 0xFFFD),
    (0x10000, 0x10FFFF)]

def isTextChar (c : Char) : Bool :=
  textRanges.any fun range => range.1 ≤ c.toNat && c.toNat ≤ range.2

def evenLines : List Char → List Char
  | [] => []
  | '\r' :: '\n' :: rest => '\n' :: evenLines rest
  | c :: rest => (if c = '\r' ∨ c = '\x85' then '\n' else c) :: evenLines rest

/-- Whether a word ends here. -/
def endsWord (text : List Char) : Bool := text.head?.all isSpace

/-- Whether a line ends here. -/
def endsLine (text : List Char) : Bool := text.head?.all isBreak

structure Cursor where
  rest : List Char
  line : Nat
  column : Nat
  /-- Bytes on the line so far. -/
  bytes : Nat

namespace Cursor

def start (text : List Char) : Cursor := ⟨text, 0, 0, 0⟩

def next (cursor : Cursor) : Cursor :=
  match cursor.rest with
  | [] => cursor
  | c :: rest =>
      if isBreak c then ⟨rest, cursor.line + 1, 0, 0⟩
      else ⟨rest, cursor.line, cursor.column + 1, cursor.bytes + c.utf8Size⟩

def skip : Nat → Cursor → Cursor
  | 0, cursor => cursor
  | n + 1, cursor => skip n cursor.next

def skipWhile (p : Char → Bool) (cursor : Cursor) : Cursor :=
  cursor.skip (cursor.rest.takeWhile p).length

/-- The line `---` or `...`, or one that goes on after it with a blank. -/
def atMarker (cursor : Cursor) : Bool :=
  cursor.column == 0
    && (cursor.rest.take 3 == ['-', '-', '-'] || cursor.rest.take 3 == ['.', '.', '.'])
    && endsWord (cursor.rest.drop 3)

/-- Past blanks, a comment and the line break; none where anything else is left on the line. -/
def endLine? (cursor : Cursor) : Option Cursor :=
  let cursor := cursor.skipWhile isBlank
  let cursor := if cursor.rest.head? = some '#' then cursor.skipWhile (!isBreak ·) else cursor
  if endsLine cursor.rest then some cursor.next else none

end Cursor
end SqlPipeline.Yaml
