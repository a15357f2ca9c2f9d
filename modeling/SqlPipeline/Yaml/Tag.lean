import SqlPipeline.Number.Digits
import SqlPipeline.Yaml.Cursor

/-!
Tags and directives. A tag is `!<whole>`, or a handle with a suffix; a handle stands for the
beginning of a tag and is `!`, `!!` or one that a directive of the document sets. Percent signs
escape the bytes of a character. Those are only looked at for what place they have in a character,
so a tag is a row of bytes and need not be text.
-/

namespace SqlPipeline.Yaml

def isTagChar (c : Char) : Bool := isNameChar c || ";/?:@&=+$.%!~*'()".toList.contains c

/-- Characters of a tag that is written as a whole, or of what a handle stands for. -/
def isWholeTagChar (c : Char) : Bool := isTagChar c || c == ',' || c == '[' || c == ']'

/-- How many bytes follow the first one of a character. -/
def bytesAfter? (first : Nat) : Option Nat :=
  if first < 0x80 then some 0
  else if 0xC0 ≤ first ∧ first < 0xE0 then some 1
  else if 0xE0 ≤ first ∧ first < 0xF0 then some 2
  else if 0xF0 ≤ first ∧ first < 0xF8 then some 3
  else none

/-- Takes a byte when some number of them is due, and tells how many are due after it. -/
def bytesDue? (byte : Nat) : Nat → Option Nat
  | 0 => bytesAfter? byte
  | due + 1 => if 0x80 ≤ byte ∧ byte < 0xC0 then some due else none

/-- The bytes of a tag, percent escapes resolved, when some bytes are due of a character that has
begun. -/
def bytesFrom? : Nat → List Char → Option (List UInt8)
  | 0, [] => some []
  | due, '%' :: high :: low :: rest => do
      let byte ← Digits.hexCode? 2 [high, low]
      return byte.toUInt8 :: (← bytesFrom? (← bytesDue? byte due) rest)
  | 0, c :: rest => if c = '%' then none else (bytesFrom? 0 rest).map (c.toNat.toUInt8 :: ·)
  | _ + 1, _ => none

/-- A tag ends before its first zero byte. -/
def tagBytes? (written : List Char) : Option (List UInt8) :=
  (bytesFrom? 0 written).map fun bytes => bytes.takeWhile (· ≠ 0)

def bytesOf (text : String) : List UInt8 := text.toUTF8.toList

/-- A tag as written. Without a handle the suffix is the whole tag. -/
structure Tag where
  handle : Option String
  suffix : List UInt8
  deriving DecidableEq

/-- The tag `!`, which stands for no other. -/
def Tag.bare : Tag := ⟨none, bytesOf "!"⟩

/-- The tag that begins here and how long it is. -/
def tag? : List Char → Option (Tag × Nat)
  | '!' :: '<' :: rest => do
      let written := rest.takeWhile isWholeTagChar
      let whole ← tagBytes? written
      if written ≠ [] ∧ rest[written.length]? = some '>' then
        some (⟨none, whole⟩, written.length + 3)
      else none
  | '!' :: rest => do
      let name := rest.takeWhile isNameChar
      let more := rest.drop name.length
      if more.head? = some '!' then
        let written := more.tail.takeWhile isTagChar
        let suffix ← tagBytes? written
        if written ≠ [] then
          some (⟨some ("!" ++ String.ofList name ++ "!"), suffix⟩, name.length + written.length + 2)
        else none
      else
        let written := rest.takeWhile isTagChar
        let suffix ← tagBytes? written
        some (if suffix = [] then .bare else ⟨some "!", suffix⟩, written.length + 1)
  | _ => none

/-- What handles stand for. -/
abbrev Handles := List (String × List UInt8)

/-- The handles that need no directive. -/
def standardHandles : Handles :=
  [("!", bytesOf "!"), ("!!", bytesOf "tag:yaml.org,2002:")]

/-- The tag in full; none where nothing is known of its handle. -/
def Tag.resolve? (handles : Handles) (tag : Tag) : Option (List UInt8) :=
  match tag.handle with
  | none => some tag.suffix
  | some handle => (handles.lookup handle).map (· ++ tag.suffix)

inductive Directive where
  | version (major minor : Nat)
  | handle (name : String) (expansion : List UInt8)
  deriving DecidableEq

/-- A part of a version, of at most nine digits. -/
def versionPart? (digits : List Char) : Option Nat :=
  if digits.length ≤ 9 then Digits.natural? digits else none

def versionDirective? (cursor : Cursor) : Option (Directive × Cursor) := do
  let cursor := cursor.skipWhile isBlank
  let major := cursor.rest.takeWhile Char.isDigit
  let cursor := cursor.skip major.length
  let minor := cursor.rest.tail.takeWhile Char.isDigit
  if cursor.rest.head? = some '.' then
    return (.version (← versionPart? major) (← versionPart? minor), cursor.skip (minor.length + 1))
  else none

def handleDirective? (cursor : Cursor) : Option (Directive × Cursor) := do
  let cursor := cursor.skipWhile isBlank
  let name := cursor.rest.tail.takeWhile isNameChar
  let closed := (cursor.rest.drop (name.length + 1)).head? = some '!'
  let handle := '!' :: name ++ if closed then ['!'] else []
  if cursor.rest.head? = some '!' ∧ (closed ∨ name = []) then
    let after := cursor.skip handle.length
    let cursor := after.skipWhile isBlank
    let written := cursor.rest.takeWhile isWholeTagChar
    let expansion ← tagBytes? written
    let ended := cursor.skip written.length
    if after.rest.head?.any isBlank ∧ written ≠ [] ∧ endsWord ended.rest then
      some (.handle (String.ofList handle) expansion, ended)
    else none
  else none

/-- A directive from behind its percent sign to the end of its line. -/
def directive? (cursor : Cursor) : Option (Directive × Cursor) := do
  let name := cursor.rest.takeWhile isNameChar
  let after := cursor.skip name.length
  if endsWord after.rest then
    let (directive, ended) ←
      if name = "YAML".toList then versionDirective? after
      else if name = "TAG".toList then handleDirective? after
      else none
    return (directive, ← ended.endLine?)
  else none

/-- Whether a document may say all this about itself: its version once, and one that is known, and
no handle twice. -/
def directivesAgree (directives : List Directive) : Bool :=
  let versions := directives.filterMap fun
    | .version major minor => some (major, minor)
    | .handle _ _ => none
  let handles := directives.filterMap fun
    | .version _ _ => none
    | .handle name _ => some name
  versions.length ≤ 1 && versions.all (fun version => version == (1, 1) || version == (1, 2))
    && handles.Nodup

/-- The handles of a document; its own directives go first. -/
def handlesOf (directives : List Directive) : Handles :=
  directives.filterMap (fun
    | .version _ _ => none
    | .handle name expansion => some (name, expansion)) ++ standardHandles

end SqlPipeline.Yaml
