import SqlPipeline.Yaml.Token

/-!
From YAML text to lexemes. A block opens where something stands further right than the block around
it and closes where a line begins further left. That a thing is a key is only known at the colon
behind it, so every place where a key may have begun is remembered, and the marks of the key and of
the block it opens are put there afterwards.
-/

namespace SqlPipeline.Yaml

/-- A place where a key may have begun: how many lexemes come before it and where it stands. It is
required where a line of a block can only begin with a key. -/
structure KeyPlace where
  before : Nat
  line : Nat
  column : Nat
  bytes : Nat
  required : Bool

-- A key has to end on its line and within 1024 bytes.
def KeyPlace.passed (place : KeyPlace) (cursor : Cursor) : Bool :=
  place.line < cursor.line || place.bytes + 1024 < cursor.bytes

structure Lexer where
  cursor : Cursor
  tokens : Array Token
  /-- For each open block the first column that belongs to it, the innermost first. -/
  margins : List Nat
  place : Option KeyPlace
  /-- The places kept outside each open bracket, the innermost bracket first. -/
  outerPlaces : List (Option KeyPlace)
  keyAllowed : Bool

namespace Lexer

def start (text : List Char) : Lexer := ⟨.start text, #[], [], none, [], true⟩

def inFlow (lexer : Lexer) : Bool := !lexer.outerPlaces.isEmpty

def margin (lexer : Lexer) : Nat := lexer.margins.head?.getD 0

def emit (token : Token) (lexer : Lexer) : Lexer :=
  { lexer with tokens := lexer.tokens.push token }

def allowKey (allowed : Bool) (lexer : Lexer) : Lexer :=
  { lexer with keyAllowed := allowed }

def skip (length : Nat) (lexer : Lexer) : Lexer :=
  { lexer with cursor := lexer.cursor.skip length }

/-! ## Places of keys -/

-- Gives up the innermost place; none where a key was required there.
def forget? (lexer : Lexer) : Option Lexer :=
  if lexer.place.any KeyPlace.required then none else some { lexer with place := none }

-- Notes that a key may begin here.
def note? (lexer : Lexer) : Option Lexer :=
  if lexer.keyAllowed then
    lexer.forget?.map fun lexer =>
      { lexer with
        place := some
          { before := lexer.tokens.size
            line := lexer.cursor.line
            column := lexer.cursor.column
            bytes := lexer.cursor.bytes
            required := !lexer.inFlow && lexer.margin == lexer.cursor.column + 1 } }
  else some lexer

-- Gives up the places that lie too far back; none where a key was required at one of them.
def expire? (lexer : Lexer) : Option Lexer :=
  let passed (place : KeyPlace) := place.passed lexer.cursor
  let places := lexer.place :: lexer.outerPlaces
  if places.any fun place => place.any fun place => place.required && passed place then none
  else
    let kept (place : Option KeyPlace) := place.filter fun place => !passed place
    some { lexer with
      place := kept lexer.place, outerPlaces := lexer.outerPlaces.map kept }

/-! ## Blocks -/

/-- Opens a block at a column unless one is open there or further right. Within brackets there are
no blocks. -/
def openBlock (column before : Nat) (token : Token) (lexer : Lexer) : Lexer :=
  if lexer.inFlow || column < lexer.margin then lexer
  else
    { lexer with
      margins := (column + 1) :: lexer.margins
      tokens := lexer.tokens.insertIdxIfInBounds before token }

-- Closes the blocks whose first column lies beyond one.
def closeBlocks (margin : Nat) (lexer : Lexer) : Lexer :=
  if lexer.inFlow then lexer
  else
    let closed := (lexer.margins.takeWhile (margin < ·)).length
    { lexer with
      margins := lexer.margins.drop closed
      tokens := lexer.tokens ++ Array.replicate closed .closeBlock }

/-! ## Lexemes -/

/-- Past blanks, comments and line breaks. A byte order mark may begin a line, and a tab may stand
where it does not indent a key. -/
def skipSpace : Nat → Lexer → Lexer
  | 0, lexer => lexer
  | fuel + 1, lexer =>
      let cursor := lexer.cursor
      let cursor :=
        if cursor.column = 0 ∧ cursor.rest.head? = some '\ufeff' then cursor.next else cursor
      let cursor := cursor.skipWhile fun c =>
        c == ' ' || c == '\t' && (lexer.inFlow || !lexer.keyAllowed)
      let cursor := if cursor.rest.head? = some '#' then cursor.skipWhile (!isBreak ·) else cursor
      if cursor.rest.head?.any isBreak then
        skipSpace fuel
          { lexer with cursor := cursor.next, keyAllowed := lexer.keyAllowed || !lexer.inFlow }
      else { lexer with cursor := cursor }

-- The marks `---` and `...`.
def documentMark? (token : Token) (lexer : Lexer) : Option Lexer :=
  (lexer.closeBlocks 0).forget?.map fun lexer =>
    ((lexer.allowKey false).skip 3).emit token

def directiveLine? (lexer : Lexer) : Option Lexer := do
  let lexer ← (lexer.closeBlocks 0).forget?
  let (directive, after) ← directive? lexer.cursor.next
  return { lexer with cursor := after, keyAllowed := false }.emit (.directive directive)

def openBracket? (token : Token) (lexer : Lexer) : Option Lexer :=
  lexer.note?.map fun lexer =>
    ({ lexer with
        outerPlaces := lexer.place :: lexer.outerPlaces, place := none, keyAllowed := true }.skip
      1).emit token

def closeBracket? (token : Token) (lexer : Lexer) : Option Lexer :=
  lexer.forget?.map fun lexer =>
    ({ lexer with
        place := lexer.outerPlaces.head?.getD lexer.place
        outerPlaces := lexer.outerPlaces.tail
        keyAllowed := false }.skip 1).emit token

def comma? (lexer : Lexer) : Option Lexer :=
  lexer.forget?.map fun lexer => ((lexer.allowKey true).skip 1).emit .comma

-- The hyphen of a list item.
def item? (lexer : Lexer) : Option Lexer :=
  if lexer.inFlow || lexer.keyAllowed then
    (lexer.openBlock lexer.cursor.column lexer.tokens.size .openBlockList).forget?.map
      fun lexer => ((lexer.allowKey true).skip 1).emit .item
  else none

-- The question mark of a key that is not written on one line.
def key? (lexer : Lexer) : Option Lexer :=
  if lexer.inFlow || lexer.keyAllowed then
    (lexer.openBlock lexer.cursor.column lexer.tokens.size .openBlockRecord).forget?.map
      fun lexer => ((lexer.allowKey !lexer.inFlow).skip 1).emit .key
  else none

-- The colon of a value. What began at the last place noted is then its key.
def value? (lexer : Lexer) : Option Lexer :=
  match lexer.place with
  | some place =>
      let lexer := { lexer with tokens := lexer.tokens.insertIdxIfInBounds place.before .key }
      let lexer := lexer.openBlock place.column place.before .openBlockRecord
      some (({ lexer with place := none, keyAllowed := false }.skip 1).emit .value)
  | none =>
      if lexer.inFlow || lexer.keyAllowed then
        let lexer :=
          lexer.openBlock lexer.cursor.column lexer.tokens.size .openBlockRecord
        some (((lexer.allowKey !lexer.inFlow).skip 1).emit .value)
      else none

-- What may stand right behind the name of an anchor.
def endsAnchor (text : List Char) : Bool :=
  endsWord text || text.head?.any ("?:,]\x7d%@\x60".toList.contains ·)

def anchor? (token : String → Token) (lexer : Lexer) : Option Lexer := do
  let lexer ← lexer.note?
  let name := lexer.cursor.rest.tail.takeWhile isNameChar
  let lexer := (lexer.allowKey false).skip (name.length + 1)
  if name ≠ [] ∧ endsAnchor lexer.cursor.rest then
    return lexer.emit (token (String.ofList name))
  else none

def tag? (lexer : Lexer) : Option Lexer := do
  let lexer ← lexer.note?
  let (tag, length) ← Yaml.tag? lexer.cursor.rest
  let lexer := (lexer.allowKey false).skip length
  let rest := lexer.cursor.rest
  if endsWord rest || lexer.inFlow && rest.head? == some ',' then
    return lexer.emit (.tag tag)
  else none

def blockScalar? (style : Style) (lexer : Lexer) : Option Lexer := do
  let lexer ← lexer.forget?
  let (text, after) ← block? (style = .folded) lexer.margin lexer.cursor.next
  return { lexer with cursor := after, keyAllowed := true }.emit
    (.scalar style (String.ofList text))

def quotedScalar? (quote : Char) (lexer : Lexer) : Option Lexer := do
  let lexer ← lexer.note?
  let (text, after) ← quoted? quote lexer.cursor.next
  return { lexer with cursor := after, keyAllowed := false }.emit
    (.scalar .quoted (String.ofList text))

def plainScalar? (lexer : Lexer) : Option Lexer := do
  let lexer ← lexer.note?
  let read ← plain? lexer.inFlow lexer.margin lexer.cursor
  return { lexer with cursor := read.after, keyAllowed := read.broken }.emit
    (.scalar .plain (String.ofList read.text))

/-- Characters that no plain scalar begins with; the first three may begin one when a word goes on
behind them. -/
def isIndicator (c : Char) : Bool :=
  "-?:,[]\x7b\x7d#&*!|>'\"%@\x60".toList.contains c

-- Whether a plain scalar begins with this character and what comes after it.
def beginsPlain (inFlow : Bool) (c : Char) (rest : List Char) : Bool :=
  !(isSpace c || isIndicator c)
    || c == '-' && !rest.head?.any isBlank
    || !inFlow && (c == '?' || c == ':') && !endsWord rest

-- The lexeme that begins here.
def lexeme? (lexer : Lexer) (c : Char) (rest : List Char) : Option Lexer :=
  let inFlow := lexer.inFlow
  if lexer.cursor.column = 0 ∧ c = '%' then lexer.directiveLine?
  else if lexer.cursor.atMarker then
    lexer.documentMark? (if c = '-' then .documentStart else .documentEnd)
  else if c = '[' then lexer.openBracket? .openList
  else if c = '\x7b' then lexer.openBracket? .openRecord
  else if c = ']' then lexer.closeBracket? .closeList
  else if c = '\x7d' then lexer.closeBracket? .closeRecord
  else if c = ',' then lexer.comma?
  else if c = '-' ∧ endsWord rest then lexer.item?
  else if c = '?' ∧ (inFlow ∨ endsWord rest) then lexer.key?
  else if c = ':' ∧ (inFlow ∨ endsWord rest) then lexer.value?
  else if c = '*' then lexer.anchor? .alias
  else if c = '&' then lexer.anchor? .anchor
  else if c = '!' then lexer.tag?
  else if c = '|' ∧ ¬inFlow then lexer.blockScalar? .literal
  else if c = '>' ∧ ¬inFlow then lexer.blockScalar? .folded
  else if c = '\'' ∨ c = '"' then lexer.quotedScalar? c
  else if beginsPlain inFlow c rest then lexer.plainScalar?
  else none

-- All lexemes to the end of the text, which closes the blocks still open.
def run? : Nat → Lexer → Option (List Token)
  | 0, _ => none
  | fuel + 1, lexer => do
      let lexer ← (lexer.skipSpace (lexer.cursor.rest.length + 1)).expire?
      let lexer := lexer.closeBlocks (lexer.cursor.column + 1)
      match lexer.cursor.rest with
      | [] => (lexer.closeBlocks 0).forget?.map fun lexer => lexer.tokens.toList
      | c :: rest => (lexer.lexeme? c rest).bind (run? fuel)

end Lexer

-- The lexemes of a text; none where a character fits nowhere.
def tokens? (text : String) : Option (List Token) :=
  if text.toList.all isTextChar then
    let even := evenLines text.toList
    (Lexer.start even).run? (even.length + 1)
  else none

end SqlPipeline.Yaml
