import SqlPipeline.Number.Digits
import SqlPipeline.Yaml.Cursor

/-!
Scalars: single values, written plainly, in quotes or as a block of lines. Line breaks fold in all
but literal blocks: a single one reads as a space, and of several the first one is dropped. The
`margin` is the first column that belongs to the innermost open block.
-/

namespace SqlPipeline.Yaml

inductive Style where
  | plain
  | quoted
  | literal
  | folded
  deriving DecidableEq

-- What a run of blanks and line breaks between two words stands for.
def fold (gap : List Char) : List Char :=
  match gap.filter isBreak with
  | [] => gap
  | '\n' :: [] => [' ']
  | '\n' :: further => further
  | breaks => breaks

/-! ## Plain scalars -/

/-- Whether a tab stands left of the margin, on a line that the run does not begin on. The column
is unknown before the first line break. -/
def tabInMargin (margin : Nat) : Option Nat → List Char → Bool
  | _, [] => false
  | column, c :: rest =>
      if isBreak c then tabInMargin margin (some 0) rest
      else
        c == '\t' && column.any (· < margin)
          || tabInMargin margin (column.map (· + 1)) rest

def isFlowMark (c : Char) : Bool :=
  c == ',' || c == '[' || c == ']' || c == '\x7b' || c == '\x7d'

/-- The word that begins here. A colon ends it before a blank; within brackets a comma or bracket
ends it too, and a colon right before one of those has no meaning. -/
def plainWord? (inFlow : Bool) : List Char → Option (List Char)
  | [] => some []
  | c :: rest =>
      if inFlow && c == ':' && rest.head?.any (fun d => isFlowMark d || d == '?') then none
      else if isSpace c || c == ':' && endsWord rest || inFlow && isFlowMark c then some []
      else (plainWord? inFlow rest).map (c :: ·)

/-- What has been read of a scalar, and whether its end was only found on a later line. -/
structure Plain where
  text : List Char
  after : Cursor
  broken : Bool

/-- More words after a first one. Gaps count when a word follows them that belongs to the
scalar. -/
def plainWords? (inFlow : Bool) (margin : Nat) : Nat → Cursor → Option Plain
  | 0, _ => none
  | fuel + 1, cursor => do
      let gap := cursor.rest.takeWhile isSpace
      let after := cursor.skip gap.length
      if tabInMargin margin none gap then none
      else if gap.isEmpty || after.atMarker || !inFlow && after.column < margin
          || after.rest.head? == some '#' then
        return ⟨[], after, gap.any isBreak⟩
      else
        let word ← plainWord? inFlow after.rest
        if word.isEmpty then return ⟨[], after, gap.any isBreak⟩
        else
          let more ← plainWords? inFlow margin fuel (after.skip word.length)
          return { more with text := fold gap ++ word ++ more.text }

def plain? (inFlow : Bool) (margin : Nat) (cursor : Cursor) : Option Plain := do
  let word ← plainWord? inFlow cursor.rest
  let more ← plainWords? inFlow margin (cursor.rest.length + 1) (cursor.skip word.length)
  return { more with text := word ++ more.text }

/-! ## Quoted scalars -/

-- Escapes of one character.
def escaped? : Char → Option Char
  | '0' => some '\x00'
  | 'a' => some '\x07'
  | 'b' => some '\x08'
  | 't' | '\t' => some '\t'
  | 'n' => some '\n'
  | 'v' => some '\x0b'
  | 'f' => some '\x0c'
  | 'r' => some '\r'
  | 'e' => some '\x1b'
  | ' ' => some ' '
  | '"' => some '"'
  | '/' => some '/'
  | '\\' => some '\\'
  | 'N' => some '\x85'
  | '_' => some '\xa0'
  | 'L' => some '\u2028'
  | 'P' => some '\u2029'
  | _ => none

-- How many hexadecimal digits follow the escape of a code point.
def codeLength? : Char → Option Nat
  | 'x' => some 2
  | 'u' => some 4
  | 'U' => some 8
  | _ => none

/-- The character an escape denotes, and how many characters the escape takes after the
backslash. -/
def escape? : List Char → Option (Char × Nat)
  | [] => none
  | c :: rest =>
      match codeLength? c with
      | none => (escaped? c).map fun meaning => (meaning, 1)
      | some length => do
          let code ← Digits.hexCode? length rest
          if code.isValidChar then some (Char.ofNat code, length + 1) else none

/-- The rest of a scalar up to its closing quote. A single quote is doubled inside single quotes; a
backslash escapes inside double quotes, a line break as well, which then disappears together with
the blanks around it. -/
def quotedRest? (quote : Char) : Nat → Cursor → Option (List Char × Cursor)
  | 0, _ => none
  | fuel + 1, cursor =>
      let resume (read : List Char) (length : Nat) : Option (List Char × Cursor) :=
        (quotedRest? quote fuel (cursor.skip length)).map fun more => (read ++ more.1, more.2)
      if cursor.atMarker then none
      else
        match cursor.rest with
        | [] => none
        | c :: rest =>
            if c = quote then
              if quote = '\'' ∧ rest.head? = some '\'' then resume ['\''] 2
              else some ([], cursor.next)
            else if isSpace c then
              let gap := (c :: rest).takeWhile isSpace
              resume (fold gap) gap.length
            else if c = '\\' ∧ quote = '"' then
              if rest.head?.any isBreak then
                let gap := rest.tail.takeWhile isSpace
                resume (gap.filter isBreak) (gap.length + 2)
              else (escape? rest).bind fun meaning => resume [meaning.1] (meaning.2 + 1)
            else resume [c] 1

-- A scalar from behind its opening quote.
def quoted? (quote : Char) (cursor : Cursor) : Option (List Char × Cursor) :=
  quotedRest? quote (cursor.rest.length + 1) cursor

/-! ## Block scalars -/

/-- What becomes of the line breaks at the end of a block. -/
inductive Chomp where
  | strip
  | clip
  | keep
  deriving DecidableEq

structure BlockHeader where
  chomp : Chomp
  /-- How far the block is indented, where that is said. -/
  indent : Option Nat

def chomp? : Char → Option Chomp
  | '-' => some .strip
  | '+' => some .keep
  | _ => none

def blockIndent? (c : Char) : Option Nat :=
  if '1' ≤ c ∧ c ≤ '9' then some (c.toNat - 48) else none

-- The two indicators in either order, each of which may be missing, and how long they are.
def blockHeader (text : List Char) : BlockHeader × Nat :=
  let first := text.head?
  let second := text.tail.head?
  match first.bind chomp?, first.bind blockIndent? with
  | some chomp, _ =>
      match second.bind blockIndent? with
      | some indent => (⟨chomp, some indent⟩, 2)
      | none => (⟨chomp, none⟩, 1)
  | none, some indent =>
      match second.bind chomp? with
      | some chomp => (⟨chomp, some indent⟩, 2)
      | none => (⟨.clip, some indent⟩, 1)
  | none, none => (⟨.clip, none⟩, 0)

/-- The empty lines before the next line of a block: their breaks, how far the widest of them and
of the next line's indentation reaches, and the place where the next line's content begins. A tab
within the indentation has no meaning. -/
def emptyLines? (indent : Option Nat) : Nat → Nat → Cursor → Option (List Char × Nat × Cursor)
  | 0, _, _ => none
  | fuel + 1, widest, cursor =>
      let within := indent.all (cursor.column < ·)
      let widest := max widest cursor.column
      match cursor.rest with
      | [] => some ([], widest, cursor)
      | c :: _ =>
          if c = ' ' ∧ within then emptyLines? indent fuel widest cursor.next
          else if c = '\t' ∧ within then none
          else if isBreak c then
            (emptyLines? indent fuel widest cursor.next).map fun more => (c :: more.1, more.2)
          else some ([], widest, cursor)

/-- A block so far: its lines, the break that ends the last one, the breaks of empty lines behind
it, and where it stops. -/
structure Block where
  text : List Char
  lineEnd : List Char
  emptyEnds : List Char
  after : Cursor

/-- The lines of a block that are indented as far as it is. In a folded block two lines are joined
when neither begins with a blank. -/
def blockLines? (folded : Bool) (indent : Nat) : Nat → Bool → Block → Option Block
  | 0, _, _ => none
  | fuel + 1, afterBlank, block =>
      let cursor := block.after
      if cursor.column ≠ indent ∨ cursor.rest = [] then some block
      else do
        let blank := cursor.rest.head?.any isBlank
        let joint :=
          if folded ∧ block.lineEnd = ['\n'] ∧ ¬afterBlank ∧ ¬blank then
            if block.emptyEnds = [] then [' '] else []
          else block.lineEnd
        let line := cursor.rest.takeWhile (!isBreak ·)
        let ended := cursor.skip line.length
        let (breaks, _, after) ← emptyLines? (some indent) (cursor.rest.length + 1) 0 ended.next
        blockLines? folded indent fuel blank
          { text := block.text ++ joint ++ block.emptyEnds ++ line
            lineEnd := ended.rest.take 1
            emptyEnds := breaks
            after := after }

def Block.chomped (block : Block) : Chomp → List Char
  | .strip => block.text
  | .clip => block.text ++ block.lineEnd
  | .keep => block.text ++ block.lineEnd ++ block.emptyEnds

/-- A block from behind its `|` or `>`. Where its indentation is not said, it is that of the widest
line up to the first one with content. -/
def block? (folded : Bool) (margin : Nat) (cursor : Cursor) : Option (List Char × Cursor) := do
  let (header, length) := blockHeader cursor.rest
  let begun ← (cursor.skip length).endLine?
  let said := header.indent.map fun width => margin - 1 + width
  let fuel := cursor.rest.length + 1
  let (breaks, widest, after) ← emptyLines? said fuel 0 begun
  let indent := said.getD (max (max widest margin) 1)
  let block ← blockLines? folded indent fuel false ⟨[], [], breaks, after⟩
  return (block.chomped header.chomp, block.after)

end SqlPipeline.Yaml
