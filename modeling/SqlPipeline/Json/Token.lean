import SqlPipeline.Json.Number

/-!
Lexemes of JSON text: brackets, separators, texts and words. A text is read one character at a
time, with its escapes; the two halves of a surrogate pair must follow each other as escapes, and
a text with a lone half has no value. A word is a literal name or a number.
-/

namespace SqlPipeline.Json

inductive Token where
  | openList
  | closeList
  | openRecord
  | closeRecord
  | comma
  | colon
  | text (value : Option String)
  | leaf (value : Json)

namespace Token

/-- What the reader is in the middle of. Code points and characters read so far are kept last
first; `code` counts the hexadecimal digits still to come. -/
inductive Mode where
  | between
  | word (read : List Char)
  | text (read : List Nat)
  | escape (read : List Nat)
  | code (read : List Nat) (missing value : Nat)

def isSpace (c : Char) : Bool := c == ' ' || c == '\n' || c == '\t' || c == '\r'

def isWordChar (c : Char) : Bool := c.isAlphanum || c == '+' || c == '-' || c == '.'

def isHighHalf (code : Nat) : Bool := 0xD800 ≤ code && code < 0xDC00

def isLowHalf (code : Nat) : Bool := 0xDC00 ≤ code && code < 0xE000

/-- Code units to characters, pairs of halves joined; none where a half stands alone. -/
def joinHalves : List Nat → Option (List Char)
  | [] => some []
  | high :: low :: rest =>
      if isHighHalf high && isLowHalf low then
        (joinHalves rest).map
          (Char.ofNat (0x10000 + (high - 0xD800) * 0x400 + (low - 0xDC00)) :: ·)
      else if isHighHalf high || isLowHalf high then none
      else (joinHalves (low :: rest)).map (Char.ofNat high :: ·)
  | [code] => if isHighHalf code || isLowHalf code then none else some [Char.ofNat code]

def ofText (read : List Nat) : Token :=
  .text ((joinHalves read.reverse).map String.ofList)

/-- The value of a word; none where it is neither a literal name nor a number. -/
def ofWord? (word : List Char) : Option Token :=
  if word = "null".toList then some (.leaf .null)
  else if word = "true".toList then some (.leaf (.bool true))
  else if word = "false".toList then some (.leaf (.bool false))
  else (Literal.read? word).map fun literal =>
    match literal.toNumber? with
    | some value => .leaf (.number value)
    | none => .leaf .unreadable

def escaped? : Char → Option Nat
  | '"' => some 0x22
  | '\\' => some 0x5C
  | '/' => some 0x2F
  | 'b' => some 0x08
  | 'f' => some 0x0C
  | 'n' => some 0x0A
  | 'r' => some 0x0D
  | 't' => some 0x09
  | _ => none

def punctuation? : Char → Option Token
  | '[' => some .openList
  | ']' => some .closeList
  | '\x7b' => some .openRecord
  | '\x7d' => some .closeRecord
  | ',' => some .comma
  | ':' => some .colon
  | _ => none

/-- The first character of a lexeme, or a space between two of them. -/
def start (c : Char) : Option (List Token × Mode) :=
  if isSpace c then some ([], .between)
  else if c = '"' then some ([], .text [])
  else if isWordChar c then some ([], .word [c])
  else (punctuation? c).map fun token => ([token], .between)

/-- One character: the lexemes it completes and what comes next. -/
def step : Mode → Char → Option (List Token × Mode)
  | .between, c => start c
  | .word read, c =>
      if isWordChar c then some ([], .word (c :: read))
      else do
        let word ← ofWord? read.reverse
        let next ← start c
        return (word :: next.1, next.2)
  | .text read, c =>
      if c = '"' then some ([ofText read], .between)
      else if c = '\\' then some ([], .escape read)
      else if c.toNat < 0x20 then none
      else some ([], .text (c.toNat :: read))
  | .escape read, c =>
      if c = 'u' then some ([], .code read 4 0)
      else (escaped? c).map fun code => ([], .text (code :: read))
  | .code read missing value, c =>
      (Digits.hexDigit? c).map fun digit =>
        let value := value * 16 + digit
        if missing ≤ 1 then ([], .text (value :: read)) else ([], .code read (missing - 1) value)

/-- The lexemes of a text; none where a character fits nowhere or the text ends within one. -/
def scan : Mode → List Char → Option (List Token)
  | .between, [] => some []
  | .word read, [] => (ofWord? read.reverse).map fun word => [word]
  | .text _, [] => none
  | .escape _, [] => none
  | .code _ _ _, [] => none
  | mode, c :: rest => do
      let next ← step mode c
      let tokens ← scan next.2 rest
      return next.1 ++ tokens

end Token
end SqlPipeline.Json
