/-!
Quoting for SQL. Each rule writes a text so that the engine reads it back as one identifier or
one literal. The readers stand beside the writers: they take a quoted text off the front of a
statement and leave the rest.
-/

namespace SqlPipeline.Sql

/-- A double quote inside an identifier is written twice. -/
def doubleQuotes (text : List Char) : List Char :=
  text.flatMap fun c => if c = '"' then ['"', '"'] else [c]

def quoteIdent (ident : String) : String :=
  String.ofList ('"' :: doubleQuotes ident.toList ++ ['"'])

/-- A backtick inside a backtick-quoted path is written after a backslash. -/
def escapeBackticks (text : List Char) : List Char :=
  text.flatMap fun c => if c = '\x60' then ['\\', '\x60'] else [c]

/-- A dotted path in backticks; the whole path is quoted once. -/
def quoteBacktick (path : String) : String :=
  String.ofList ('\x60' :: escapeBackticks path.toList ++ ['\x60'])

/-- A single quote inside a string literal is written twice. -/
def doubleApostrophes (text : List Char) : List Char :=
  text.flatMap fun c => if c = '\x27' then ['\x27', '\x27'] else [c]

/-- The body of a string literal, without the quotes around it. -/
def escapeLiteral (text : String) : String := String.ofList (doubleApostrophes text.toList)

/-! ## Reading quoted text -/

/-- The text up to the closing mark and the rest behind it, where a doubled mark stands for one. -/
def readDoubled (mark : Char) : List Char → Option (List Char × List Char)
  | [] => none
  | [c] => if c = mark then some ([], []) else none
  | c :: next :: rest =>
      if c = mark then
        if next = mark then (readDoubled mark rest).map fun read => (mark :: read.1, read.2)
        else some ([], next :: rest)
      else (readDoubled mark (next :: rest)).map fun read => (c :: read.1, read.2)

/-- An identifier in double quotes off the front of a text. -/
def readIdent : List Char → Option (List Char × List Char)
  | '"' :: rest => readDoubled '"' rest
  | _ => none

/-- A string literal in single quotes off the front of a text. -/
def readLiteral : List Char → Option (List Char × List Char)
  | '\x27' :: rest => readDoubled '\x27' rest
  | _ => none

/-- The text up to a closing backtick, where a backslash makes the next character plain. -/
def readEscaped : List Char → Option (List Char × List Char)
  | [] => none
  | '\\' :: c :: rest => (readEscaped rest).map fun read => (c :: read.1, read.2)
  | c :: rest =>
      if c = '\x60' then some ([], rest)
      else (readEscaped rest).map fun read => (c :: read.1, read.2)

/-- A path in backticks off the front of a text. -/
def readBacktick : List Char → Option (List Char × List Char)
  | '\x60' :: rest => readEscaped rest
  | _ => none

theorem doubleQuotes_append (left right : List Char) :
    doubleQuotes (left ++ right) = doubleQuotes left ++ doubleQuotes right := by
  simp [doubleQuotes]

end SqlPipeline.Sql
