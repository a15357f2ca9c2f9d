import SqlPipeline.Json.Token

/-!
Reading JSON. The lexemes of a text drive a machine that holds the containers still open, the
innermost first, and what may come next. A text is read when exactly one value has come and
nothing follows it.
-/

namespace SqlPipeline.Json

/-- A container whose next value is being read. What it has so far is kept last first; a record
waits for the value of a name, which is unreadable where the name is none. -/
inductive Open where
  | list (items : List Json)
  | record (entries : List (Option String × Json)) (name : Option String)

/-- What the next lexeme has to be. -/
inductive Reader where
  | wantsValue (opens : List Open)
  | wantsFirst (opens : List Open)
  | afterItem (items : List Json) (opens : List Open)
  | wantsFirstName (opens : List Open)
  | wantsName (entries : List (Option String × Json)) (opens : List Open)
  | wantsColon (entries : List (Option String × Json)) (name : Option String) (opens : List Open)
  | afterEntry (entries : List (Option String × Json)) (opens : List Open)
  | done (value : Json)

namespace Reader

/-- A complete value takes its place in the innermost open container. -/
def deliver (value : Json) : List Open → Reader
  | [] => .done value
  | .list items :: opens => .afterItem (value :: items) opens
  | .record entries name :: opens => .afterEntry ((name, value) :: entries) opens

/-- A record with all its names, or an unreadable value where one of them cannot be read. -/
def closeRecord (entries : List (Option String × Json)) : Json :=
  match entries.reverse.mapM fun entry => entry.1.map fun name => (name, entry.2) with
  | some named => .record named
  | none => .unreadable

def closeText : Option String → Json
  | some value => .text value
  | none => .unreadable

/-- The first lexeme of a value, inside the containers that are open. -/
def beginValue (opens : List Open) : Token → Option Reader
  | .openList => some (.wantsFirst opens)
  | .openRecord => some (.wantsFirstName opens)
  | .text value => some (deliver (closeText value) opens)
  | .leaf value => some (deliver value opens)
  | _ => none

def step : Reader → Token → Option Reader
  | .wantsValue opens, token => beginValue opens token
  | .wantsFirst opens, .closeList => some (deliver (.list []) opens)
  | .wantsFirst opens, token => beginValue (.list [] :: opens) token
  | .afterItem items opens, .comma => some (.wantsValue (.list items :: opens))
  | .afterItem items opens, .closeList => some (deliver (.list items.reverse) opens)
  | .wantsFirstName opens, .closeRecord => some (deliver (.record []) opens)
  | .wantsFirstName opens, .text name => some (.wantsColon [] name opens)
  | .wantsName entries opens, .text name => some (.wantsColon entries name opens)
  | .wantsColon entries name opens, .colon => some (.wantsValue (.record entries name :: opens))
  | .afterEntry entries opens, .comma => some (.wantsName entries opens)
  | .afterEntry entries opens, .closeRecord => some (deliver (closeRecord entries) opens)
  | _, _ => none

def run : Reader → List Token → Option Reader
  | reader, [] => some reader
  | reader, token :: rest => (step reader token).bind fun next => run next rest

def value? : Reader → Option Json
  | .done value => some value
  | _ => none

theorem run_append (reader : Reader) (left right : List Token) :
    run reader (left ++ right) = (run reader left).bind fun next => run next right := by
  induction left generalizing reader with
  | nil => rfl
  | cons token rest ih =>
    simp only [List.cons_append, run]
    cases step reader token <;> simp [ih]

end Reader

/-- The value that a list of lexemes spells. -/
def ofTokens? (tokens : List Token) : Option Json :=
  (Reader.run (.wantsValue []) tokens).bind Reader.value?

/-- The value of a text. -/
def read? (text : String) : Option Json :=
  (Token.scan .between text.toList).bind ofTokens?

end SqlPipeline.Json
