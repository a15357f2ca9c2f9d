import SqlPipeline.Sql.Quote
import SqlPipeline.Text.Blank

/-!
Statements as tokens: words, marks, and texts in quotes, with blanks between them. A doubled quote
in a text stands for one, so a text whose quotes were doubled is one token wherever it stands, and
nothing in it counts as part of the statement around it.
-/

namespace SqlPipeline.Sql

inductive Token where
  /-- Letters, digits and underscores. -/
  | word (text : String)
  /-- Any other character. -/
  | mark (c : Char)
  /-- A string literal in single quotes, an identifier in double quotes. -/
  | quoted (quote : Char) (text : String)
  deriving DecidableEq

namespace Token

def literal (text : String) : Token := .quoted '\x27' text

def literal? : Token → Option String
  | .quoted quote text => if quote = '\x27' then some text else none
  | .word _ | .mark _ => none

/-- The token without the text of a literal. -/
def shape (token : Token) : Token := if token.literal?.isSome then literal "" else token

@[simp] theorem literal?_literal (text : String) : (literal text).literal? = some text := rfl

@[simp] theorem shape_literal (text : String) : (literal text).shape = literal "" := rfl

end Token

/-- Where a reader stands, with what it has read of the token it is in. -/
inductive Place where
  | between
  | word (read : List Char)
  | inside (quote : Char) (read : List Char)
  /-- Behind a quote, which closes the text unless it is the first of two. -/
  | closing (quote : Char) (read : List Char)
  deriving DecidableEq

namespace Place

def quotes : List Char := ['\x27', '"']

def isWordChar (c : Char) : Bool := c.isAlphanum || c = '_'

/-- Reads a character that belongs to no token before it. -/
def opened (c : Char) : List Token × Place :=
  if Text.isBlank c then ([], .between)
  else if c ∈ quotes then ([], .inside c [])
  else if isWordChar c then ([], .word [c])
  else ([.mark c], .between)

/-- The tokens that a character completes, and where it leaves the reader. -/
def step (place : Place) (c : Char) : List Token × Place :=
  match place with
  | .between => opened c
  | .word read =>
      if isWordChar c then ([], .word (read ++ [c]))
      else (.word (String.ofList read) :: (opened c).1, (opened c).2)
  | .inside quote read =>
      if c = quote then ([], .closing quote read) else ([], .inside quote (read ++ [c]))
  | .closing quote read =>
      if c = quote then ([], .inside quote (read ++ [c]))
      else (.quoted quote (String.ofList read) :: (opened c).1, (opened c).2)

def run (place : Place) : List Char → List Token × Place
  | [] => ([], place)
  | c :: text =>
      let later := run (place.step c).2 text
      ((place.step c).1 ++ later.1, later.2)

/-- The token that the end of the text completes. A text in quotes has to be closed. -/
def finish? : Place → Option (List Token)
  | .between => some []
  | .word read => some [.word (String.ofList read)]
  | .inside _ _ => none
  | .closing quote read => some [.quoted quote (String.ofList read)]

def tokens? (place : Place) (text : List Char) : Option (List Token) :=
  (place.run text).2.finish?.map ((place.run text).1 ++ ·)

section Reading
variable {place after : Place} {found : List Token} {before text rest : List Char} {quote : Char}

theorem run_append (place : Place) (text rest : List Char) :
    place.run (text ++ rest) =
      ((place.run text).1 ++ ((place.run text).2.run rest).1, ((place.run text).2.run rest).2) := by
  induction text generalizing place with
  | nil => rfl
  | cons c text ih => simp only [List.cons_append, run, ih, List.append_assoc]

theorem tokens?_append (read : place.run text = (found, after)) (rest : List Char) :
    place.tokens? (text ++ rest) = (after.tokens? rest).map (found ++ ·) := by
  simp only [tokens?, run_append, read, Option.map_map, Function.comp_def, List.append_assoc]

-- Nothing that was doubled closes the text.
theorem run_inside (quote : Char) (before text : List Char) :
    (inside quote before).run (text.flatMap fun c => if c = quote then [quote, quote] else [c]) =
      ([], inside quote (before ++ text)) := by
  induction text generalizing before with
  | nil => simp [run]
  | cons c text ih =>
    rw [List.flatMap_cons, run_append]
    by_cases same : c = quote
    · subst same
      simp [run, step, ih]
    · simp [run, step, same, ih]

theorem run_quoted (listed : quote ∈ quotes) (text : List Char) :
    between.run (quote :: text.flatMap (fun c => if c = quote then [quote, quote] else [c])
      ++ [quote]) = ([], closing quote text) := by
  have opens : between.step quote = ([], inside quote []) := by
    have visible : Text.isBlank quote = false := by
      simp only [quotes, List.mem_cons, List.not_mem_nil, or_false] at listed
      rcases listed with rfl | rfl <;> decide
    simp [step, opened, visible, listed]
  rw [run_append, run, opens, run_inside]
  simp [run, step]

theorem tokens?_closing (single : rest.head? ≠ some quote) (text : List Char) :
    (closing quote text).tokens? rest =
      (between.tokens? rest).map (.quoted quote (String.ofList text) :: ·) := by
  cases rest with
  | nil => rfl
  | cons c rest =>
    have other : c ≠ quote := fun same => single (congrArg some same)
    simp [tokens?, run, step, other, Function.comp_def]

end Reading
end Place

/-- The tokens of a statement; none where a text in quotes is not closed. -/
def tokens (statement : String) : Option (List Token) := Place.between.tokens? statement.toList

def literals (found : List Token) : List String := found.filterMap Token.literal?

section Statements
variable {found : List Token} {text rest : String}

theorem tokens_append (read : Place.between.run text.toList = (found, .between)) (rest : String) :
    tokens (text ++ rest) = (tokens rest).map (found ++ ·) := by
  rw [tokens, String.toList_append, Place.tokens?_append read]
  rfl

theorem tokens_literal_append (single : rest.toList.head? ≠ some '\x27') (value : String) :
    tokens ("'" ++ escapeLiteral value ++ "'" ++ rest) =
      (tokens rest).map (.literal value :: ·) := by
  have written : ("'" ++ escapeLiteral value ++ "'").toList =
      '\x27' :: doubleApostrophes value.toList ++ ['\x27'] := by
    rw [String.toList_append, String.toList_append, escapeLiteral]
    exact congrArg (['\x27'] ++ · ++ ['\x27']) String.toList_ofList
  have read := Place.run_quoted (show '\x27' ∈ Place.quotes by decide) value.toList
  rw [tokens, String.toList_append, written]
  rw [doubleApostrophes, Place.tokens?_append read, Place.tokens?_closing single, Option.map_map,
    String.ofList_toList]
  rfl

end Statements

-- A doubled quote stays inside the literal, and so do words and quotes of the other kind.
example : tokens "\"a\" = 'it''s or \"b\"'" =
    some [.quoted '"' "a", .mark '=', .literal "it's or \"b\""] := by decide

example : tokens "a = 'it's'" = none := by decide

end SqlPipeline.Sql
