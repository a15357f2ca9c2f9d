import Mathlib.Data.List.TakeWhile
import Mathlib.Logic.Relation
import SqlPipeline.Proofs.Sql.Quote

/-!
Statements read back. A statement says in its opening what it does, and then to which object: the
first quoted names in it. This is enough to tell what it changes wherever an object is named by its
schema and its name alone. A drop may end in a word that takes along whatever depends on the object;
which objects those are is up to the database.
-/

namespace SqlPipeline.Sql

/-- An object, by its schema and its name. -/
abbrev Object := String × String

/-- What a statement does to an object. -/
inductive Change where
  /-- The object is dropped, with all that depends on it or only by itself. -/
  | drop (object : Object) (cascades : Bool)
  /-- The object is created, replaced or inserted into. -/
  | write (object : Object)
  | rename (object : Object) (name : String)
  deriving DecidableEq

/-- Whether a change drops, creates, renames or inserts into an object, in a database where some
objects depend on others. What depends on an object that is dropped may do so by way of others. -/
def Change.Touches (depends : Object → Object → Prop) (object : Object) : Change → Prop
  | .drop dropped cascades =>
      object = dropped ∨ cascades = true ∧ Relation.TransGen depends object dropped
  | .write written => object = written
  | .rename renamed name => object = renamed ∨ object = (renamed.1, name)

/-! ## Reading -/

/-- The words before the first quoted name, and the text from there on. -/
def words (text : List Char) : String × List Char :=
  (String.ofList (text.takeWhile (· != '"')), text.dropWhile (· != '"'))

/-- The schema and the name of an object, each in quotes, off the front of a text. -/
def readObject (text : List Char) : Option (Object × List Char) :=
  match readIdent text with
  | some (schema, '.' :: rest) =>
      (readIdent rest).map fun read => ((String.ofList schema, String.ofList read.1), read.2)
  | _ => none

/-- How a statement opens that drops an object. -/
def drops : List String := ["drop table if exists ", "drop view if exists "]

/-- How a statement opens that creates, replaces or fills an object. -/
def writes : List String :=
  ["create or replace table ", "create or replace view ", "create table ", "insert into "]

/-- Whether a drop cascades, by all that stands behind the object. -/
def cascades? (tail : List Char) : Option Bool :=
  if tail = [] then some false
  else if tail = " cascade".toList then some true
  else none

/-- The new name of an object, by all that stands behind the old one. -/
def renamed? (tail : List Char) : Option String :=
  let between := words tail
  match readIdent between.2 with
  | some (name, []) => if between.1 = " rename to " then some (String.ofList name) else none
  | _ => none

/-- What a statement changes; none where it does not read as one that drops, creates, renames or
inserts into one object. Queries are not looked into. -/
def changed (statement : String) : Option Change :=
  let opening := words statement.toList
  match readObject opening.2 with
  | none => none
  | some (object, rest) =>
      if opening.1 ∈ drops then (cascades? rest).map (.drop object)
      else if opening.1 ∈ writes then some (.write object)
      else if opening.1 = "alter table " then (renamed? rest).map (.rename object)
      else none

/-- Whether a statement drops, creates, renames or inserts into an object. -/
def Touches (statement : String) (depends : Object → Object → Prop) (object : Object) : Prop :=
  ∃ change, changed statement = some change ∧ change.Touches depends object

/-- A text that is not taken for more of the quoted name before it. -/
def Unquoted (text : String) : Prop := text.toList.head? ≠ some '"'

instance (text : String) : Decidable (Unquoted text) :=
  inferInstanceAs (Decidable (text.toList.head? ≠ some '"'))

theorem Unquoted.append {left right : String} (first : Unquoted left)
    (second : left = "" → Unquoted right) : Unquoted (left ++ right) := by
  unfold Unquoted at *
  rw [String.toList_append, List.head?_append]
  cases opens : left.toList.head? with
  | none =>
    rw [List.head?_eq_none_iff, String.toList_eq_nil_iff] at opens
    exact second opens
  | some c =>
    rw [opens] at first
    exact first

theorem Unquoted.before {left : String} (first : Unquoted left) (some : left ≠ "")
    (right : String) : Unquoted (left ++ right) :=
  first.append fun empty => absurd empty some

section Reading
variable {opening tail : String}

-- Words without quotes end where the first name begins.
theorem words_quoteIdent (plain : '"' ∉ opening.toList) (ident tail : String) :
    words (opening ++ (quoteIdent ident ++ tail)).toList =
      (opening, (quoteIdent ident ++ tail).toList) := by
  have each : ∀ c ∈ opening.toList, (c != '"') = true := by
    intro c member
    exact bne_iff_ne.mpr fun same => plain (same ▸ member)
  rw [words, String.toList_append, List.takeWhile_append_of_pos each,
    List.dropWhile_append_of_pos each]
  simp [toList_quoteIdent]

theorem plain_of_mem (member : opening ∈ drops ++ writes) : '"' ∉ opening.toList := by
  revert opening
  decide

theorem not_mem_drops_of_mem_writes (member : opening ∈ writes) : opening ∉ drops := by
  revert opening
  decide

theorem readObject_path (schema name : String) (follows : Unquoted tail) :
    readObject (quoteIdent schema ++ ("." ++ (quoteIdent name ++ tail))).toList =
      some ((schema, name), tail.toList) := by
  have dotted : ("." ++ (quoteIdent name ++ tail)).toList =
      '.' :: ((quoteIdent name).toList ++ tail.toList) := by
    rw [String.toList_append, String.toList_append]
    rfl
  rw [readObject, String.toList_append, dotted, readIdent_quoteIdent schema (by simp)]
  simp only [readIdent_quoteIdent name follows, Option.map_some, String.ofList_toList]

theorem changed_drop (member : opening ∈ drops) (schema name : String) (cascades : Bool) :
    changed (opening ++ (quoteIdent schema ++ ("." ++ (quoteIdent name ++
      if cascades then " cascade" else "")))) = some (.drop (schema, name) cascades) := by
  have follows : Unquoted (if cascades then " cascade" else "") := by cases cascades <;> decide
  have read : cascades? (if cascades then " cascade" else "").toList = some cascades := by
    cases cascades <;> decide
  rw [changed, words_quoteIdent (plain_of_mem (List.mem_append_left _ member))]
  simp only [readObject_path schema name follows, if_pos member, read, Option.map_some]

theorem changed_write (member : opening ∈ writes) (schema name : String)
    (follows : Unquoted tail) :
    changed (opening ++ (quoteIdent schema ++ ("." ++ (quoteIdent name ++ tail)))) =
      some (.write (schema, name)) := by
  rw [changed, words_quoteIdent (plain_of_mem (List.mem_append_right _ member))]
  simp only [readObject_path schema name follows, if_neg (not_mem_drops_of_mem_writes member),
    if_pos member]

theorem renamed?_quoteIdent (name : String) :
    renamed? (" rename to " ++ (quoteIdent name ++ "")).toList = some name := by
  have plain : '"' ∉ " rename to ".toList := by decide
  have read : readIdent (quoteIdent name ++ "").toList = some (name.toList, []) := by
    rw [String.toList_append]
    exact readIdent_quoteIdent name nofun
  rw [renamed?, words_quoteIdent plain]
  simp only [read, if_true, String.ofList_toList]

theorem changed_rename (schema name renamed : String) :
    changed ("alter table " ++ (quoteIdent schema ++ ("." ++ (quoteIdent name ++
      (" rename to " ++ (quoteIdent renamed ++ "")))))) =
        some (.rename (schema, name) renamed) := by
  have follows : Unquoted (" rename to " ++ (quoteIdent renamed ++ "")) :=
    .before (by decide) (by decide) _
  have drops : "alter table " ∉ drops := by decide
  have writes : "alter table " ∉ writes := by decide
  rw [changed, words_quoteIdent (by decide)]
  simp only [readObject_path schema name follows, if_neg drops, if_neg writes, if_true,
    renamed?_quoteIdent, Option.map_some]

end Reading

-- A name with a quote in it, a query that looks like another statement, and a drop of more than one
-- object.
example : changed "alter table \"a\".\"b\"\"_temp\" rename to \"b\"\"\"" =
    some (.rename ("a", "b\"_temp") "b\"") := by decide

example : changed "create table \"a\".\"b\" as select \"drop\".\"table\" from c" =
    some (.write ("a", "b")) := by decide

example : changed "drop table if exists \"a\".\"b\", \"a\".\"c\"" = none := by decide

end SqlPipeline.Sql
