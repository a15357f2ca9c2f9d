import Mathlib.Data.List.Basic
import SqlPipeline.Document
import SqlPipeline.Proofs.Json.Lexemes
import SqlPipeline.Proofs.Sorted

/-!
Records written as JSON and read again. A record writes its fields in the order of its names and
may leave some out, so no name stands twice and none is unknown: what is read is all that was
written. A field that was left out reads as the value it was left out for.
-/

namespace SqlPipeline

open Document

variable {α : Type}

namespace Json

/-! ## What is written -/

theorem Plain.listed {write : α → Json} (plain : ∀ value, (write value).Plain) (values : List α) :
    (Json.list (values.map write)).Plain := by
  apply Plain.list
  intro item member
  obtain ⟨value, _, rfl⟩ := List.mem_map.mp member
  exact plain value

theorem Plain.dictionary (entries : List (String × String)) : (Json.dictionary entries).Plain := by
  apply Plain.record
  intro entry member
  obtain ⟨kept, _, rfl⟩ := List.mem_map.mp member
  exact Plain.text kept.2

/-- Fields under some of the names, in their order, that hold no numbers. -/
inductive Fields : List String → List (String × Json) → Prop where
  | nil : Fields [] []
  | field {name : String} {value : Json} {names : List String} {entries : List (String × Json)}
      (plain : value.Plain) (rest : Fields names entries) :
      Fields (name :: names) ((name, value) :: entries)
  | leftOut {name : String} {names : List String} {entries : List (String × Json)}
      (rest : Fields names entries) : Fields (name :: names) entries

namespace Fields
variable {name : String} {names : List String} {entries : List (String × Json)}

theorem given {write : α → Json} {value : Option α} (plain : ∀ value, (write value).Plain)
    (rest : Fields names entries) :
    Fields (name :: names) (Json.given name write value ++ entries) := by
  cases value with
  | none => exact leftOut rest
  | some value => exact field (plain value) rest

theorem filled {values : List String} (rest : Fields names entries) :
    Fields (name :: names) (Json.filled name values ++ entries) := by
  cases values with
  | nil => exact leftOut rest
  | cons first values => exact field (Plain.listed Plain.text (first :: values)) rest

-- Nothing comes after the last field.
theorem lastGiven {write : α → Json} {value : Option α} (plain : ∀ value, (write value).Plain) :
    Fields [name] (Json.given name write value) := by
  rw [← List.append_nil (Json.given name write value)]
  exact given plain nil

theorem lastFilled {values : List String} : Fields [name] (Json.filled name values) := by
  rw [← List.append_nil (Json.filled name values)]
  exact filled nil

theorem plain (fields : Fields names entries) : (Json.record entries).Plain := by
  apply Plain.record
  induction fields with
  | nil => exact fun entry member => by cases member
  | field plain rest ih => exact List.forall_mem_cons.mpr ⟨plain, ih⟩
  | leftOut rest ih => exact ih

theorem sublist (fields : Fields names entries) : (entries.map Prod.fst).Sublist names := by
  induction fields with
  | nil => exact List.Sublist.refl []
  | field plain rest ih => exact ih.cons_cons _
  | leftOut rest ih => exact ih.cons _

end Fields

/-- A record of such fields. -/
inductive Written (names : List String) : Json → Prop where
  | record {entries : List (String × Json)} (fields : Fields names entries) :
      Written names (.record entries)

theorem Written.plain {names : List String} {value : Json} (written : Written names value) :
    value.Plain := by
  cases written with
  | record fields => exact fields.plain

-- Strict or not, a reader that knows the names takes every field.
theorem Written.fields? {names : List String} {value : Json} (written : Written names value)
    (distinct : names.Nodup) (unknown : Unknown) :
    Document.fields? unknown names value = value.asRecord? := by
  cases written with
  | @record entries fields =>
    have known : entries.filter (fun entry => names.contains entry.1) = entries := by
      apply List.filter_eq_self.mpr
      intro entry member
      exact List.contains_iff_mem.mpr (fields.sublist.mem (List.mem_map_of_mem member))
    have apart : (entries.map Prod.fst).Nodup := fields.sublist.nodup distinct
    have stored : entries? (Json.record entries) = some entries := rfl
    simp only [Document.fields?, stored, known]
    exact if_pos ⟨apart, Or.inr trivial⟩

end Json

/-! ## What is read -/

namespace Document
open Json

@[simp] theorem text?_text (value : String) : text? (Json.text value) = some value := rfl

@[simp] theorem flag?_bool (value : Bool) : flag? (Json.bool value) = some value := rfl

@[simp] theorem lookup_given (name other : String) (write : α → Json) (value : Option α) :
    (given other write value).lookup name = if name = other then value.map write else none := by
  cases value with
  | none => simp [given]
  | some value =>
    by_cases same : name = other
    · simp [given, same]
    · simp [given, List.lookup_cons, beq_false_of_ne same, same]

@[simp] theorem lookup_filled (name other : String) (values : List String) :
    (filled other values).lookup name =
      if name = other then if values = [] then none else some (texts values) else none := by
  cases values with
  | nil => simp [filled]
  | cons first values =>
    by_cases same : name = other
    · simp [filled, same]
    · simp [filled, List.lookup_cons, beq_false_of_ne same, same]

theorem list?_map {read : Json → Option α} {write : α → Json} {kept : α → α}
    (reads : ∀ value, read (write value) = some (kept value)) (values : List α) :
    list? read (Json.list (values.map write)) = some (values.map kept) := by
  have each : (values.map write).mapM read = some (values.map kept) := by
    induction values with
    | nil => rfl
    | cons value values ih => simp [reads, ih]
  exact each

@[simp] theorem list?_list {read : Json → Option α} {write : α → Json}
    (reads : ∀ value, read (write value) = some value) (values : List α) :
    list? read (Json.list (values.map write)) = some values := by
  rw [@list?_map α read write id reads, List.map_id]

@[simp] theorem texts?_texts (values : List String) : texts? (Json.texts values) = some values :=
  list?_list text?_text values

@[simp] theorem dictionary?_dictionary (entries : List (String × String)) :
    dictionary? (Json.dictionary entries) = some (Sorted.entries entries) := by
  have stored : (entries.map fun entry => (entry.1, Json.text entry.2)).mapM
      (fun entry => (text? entry.2).map fun value => (entry.1, value)) = some entries := by
    induction entries with
    | nil => rfl
    | cons entry entries ih => simp [ih]
  have opened : entries? (Json.dictionary entries) =
      some (entries.map fun entry => (entry.1, Json.text entry.2)) := rfl
  rw [dictionary?, opened, Option.bind_some, stored, Option.map_some]

/-- A field read from what is stored under its name, if anything is. -/
def readOr (missing : Option α) (read : Json → Option α) : Option Json → Option α
  | some value => read value
  | none => missing

/-- A value that may be null. -/
def readPresent (read : Json → Option α) (value : Json) : Option (Option α) :=
  if value.isNull then some none else (read value).map some

section Read
variable {read : Json → Option α} (name : String) (fields : List (String × Json))

theorem required?_eq : required? read name fields = readOr none read (fields.lookup name) := by
  rw [required?]
  cases fields.lookup name <;> rfl

theorem defaulted?_eq (fallback : α) :
    defaulted? fallback read name fields =
      readOr (some fallback) read (fields.lookup name) := by
  rw [defaulted?]
  cases fields.lookup name <;> rfl

theorem optional?_eq :
    optional? read name fields =
      readOr (some none) (readPresent read) (fields.lookup name) := by
  rw [optional?, defaulted?_eq]
  rfl

end Read

@[simp] theorem readOr_some (missing : Option α) (read : Json → Option α) (value : Json) :
    readOr missing read (some value) = read value := rfl

@[simp] theorem readOr_none (missing : Option α) (read : Json → Option α) :
    readOr missing read none = missing := rfl

-- A list that is left out is empty.
@[simp] theorem readOr_filled (values : List String) :
    readOr (some []) texts? (if values = [] then none else some (texts values)) = some values := by
  cases values with
  | nil => rfl
  | cons first values => exact texts?_texts (first :: values)

theorem readOr_given {read : Json → Option α} {write : α → Json}
    (reads : ∀ value, read (write value) = some value)
    (present : ∀ value, (write value).isNull = false) (value : Option α) :
    readOr (some none) (readPresent read) (value.map write) = some value := by
  cases value with
  | none => rfl
  | some value => simp [readPresent, present, reads]

@[simp] theorem readOr_text (value : Option String) :
    readOr (some none) (readPresent text?) (value.map .text) = some value :=
  readOr_given text?_text (fun _ => rfl) value

end Document
end SqlPipeline
