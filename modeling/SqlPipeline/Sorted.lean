/-!
Lists kept in strictly increasing order of a text key, code point by code point. Records enter
one at a time: `enter` keeps the record that came first under a key, `put` the one that came
last. Sets of names are the case in which a record is its own key.
-/

namespace SqlPipeline.Sorted

variable {Record Value : Type}

/-- Adds a record at its place; where its key is taken the list stays as it is. -/
def enter (key : Record → String) (record : Record) : List Record → List Record
  | [] => [record]
  | first :: rest =>
      if key record < key first then record :: first :: rest
      else if key record = key first then first :: rest
      else first :: enter key record rest

/-- Stores a value under a name; a value stored there before is replaced. -/
def put (name : String) (value : Value) : List (String × Value) → List (String × Value)
  | [] => [(name, value)]
  | first :: rest =>
      if name < first.1 then (name, value) :: first :: rest
      else if name = first.1 then (name, value) :: rest
      else first :: put name value rest

/-- The distinct names of a list in order. -/
def names (listed : List String) : List String :=
  listed.foldr (enter id) []

/-- The entries by name, the last one of a repeated name standing. -/
def entries (listed : List (String × Value)) : List (String × Value) :=
  listed.foldl (fun kept entry => put entry.1 entry.2 kept) []

theorem mem_enter_id (name other : String) (kept : List String) :
    other ∈ enter id name kept ↔ other = name ∨ other ∈ kept := by
  induction kept with
  | nil => simp [enter]
  | cons first rest ih =>
    simp only [enter, id]
    split
    · simp
    · split
      · rename_i same
        subst same
        simp
      · simp only [List.mem_cons, ih]
        constructor
        · rintro (h | h | h) <;> simp [h]
        · rintro (h | h | h) <;> simp [h]

-- Sorting a list into a set of names keeps exactly its members.
theorem mem_names (name : String) (listed : List String) :
    name ∈ names listed ↔ name ∈ listed := by
  induction listed with
  | nil => simp [names]
  | cons first rest ih =>
    have step := mem_enter_id first name (names rest)
    simp only [names, List.foldr_cons] at step ih ⊢
    rw [step, ih, List.mem_cons]

end SqlPipeline.Sorted
