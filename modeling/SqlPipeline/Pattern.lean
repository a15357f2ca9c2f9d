import SqlPipeline.Sorted

/-!
Patterns over names. A star stands for any run of characters within one segment, so it never
takes a dot; every other character stands for itself, and the pattern has to cover the whole name.
-/

namespace SqlPipeline.Pattern

def isWildcard (pattern : String) : Bool := pattern.toList.contains '*'

/-! Matching goes backwards over the pattern. A row says for the name and each of its tails, the
empty one last, whether the pattern read so far covers it. -/

/-- The row of the empty pattern. -/
def emptyRow : List Char → List Bool
  | [] => [true]
  | _ :: rest => false :: emptyRow rest

/-- One more literal character in front of the pattern. -/
def literalRow (literal : Char) : List Char → List Bool → List Bool
  | c :: rest, _ :: row => (c == literal && row.headD false) :: literalRow literal rest row
  | _, _ => [false]

/-- One more star in front of the pattern. -/
def starRow : List Char → List Bool → List Bool
  | c :: rest, here :: row =>
      let later := starRow rest row
      (here || (c != '.' && later.headD false)) :: later
  | _, row => row

def row : List Char → List Char → List Bool
  | [], name => emptyRow name
  | c :: pattern, name =>
      if c = '*' then starRow name (row pattern name) else literalRow c name (row pattern name)

def matchesChars (pattern name : List Char) : Bool := (row pattern name).headD false

def covers (pattern name : String) : Bool := matchesChars pattern.toList name.toList

/-- The names that some pattern matches, sorted and without repetition. -/
def union (patterns names : List String) : List String :=
  Sorted.names (names.filter fun name => patterns.any fun pattern => covers pattern name)

/-- A list of names and patterns with every pattern replaced by what it matches. Names stay whether
or not they are known. -/
def expand (listed known : List String) : List String :=
  Sorted.names
    (listed.filter (fun name => !isWildcard name)
      ++ union (listed.filter isWildcard) known)

theorem matchesChars_nil (name : List Char) : matchesChars [] name = name.isEmpty := by
  cases name <;> rfl

theorem mem_union {name : String} {patterns names : List String} :
    name ∈ union patterns names ↔
      name ∈ names ∧ ∃ pattern ∈ patterns, covers pattern name = true := by
  simp [union, Sorted.mem_names]

end SqlPipeline.Pattern
