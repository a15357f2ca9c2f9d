import SqlPipeline.Proofs.Pattern.Match

/-!
Patterns as regular expressions. A pattern can be handed to an engine that knows regular expressions
and no patterns: a star becomes a run of characters that are no dots, every other character is
escaped where it would mean something, and both ends are anchored. The part of the syntax that this
takes is read here as an engine reads it. A search for the expression then succeeds in a name
exactly if the pattern matches the name.
-/

namespace SqlPipeline.Pattern

/-! ## Matching, character by character -/

section Matching
variable {pattern name : List Char} {c : Char}

theorem matches_nil_iff : Matches [] name ↔ name = [] := by
  constructor
  · rintro ⟨⟩
    rfl
  · rintro rfl
    exact .nil

theorem matches_literal_iff (plain : c ≠ '*') :
    Matches (c :: pattern) name ↔ ∃ later, name = c :: later ∧ Matches pattern later := by
  constructor
  · intro found
    cases found with
    | literal _ rest => exact ⟨_, rfl, rest⟩
    | stop => exact absurd rfl plain
    | take => exact absurd rfl plain
  · rintro ⟨later, rfl, rest⟩
    exact .literal plain rest

theorem Matches.run {taken later : List Char} (inside : '.' ∉ taken)
    (rest : Matches pattern later) : Matches ('*' :: pattern) (taken ++ later) := by
  induction taken with
  | nil => exact .stop rest
  | cons c taken ih =>
    rw [List.mem_cons, not_or] at inside
    exact .take (Ne.symm inside.1) (ih inside.2)

-- A star takes some characters in one go and leaves the rest to the rest of the pattern.
theorem matches_star_iff :
    Matches ('*' :: pattern) name ↔
      ∃ taken later, name = taken ++ later ∧ '.' ∉ taken ∧ Matches pattern later := by
  constructor
  · intro found
    induction name with
    | nil =>
      cases found with
      | stop rest => exact ⟨[], [], rfl, List.not_mem_nil, rest⟩
    | cons c name ih =>
      cases found with
      | literal plain => exact absurd rfl plain
      | stop rest => exact ⟨[], c :: name, rfl, List.not_mem_nil, rest⟩
      | take inside more =>
        obtain ⟨taken, later, rfl, plain, rest⟩ := ih more
        refine ⟨c :: taken, later, rfl, ?_, rest⟩
        rw [List.mem_cons, not_or]
        exact ⟨Ne.symm inside, plain⟩
  · rintro ⟨taken, later, rfl, inside, rest⟩
    exact rest.run inside

end Matching

/-! ## Regular expressions -/

/-- What a regular expression asks for, one thing after the other. -/
inductive Item where
  | start
  | finish
  | literal (c : Char)
  /-- Any number of characters, none of them a dot. -/
  | segment

namespace Item

/-- The characters that mean something unless a backslash stands before them. -/
def special : List Char := "\\.+*?()|[]\x7b\x7d^$#&-~".toList

/-- What the text of an expression asks for. Expressions of other kinds are not read. -/
def read : List Char → Option (List Item)
  | [] => some []
  | '^' :: rest => (read rest).map (.start :: ·)
  | '$' :: rest => (read rest).map (.finish :: ·)
  | '[' :: '^' :: '.' :: ']' :: '*' :: rest => (read rest).map (.segment :: ·)
  | '\\' :: c :: rest => if c ∈ special then (read rest).map (.literal c :: ·) else none
  | c :: rest => if c ∈ special then none else (read rest).map (.literal c :: ·)

/-- Whether a text goes on as the items ask, after the characters that are left behind. -/
def Holds : List Item → List Char → List Char → Prop
  | [], _, _ => True
  | .start :: items, behind, ahead => behind = [] ∧ Holds items behind ahead
  | .finish :: items, behind, ahead => ahead = [] ∧ Holds items behind ahead
  | .literal c :: items, behind, ahead =>
      ∃ later, ahead = c :: later ∧ Holds items (behind ++ [c]) later
  | .segment :: items, behind, ahead =>
      ∃ taken later, ahead = taken ++ later ∧ '.' ∉ taken ∧ Holds items (behind ++ taken) later

/-- A search begins anywhere in a text and ends anywhere. -/
def Found (items : List Item) (text : List Char) : Prop :=
  ∃ behind ahead, text = behind ++ ahead ∧ Holds items behind ahead

end Item

/-! ## The expression of a pattern -/

/-- The text with a backslash before every character that means something. -/
def escaped (text : List Char) : List Char :=
  text.flatMap fun c => if c ∈ Item.special then ['\\', c] else [c]

/-- The pieces between the stars, escaped, with a segment for each star. -/
def body (pattern : List Char) : List Char :=
  "[^.]*".toList.intercalate ((pattern.splitOn '*').map escaped)

/-- The whole text has to match, from its start to its end. -/
def expression (pattern : List Char) : List Char := '^' :: body pattern ++ ['$']

/-- What the expression of a pattern asks for between its two ends. -/
def items (pattern : List Char) : List Item :=
  pattern.map fun c => if c = '*' then .segment else .literal c

section Reading
variable {c : Char}

theorem Item.read_special (special : c ∈ Item.special) (rest : List Char) :
    read ('\\' :: c :: rest) = (read rest).map (.literal c :: ·) := by
  rw [read, if_pos special]

theorem Item.read_plain (plain : c ∉ Item.special) (rest : List Char) :
    read (c :: rest) = (read rest).map (.literal c :: ·) := by
  have other {d : Char} (special : d ∈ Item.special) : c ≠ d := fun same => plain (same ▸ special)
  rw [read, if_neg plain]
  · exact other (by decide)
  · exact other (by decide)
  · exact fun _ bracket => absurd bracket (other (by decide))
  · exact fun _ _ backslash => absurd backslash (other (by decide))

-- Escaping keeps the meaning of a character, whatever it is.
theorem Item.read_escaped (c : Char) (rest : List Char) :
    read (escaped [c] ++ rest) = (read rest).map (.literal c :: ·) := by
  by_cases special : c ∈ Item.special
  · simp [escaped, special, read_special]
  · simp [escaped, special, read_plain]

theorem Item.read_segment (rest : List Char) :
    read ("[^.]*".toList ++ rest) = (read rest).map (.segment :: ·) := rfl

theorem Item.read_finish : read ['$'] = some [.finish] := rfl

end Reading

theorem body_star (pattern : List Char) :
    body ('*' :: pattern) = "[^.]*".toList ++ body pattern := by
  have some : (pattern.splitOn '*').map escaped ≠ [] := by simp
  rw [body, List.splitOn_cons_eq_if_modifyHead, if_pos (beq_self_eq_true _), List.map_cons,
    List.intercalate_cons_of_ne_nil some]
  rfl

theorem body_literal {c : Char} (plain : c ≠ '*') (pattern : List Char) :
    body (c :: pattern) = escaped [c] ++ body pattern := by
  obtain ⟨piece, pieces, split⟩ := List.exists_cons_of_ne_nil (List.splitOn_ne_nil '*' pattern)
  have first : escaped (c :: piece) = escaped [c] ++ escaped piece := by
    simp [escaped]
  rw [body, body, List.splitOn_cons_eq_if_modifyHead, if_neg (by simpa using plain), split,
    List.modifyHead_cons, List.map_cons, List.map_cons, first]
  cases pieces with
  | nil => rw [List.map_nil, List.intercalate_singleton, List.intercalate_singleton]
  | cons next pieces =>
    rw [List.map_cons, List.intercalate_cons_cons, List.intercalate_cons_cons,
      List.append_assoc, List.append_assoc, List.append_assoc]

theorem read_body (pattern : List Char) (rest : List Char) :
    Item.read (body pattern ++ rest) = (Item.read rest).map (items pattern ++ ·) := by
  induction pattern with
  | nil => exact Option.map_id.symm ▸ rfl
  | cons c pattern ih =>
    by_cases star : c = '*'
    · subst star
      rw [body_star, List.append_assoc, Item.read_segment, ih, Option.map_map]
      rfl
    · have asked : items (c :: pattern) = .literal c :: items pattern := by
        rw [items, List.map_cons, if_neg star]
        rfl
      rw [body_literal star, List.append_assoc, Item.read_escaped, ih, Option.map_map, asked]
      rfl

theorem read_expression (pattern : List Char) :
    Item.read (expression pattern) = some (.start :: items pattern ++ [.finish]) := by
  change (Item.read (body pattern ++ ['$'])).map (.start :: ·) = _
  rw [read_body, Item.read_finish]
  rfl

theorem holds_items_iff {pattern : List Char} (behind name : List Char) :
    Item.Holds (items pattern ++ [.finish]) behind name ↔ Matches pattern name := by
  induction pattern generalizing behind name with
  | nil => exact (and_iff_left trivial).trans matches_nil_iff.symm
  | cons c pattern ih =>
    by_cases star : c = '*'
    · subst star
      rw [matches_star_iff]
      change (∃ taken later, name = taken ++ later ∧ '.' ∉ taken ∧
        Item.Holds (items pattern ++ [.finish]) (behind ++ taken) later) ↔ _
      simp only [ih]
    · rw [matches_literal_iff star, items, List.map_cons, if_neg star]
      change (∃ later, name = c :: later ∧
        Item.Holds (items pattern ++ [.finish]) (behind ++ [c]) later) ↔ _
      simp only [ih]

theorem found_iff {pattern name : List Char} :
    Item.Found (.start :: items pattern ++ [.finish]) name ↔ Matches pattern name := by
  constructor
  · rintro ⟨behind, ahead, rfl, start, holds⟩
    rw [start]
    exact (holds_items_iff behind ahead).mp holds
  · intro found
    exact ⟨[], name, rfl, rfl, (holds_items_iff [] name).mpr found⟩

end SqlPipeline.Pattern
