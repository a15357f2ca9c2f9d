import SqlPipeline.Pattern

/-!
What a pattern matches. `Matches` says it star by star; the rows of the matcher hold exactly that
for a name and its tails. Matching is reflexive, a star taking a star like any other character, and
it is transitive: a name that a pattern matches, read as a pattern again, matches nothing new.
-/

namespace SqlPipeline.Pattern

inductive Matches : List Char → List Char → Prop where
  | nil : Matches [] []
  | literal {c : Char} {pattern name : List Char} (plain : c ≠ '*') (rest : Matches pattern name) :
      Matches (c :: pattern) (c :: name)
  | stop {pattern name : List Char} (rest : Matches pattern name) : Matches ('*' :: pattern) name
  | take {c : Char} {pattern name : List Char} (inside : c ≠ '.')
      (rest : Matches ('*' :: pattern) name) : Matches ('*' :: pattern) (c :: name)

/-! ## The rows -/

-- The row of a name is its own answer before the row of its tail, however long the pattern is.
theorem row_cons (pattern : List Char) (c : Char) (rest : List Char) :
    row pattern (c :: rest) = matchesChars pattern (c :: rest) :: row pattern rest := by
  induction pattern generalizing c rest with
  | nil => rfl
  | cons first pattern ih =>
    unfold matchesChars
    simp only [row]
    split
    · rw [ih]
      rfl
    · rw [ih]
      rfl

theorem row_nil (pattern : List Char) : row pattern [] = [matchesChars pattern []] := by
  induction pattern with
  | nil => rfl
  | cons first pattern ih =>
    unfold matchesChars
    simp only [row]
    split
    · rw [ih]
      rfl
    · rfl

section Matching
variable {pattern name : List Char} {c literal : Char}

theorem matchesChars_star_nil : matchesChars ('*' :: pattern) [] = matchesChars pattern [] := by
  rw [matchesChars, row, if_pos rfl, row_nil]
  rfl

theorem matchesChars_star_cons :
    matchesChars ('*' :: pattern) (c :: name) =
      (matchesChars pattern (c :: name) || (c != '.' && matchesChars ('*' :: pattern) name)) := by
  rw [matchesChars, row, if_pos rfl, row_cons]
  rw [matchesChars.eq_1 ('*' :: pattern), row, if_pos rfl]
  rfl

theorem matchesChars_literal_nil (plain : literal ≠ '*') :
    matchesChars (literal :: pattern) [] = false := by
  rw [matchesChars, row, if_neg plain]
  rfl

theorem matchesChars_literal_cons (plain : literal ≠ '*') :
    matchesChars (literal :: pattern) (c :: name) =
      (c == literal && matchesChars pattern name) := by
  rw [matchesChars, row, if_neg plain, row_cons]
  rfl

theorem matchesChars_iff : matchesChars pattern name = true ↔ Matches pattern name := by
  induction pattern generalizing name with
  | nil =>
    rw [matchesChars_nil, List.isEmpty_iff]
    constructor
    · rintro rfl
      exact .nil
    · rintro ⟨⟩
      rfl
  | cons literal pattern ih =>
    by_cases star : literal = '*'
    · subst star
      -- A star stays in front while it takes characters, so the name is what gets shorter.
      induction name with
      | nil =>
        rw [matchesChars_star_nil, ih]
        constructor
        · exact .stop
        · rintro (_ | _ | rest)
          exact rest
      | cons c name later =>
        rw [matchesChars_star_cons, Bool.or_eq_true, Bool.and_eq_true, ih, later, bne_iff_ne]
        constructor
        · rintro (rest | ⟨inside, rest⟩)
          · exact .stop rest
          · exact .take inside rest
        · intro found
          cases found with
          | literal plain => exact absurd rfl plain
          | stop rest => exact Or.inl rest
          | take inside rest => exact Or.inr ⟨inside, rest⟩
    · cases name with
      | nil =>
        rw [matchesChars_literal_nil star]
        constructor
        · intro absurdity
          cases absurdity
        · intro found
          cases found
          exact absurd rfl star
      | cons c name =>
        rw [matchesChars_literal_cons star, Bool.and_eq_true, beq_iff_eq, ih]
        constructor
        · rintro ⟨rfl, rest⟩
          exact .literal star rest
        · intro found
          cases found with
          | literal _ rest => exact ⟨rfl, rest⟩
          | stop => exact absurd rfl star
          | take => exact absurd rfl star

end Matching

/-! ## The order of patterns -/

theorem Matches.refl (pattern : List Char) : Matches pattern pattern := by
  induction pattern with
  | nil => exact .nil
  | cons c pattern ih =>
    by_cases star : c = '*'
    · subst star
      exact .take (by decide) (.stop ih)
    · exact .literal star ih

-- A star takes over from a star: what the inner one took, the outer one can take as well.
theorem Matches.absorb {pattern inner name : List Char}
    (covers : ∀ other, Matches inner other → Matches ('*' :: pattern) other)
    (found : Matches ('*' :: inner) name) : Matches ('*' :: pattern) name := by
  induction name with
  | nil =>
    cases found with
    | stop rest => exact covers [] rest
  | cons c name ih =>
    cases found with
    | literal plain => exact absurd rfl plain
    | stop rest => exact covers _ rest
    | take inside rest => exact .take inside (ih rest)

theorem Matches.trans {pattern middle name : List Char} (first : Matches pattern middle)
    (second : Matches middle name) : Matches pattern name := by
  induction first generalizing name with
  | nil => exact second
  | literal plain _ ih =>
    cases second with
    | literal _ rest => exact .literal plain (ih rest)
    | stop => exact absurd rfl plain
    | take => exact absurd rfl plain
  | stop _ ih => exact .stop (ih second)
  | @take c pattern middle inside _ ih =>
    by_cases star : c = '*'
    · subst star
      exact Matches.absorb (fun _ found => ih found) second
    · cases second with
      | literal _ rest => exact .take inside (ih rest)
      | stop => exact absurd rfl star
      | take => exact absurd rfl star

theorem covers_refl (name : String) : covers name name = true :=
  matchesChars_iff.mpr (Matches.refl name.toList)

theorem covers_trans {pattern middle name : String} (first : covers pattern middle = true)
    (second : covers middle name = true) : covers pattern name = true :=
  matchesChars_iff.mpr ((matchesChars_iff.mp first).trans (matchesChars_iff.mp second))

end SqlPipeline.Pattern
