import SqlPipeline.Proofs.Pattern.Expression
import SqlPipeline.Proofs.Sorted
import SqlPipeline.Proofs.Text.Bytes

/-!
The names of a pattern. A pattern stands for all names that come out when each star is filled in
with some text that has no dot in it. The matcher decides this for every name, however its stars
have to be filled, and a list of patterns picks exactly such names from a list of names.
-/

namespace SqlPipeline.Pattern

/-- The pattern with its stars filled in from left to right. -/
def fillIn : List Char → List (List Char) → List Char
  | [], _ => []
  | c :: pattern, fills =>
      if c = '*' then fills.headD [] ++ fillIn pattern fills.tail else c :: fillIn pattern fills

section Filling
variable {pattern name : List Char}

/-- One text for each star, none of them with a dot. -/
structure Fills (pattern : List Char) (fills : List (List Char)) : Prop where
  length : fills.length = pattern.count '*'
  plain : ∀ fill ∈ fills, '.' ∉ fill

theorem fills_star_iff {fill : List Char} {fills : List (List Char)} :
    Fills ('*' :: pattern) (fill :: fills) ↔ '.' ∉ fill ∧ Fills pattern fills := by
  constructor
  · rintro ⟨length, plain⟩
    rw [List.count_cons_self, List.length_cons, Nat.add_right_cancel_iff] at length
    exact ⟨plain fill List.mem_cons_self, length, fun other member =>
      plain other (List.mem_cons_of_mem fill member)⟩
  · rintro ⟨first, length, plain⟩
    refine ⟨by rw [List.count_cons_self, List.length_cons, length], ?_⟩
    exact List.forall_mem_cons.mpr ⟨first, plain⟩

theorem fills_literal_iff {c : Char} (literal : c ≠ '*') {fills : List (List Char)} :
    Fills (c :: pattern) fills ↔ Fills pattern fills := by
  have count : (c :: pattern).count '*' = pattern.count '*' :=
    List.count_cons_of_ne literal
  exact ⟨fun given => ⟨count ▸ given.length, given.plain⟩,
    fun given => ⟨count.symm ▸ given.length, given.plain⟩⟩

theorem matches_iff_fillIn :
    Matches pattern name ↔ ∃ fills, Fills pattern fills ∧ fillIn pattern fills = name := by
  induction pattern generalizing name with
  | nil =>
    rw [matches_nil_iff]
    constructor
    · rintro rfl
      exact ⟨[], ⟨rfl, nofun⟩, rfl⟩
    · rintro ⟨fills, -, rfl⟩
      rfl
  | cons c pattern ih =>
    by_cases star : c = '*'
    · subst star
      rw [matches_star_iff]
      constructor
      · rintro ⟨taken, later, rfl, plain, rest⟩
        obtain ⟨fills, given, rfl⟩ := ih.mp rest
        exact ⟨taken :: fills, fills_star_iff.mpr ⟨plain, given⟩, rfl⟩
      · rintro ⟨fills, given, rfl⟩
        cases fills with
        | nil =>
          have length := given.length
          simp at length
        | cons fill fills =>
          obtain ⟨plain, given⟩ := fills_star_iff.mp given
          exact ⟨fill, fillIn pattern fills, rfl, plain, ih.mpr ⟨fills, given, rfl⟩⟩
    · rw [matches_literal_iff star]
      constructor
      · rintro ⟨later, rfl, rest⟩
        obtain ⟨fills, given, rfl⟩ := ih.mp rest
        exact ⟨fills, (fills_literal_iff star).mpr given, if_neg star⟩
      · rintro ⟨fills, given, rfl⟩
        refine ⟨fillIn pattern fills, if_neg star, ih.mpr ⟨fills, ?_, rfl⟩⟩
        exact (fills_literal_iff star).mp given

end Filling

theorem pairwise_union (patterns names : List String) : (union patterns names).Pairwise (· < ·) :=
  Sorted.pairwise_names _

section Union
variable {patterns others names more : List String}

-- Only which patterns and which names there are matters.
theorem union_congr (samePatterns : ∀ pattern, pattern ∈ others ↔ pattern ∈ patterns)
    (sameNames : ∀ name, name ∈ more ↔ name ∈ names) : union others more = union patterns names := by
  apply (pairwise_union others more).eq_of_mem_iff (pairwise_union patterns names)
  intro name
  simp only [mem_union, samePatterns, sameNames]

end Union

theorem names_of_patterns :
    (∀ pattern name : String,
      (covers pattern name = true ↔
        ∃ fills : List (List Char), fills.length = pattern.toList.count '*' ∧
          (∀ fill ∈ fills, '.' ∉ fill) ∧ fillIn pattern.toList fills = name.toList) ∧
      ∃ asked, Item.read (expression pattern.toList) = some asked ∧
        (Item.Found asked name.toList ↔ covers pattern name = true)) ∧
    ∀ patterns names : List String,
      (union patterns names).Pairwise
        (fun earlier later => Text.bytes earlier < Text.bytes later) ∧
      (∀ name, name ∈ union patterns names ↔
        name ∈ names ∧ ∃ pattern ∈ patterns, covers pattern name = true) ∧
      ∀ others more, (∀ pattern, pattern ∈ others ↔ pattern ∈ patterns) →
        (∀ name, name ∈ more ↔ name ∈ names) → union others more = union patterns names := by
  refine ⟨fun pattern name => ⟨?_, ?_⟩, fun patterns names => ⟨?_, ?_, ?_⟩⟩
  · rw [covers, matchesChars_iff, matches_iff_fillIn]
    constructor
    · rintro ⟨fills, ⟨length, plain⟩, filled⟩
      exact ⟨fills, length, plain, filled⟩
    · rintro ⟨fills, length, plain, filled⟩
      exact ⟨fills, ⟨length, plain⟩, filled⟩
  · refine ⟨_, read_expression pattern.toList, ?_⟩
    rw [found_iff, covers, matchesChars_iff]
  · exact (pairwise_union patterns names).imp Text.bytes_lt_iff.mpr
  · exact fun name => mem_union
  · exact fun others more => union_congr

-- The first star has to leave off at the second `ab`, and line breaks are taken like anything else.
example : covers "*ab.\n*" "abab.\n\n" = true := by decide

-- The same patterns in another order, one of them twice, and a name twice.
theorem union_of_repeated :
    (∀ pattern, pattern ∈ ["*_1", "a_*", "*_1"] ↔ pattern ∈ ["a_*", "*_1"]) ∧
      (∀ name, name ∈ ["b_1", "b_2", "a.1", "b_1"] ↔ name ∈ ["a.1", "b_1", "b_2"]) ∧
      union ["*_1", "a_*", "*_1"] ["b_1", "b_2", "a.1", "b_1"] =
        union ["a_*", "*_1"] ["a.1", "b_1", "b_2"] := by
  have samePatterns : ∀ pattern, pattern ∈ ["*_1", "a_*", "*_1"] ↔ pattern ∈ ["a_*", "*_1"] := by
    intro pattern
    simp only [List.mem_cons, List.not_mem_nil, or_false]
    tauto
  have sameNames : ∀ name, name ∈ ["b_1", "b_2", "a.1", "b_1"] ↔ name ∈ ["a.1", "b_1", "b_2"] := by
    intro name
    simp only [List.mem_cons, List.not_mem_nil, or_false]
    tauto
  exact ⟨samePatterns, sameNames,
    (names_of_patterns.2 ["a_*", "*_1"] ["a.1", "b_1", "b_2"]).2.2 _ _ samePatterns sameNames⟩

end SqlPipeline.Pattern
