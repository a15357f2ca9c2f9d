import Mathlib.Data.List.Infix
import SqlPipeline.Proofs.Text.Trim
import SqlPipeline.Sql.Statement

/-!
Joined conditions read back as the predicates they were made from. The reader parts a condition at
every ` and ` outside all parentheses. It does not stop at one inside a predicate, since every
predicate was put in parentheses, and no parenthesis within the predicate closes them.
-/

namespace SqlPipeline.Sql

/-! ## Parentheses -/

/-- No prefix closes more than it opened, and the whole closes all that it opened. -/
def Balanced (text : List Char) : Prop :=
  (∀ before, before <+: text → before.count ')' ≤ before.count '(') ∧
    text.count ')' = text.count '('

instance (text : List Char) : Decidable (Balanced text) :=
  decidable_of_iff
    ((∀ before ∈ text.inits, before.count ')' ≤ before.count '(') ∧
      text.count ')' = text.count '(')
    (by simp only [Balanced, List.mem_inits])

/-- How many parentheses stand open behind a character. One that closes nothing is passed over. -/
def openBehind (depth : Nat) (c : Char) : Nat :=
  if c = '(' then depth + 1 else if c = ')' then depth - 1 else depth

/-- Never back outside: each prefix leaves one of the parentheses open. -/
def Inside (depth : Nat) (text : List Char) : Prop :=
  ∀ before, before <+: text → before.count ')' < depth + before.count '('

section Parentheses
variable {depth : Nat} {c : Char} {text : List Char}

theorem Inside.positive (inside : Inside depth text) : 0 < depth := by
  simpa using inside [] List.nil_prefix

-- Without the bound a closing parenthesis would count although it closes nothing.
theorem openBehind_add_count (positive : 0 < depth) (c : Char) (text : List Char) :
    openBehind depth c + (text.count '(' + (c :: text).count ')') =
      depth + (text.count ')' + (c :: text).count '(') := by
  unfold openBehind
  by_cases opens : c = '('
  · subst opens
    rw [if_pos rfl, List.count_cons_self, List.count_cons_of_ne (by decide)]
    omega
  · rw [if_neg opens, List.count_cons_of_ne opens]
    by_cases closes : c = ')'
    · subst closes
      rw [if_pos rfl, List.count_cons_self]
      omega
    · rw [if_neg closes, List.count_cons_of_ne closes]
      omega

theorem Inside.tail (inside : Inside depth (c :: text)) : Inside (openBehind depth c) text := by
  intro before isPrefix
  have bound := inside (c :: before) ((List.prefix_cons_inj c).mpr isPrefix)
  have counted := openBehind_add_count inside.positive c before
  omega

theorem foldl_openBehind (inside : Inside depth text) :
    text.foldl openBehind depth + text.count ')' = depth + text.count '(' := by
  induction text generalizing depth with
  | nil => rfl
  | cons c text ih =>
    have later := ih inside.tail
    have counted := openBehind_add_count inside.positive c text
    rw [List.foldl_cons]
    omega

theorem Balanced.inside (balanced : Balanced text) : Inside 1 text := fun before isPrefix =>
  Nat.lt_one_add_iff.mpr (balanced.1 before isPrefix)

theorem Balanced.foldl_openBehind (balanced : Balanced text) : text.foldl openBehind 1 = 1 := by
  have counted := Sql.foldl_openBehind balanced.inside
  rw [balanced.2] at counted
  exact Nat.add_right_cancel counted

-- Blanks are no parentheses, so every prefix of what is kept counts as the prefix of the text that
-- ends with it.
theorem Balanced.trimChars (balanced : Balanced text) : Balanced (Text.trimChars text) := by
  obtain ⟨_, before, after, front, back, split⟩ :=
    Text.trimChars_eq_iff.mp (Eq.refl (Text.trimChars text))
  have opened {blanks : List Char} (all : Text.Blanks blanks) : blanks.count '(' = 0 :=
    all.count_eq_zero (by decide)
  have closed {blanks : List Char} (all : Text.Blanks blanks) : blanks.count ')' = 0 :=
    all.count_eq_zero (by decide)
  obtain ⟨prefixes, whole⟩ := balanced
  refine ⟨fun kept isPrefix => ?_, ?_⟩
  · have longer : before ++ kept <+: text := by
      rw [split]
      exact ((List.prefix_append_right_inj before).mpr isPrefix).trans (List.prefix_append _ after)
    simpa [opened front, closed front] using prefixes _ longer
  · rw [split] at whole
    simpa [opened front, closed front, opened back, closed back] using whole

end Parentheses

/-! ## Reading -/

/-- The parts of a condition, by how many parentheses stand open and what was read of the first
part. -/
def partsFrom : Nat → List Char → List Char → List (List Char)
  | _, read, [] => [read]
  | 0, read, ' ' :: 'a' :: 'n' :: 'd' :: ' ' :: rest => read :: partsFrom 0 [] rest
  | depth, read, c :: rest => partsFrom (openBehind depth c) (read ++ [c]) rest

/-- Parts a condition at every ` and ` outside all parentheses. -/
def conjuncts (condition : String) : List String :=
  (partsFrom 0 [] condition.toList).map String.ofList

def enclosed (predicate : String) : String := "(" ++ predicate ++ ")"

section Reading
variable {depth : Nat} {read text rest : List Char} {predicate : String}

theorem partsFrom_of_pos (positive : 0 < depth) (c : Char) :
    partsFrom depth read (c :: rest) = partsFrom (openBehind depth c) (read ++ [c]) rest := by
  rw [partsFrom]
  rintro _ rfl
  exact absurd positive (Nat.lt_irrefl 0)

theorem partsFrom_opening : partsFrom 0 read ('(' :: rest) = partsFrom 1 (read ++ ['(']) rest := by
  rw [partsFrom]
  · rfl
  · simp

theorem partsFrom_closing : partsFrom 1 read (')' :: rest) = partsFrom 0 (read ++ [')']) rest :=
  partsFrom_of_pos Nat.one_pos ')'

theorem partsFrom_inside (inside : Inside depth text) :
    partsFrom depth read (text ++ rest) =
      partsFrom (text.foldl openBehind depth) (read ++ text) rest := by
  induction text generalizing depth read with
  | nil => simp
  | cons c text ih =>
    rw [List.cons_append, partsFrom_of_pos inside.positive, ih inside.tail, List.foldl_cons,
      List.append_assoc]
    rfl

theorem partsFrom_enclosed (balanced : Balanced predicate.toList) (rest : List Char) :
    partsFrom 0 [] ((enclosed predicate).toList ++ rest) =
      partsFrom 0 (enclosed predicate).toList rest := by
  have written : (enclosed predicate).toList = '(' :: (predicate.toList ++ [')']) := by
    simp [enclosed]
  rw [written, List.cons_append, List.append_assoc, List.singleton_append, partsFrom_opening,
    partsFrom_inside balanced.inside, balanced.foldl_openBehind, partsFrom_closing]
  rfl

theorem conjuncts_enclosed (balanced : Balanced predicate.toList) :
    conjuncts (enclosed predicate) = [enclosed predicate] := by
  have parts := partsFrom_enclosed balanced []
  rw [List.append_nil] at parts
  rw [conjuncts, parts, partsFrom, List.map_singleton, String.ofList_toList]

theorem conjuncts_enclosed_and (balanced : Balanced predicate.toList) (condition : String) :
    conjuncts (enclosed predicate ++ " and " ++ condition) =
      enclosed predicate :: conjuncts condition := by
  have ends : partsFrom 0 (enclosed predicate).toList (" and " ++ condition).toList =
      (enclosed predicate).toList :: partsFrom 0 [] condition.toList := by
    rw [String.toList_append]
    rfl
  rw [conjuncts, String.append_assoc, String.toList_append, partsFrom_enclosed balanced, ends,
    List.map_cons, String.ofList_toList, conjuncts]

theorem conjuncts_intercalate {predicates : List String} (some : predicates ≠ [])
    (balanced : ∀ predicate ∈ predicates, Balanced predicate.toList) :
    conjuncts (" and ".intercalate (predicates.map enclosed)) = predicates.map enclosed := by
  induction predicates with
  | nil => exact absurd rfl some
  | cons predicate predicates ih =>
    obtain ⟨first, later⟩ := List.forall_mem_cons.mp balanced
    by_cases more : predicates = []
    · subst more
      rw [List.map_singleton, String.intercalate_singleton, conjuncts_enclosed first]
    · rw [List.map_cons, String.intercalate_cons_of_ne_nil (by simpa using more),
        conjuncts_enclosed_and first, ih more later]

end Reading

/-! ## Restricted queries -/

section Queries
variable {query : String} {predicates : List String}

theorem conditions_eq (predicates : List String) :
    conditions predicates =
      ((predicates.filter fun predicate => ¬ Text.Blanks predicate.toList).map Text.trim).map
        enclosed := by
  have kept : (fun predicate => predicate != "") ∘ Text.trim =
      fun predicate => decide (¬ Text.Blanks predicate.toList) := by
    funext predicate
    rw [Function.comp_apply, Bool.eq_iff_iff, bne_iff_ne, decide_eq_true_iff, ne_eq,
      Text.trim_eq_empty_iff]
  rw [conditions, List.filter_map, kept]
  rfl

theorem conditions_eq_nil_iff :
    conditions predicates = [] ↔ ∀ predicate ∈ predicates, Text.Blanks predicate.toList := by
  simp [conditions_eq]

theorem filtered_of_nil (none : conditions predicates = []) :
    filtered query predicates = query := by
  rw [filtered, none]

theorem filtered_of_ne_nil (some : conditions predicates ≠ []) :
    filtered query predicates = "select * from (" ++ query ++ ") as subquery where " ++
      " and ".intercalate (conditions predicates) := by
  cases kept : conditions predicates with
  | nil => exact absurd kept some
  | cons first rest => rw [filtered, kept]

-- A wrapped query is longer than the query.
theorem filtered_eq_self_iff :
    filtered query predicates = query ↔
      ∀ predicate ∈ predicates, Text.Blanks predicate.toList := by
  rw [← conditions_eq_nil_iff]
  refine ⟨fun same => by_contra fun some => ?_, filtered_of_nil⟩
  rw [filtered_of_ne_nil some] at same
  have length := congrArg String.length same
  simp only [String.length_append] at length
  have wrapping : "select * from (".length = 15 := by decide
  omega

theorem conjuncts_conditions (balanced : ∀ predicate ∈ predicates, Balanced predicate.toList)
    (some : conditions predicates ≠ []) :
    conjuncts (" and ".intercalate (conditions predicates)) = conditions predicates := by
  rw [conditions_eq] at some ⊢
  refine conjuncts_intercalate (fun none => some (by rw [none]; rfl)) fun trimmed member => ?_
  obtain ⟨predicate, listed, rfl⟩ := List.mem_map.mp member
  rw [Text.trim, String.toList_ofList]
  exact (balanced predicate (List.mem_of_mem_filter listed)).trimChars

-- A predicate that closes what it did not open is read as two.
example : conditions ["paid) and (open"] = ["(paid) and (open)"] ∧
    conjuncts "(paid) and (open)" = ["(paid)", "(open)"] := by decide

end Queries

end SqlPipeline.Sql
