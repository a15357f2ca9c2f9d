import SqlPipeline.Proofs.Sql.Quote

/-!
Dotted paths of quoted names read back. A name may hold dots and quotes of its own; only a dot
behind a closing quote parts two names. So a path is read as the names that it was written from,
neither more nor fewer of them.
-/

namespace SqlPipeline.Sql

/-- Each name in quotes, with dots between them. -/
def quotedPath (names : List String) : String := ".".intercalate (names.map quoteIdent)

theorem length_of_readIdent {text name rest : List Char}
    (read : readIdent text = some (name, rest)) : rest.length < text.length := by
  unfold readIdent at read
  split at read
  · rw [(doubled_of_readDoubled read).1]
    simp only [List.length_cons, List.length_append]
    omega
  · cases read

/-- The names of a path off the front of a text, and the rest behind them. Behind a dot there has
to be another name. -/
def readPath (text : List Char) : Option (List String × List Char) :=
  match _read : readIdent text with
  | none => none
  | some (name, '.' :: rest) =>
      (readPath rest).map fun read => (String.ofList name :: read.1, read.2)
  | some (name, rest) => some ([String.ofList name], rest)
termination_by text.length
decreasing_by
  have shorter := length_of_readIdent _read
  rw [List.length_cons] at shorter
  omega

section Reading
variable {rest : List Char}

theorem readPath_last (name : String) (quote : rest.head? ≠ some '"')
    (dot : rest.head? ≠ some '.') :
    readPath ((quoteIdent name).toList ++ rest) = some ([name], rest) := by
  rw [readPath]
  split
  · rename_i read
    rw [readIdent_quoteIdent name quote] at read
    cases read
  · rename_i read
    rw [readIdent_quoteIdent name quote] at read
    cases read
    exact absurd rfl dot
  · rename_i read
    rw [readIdent_quoteIdent name quote] at read
    cases read
    rw [String.ofList_toList]

theorem readPath_dot (name : String) (text : List Char) :
    readPath ((quoteIdent name).toList ++ '.' :: text) =
      (readPath text).map fun read => (name :: read.1, read.2) := by
  have follows : ('.' :: text).head? ≠ some '"' := by simp
  have found := readIdent_quoteIdent name follows
  rw [readPath]
  split
  · rename_i read
    rw [found] at read
    cases read
  · rename_i read
    rw [found] at read
    cases read
    rw [String.ofList_toList]
  · rename_i parts read
    rw [found] at read
    cases read
    exact absurd rfl (parts _)

theorem quotedPath_cons (name : String) {names : List String} (more : names ≠ []) :
    (quotedPath (name :: names)).toList =
      (quoteIdent name).toList ++ '.' :: (quotedPath names).toList := by
  rw [quotedPath, List.map_cons, String.intercalate_cons_of_ne_nil (by simpa using more),
    String.toList_append, String.toList_append, List.append_assoc]
  rfl

theorem readPath_quotedPath {names : List String} (some : names ≠ [])
    (quote : rest.head? ≠ .some '"') (dot : rest.head? ≠ .some '.') :
    readPath ((quotedPath names).toList ++ rest) = .some (names, rest) := by
  induction names with
  | nil => exact absurd rfl some
  | cons name names ih =>
    by_cases more : names = []
    · subst more
      exact readPath_last name quote dot
    · rw [quotedPath_cons name more, List.append_assoc, List.cons_append, readPath_dot, ih more]
      rfl

theorem readPath_whole {names : List String} (some : names ≠ []) :
    readPath (quotedPath names).toList = .some (names, []) := by
  have read : readPath ((quotedPath names).toList ++ []) = .some (names, []) :=
    readPath_quotedPath some nofun nofun
  rwa [List.append_nil] at read

theorem quotedPath_inj {left right : List String} (leftSome : left ≠ []) (rightSome : right ≠ []) :
    quotedPath left = quotedPath right ↔ left = right := by
  refine ⟨fun same => ?_, congrArg quotedPath⟩
  have read := readPath_whole leftSome
  rw [same, readPath_whole rightSome] at read
  cases read
  rfl

end Reading

end SqlPipeline.Sql
