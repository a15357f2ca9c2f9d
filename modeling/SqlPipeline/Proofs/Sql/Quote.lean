import SqlPipeline.Sql.Quote

/-!
Quoted text read back. A mark inside the text stands twice, so the first single one closes it. What
follows must not begin with the mark, or it would be taken for the second half of a doubled one.
Between backticks a mark is escaped instead, and the text reads back as long as it holds no
character that escapes.
-/

namespace SqlPipeline.Sql

section Doubled
variable {mark : Char} {rest : List Char}

theorem readDoubled_closing (follows : rest.head? ≠ some mark) :
    readDoubled mark (mark :: rest) = some ([], rest) := by
  cases rest with
  | nil => simp [readDoubled]
  | cons next rest =>
    have other : next ≠ mark := fun same => follows (by rw [same]; rfl)
    simp [readDoubled, other]

theorem readDoubled_plain {c : Char} (plain : c ≠ mark) (text : List Char) :
    readDoubled mark (c :: text) =
      (readDoubled mark text).map fun read => (c :: read.1, read.2) := by
  cases text with
  | nil => simp [readDoubled, plain]
  | cons next text => simp [readDoubled, plain]

theorem readDoubled_mark (text : List Char) :
    readDoubled mark (mark :: mark :: text) =
      (readDoubled mark text).map fun read => (mark :: read.1, read.2) := by
  simp [readDoubled]

theorem readDoubled_doubled (text : List Char) (follows : rest.head? ≠ some mark) :
    readDoubled mark (text.flatMap (fun c => if c = mark then [mark, mark] else [c]) ++
      mark :: rest) = some (text, rest) := by
  induction text with
  | nil => exact readDoubled_closing follows
  | cons c text ih =>
    rw [List.flatMap_cons, List.append_assoc]
    by_cases same : c = mark
    · rw [if_pos same, List.cons_append, List.singleton_append, readDoubled_mark, ih, same]
      rfl
    · rw [if_neg same, List.singleton_append, readDoubled_plain same, ih]
      rfl

-- What was read is what had been written, and nothing more of the name follows.
theorem doubled_of_readDoubled {text body : List Char}
    (read : readDoubled mark text = some (body, rest)) :
    text = body.flatMap (fun c => if c = mark then [mark, mark] else [c]) ++ mark :: rest ∧
      rest.head? ≠ some mark := by
  fun_induction readDoubled mark text generalizing body with
  | case1 => cases read
  | case2 =>
    cases read
    simp
  | case3 => cases read
  | case4 text ih =>
    obtain ⟨later, found, same⟩ := Option.map_eq_some_iff.mp read
    cases same
    obtain ⟨rfl, follows⟩ := ih found
    exact ⟨by simp, follows⟩
  | case5 next text single =>
    cases read
    exact ⟨by simp, by simpa using single⟩
  | case6 c next text plain ih =>
    obtain ⟨later, found, same⟩ := Option.map_eq_some_iff.mp read
    cases same
    obtain ⟨split, follows⟩ := ih found
    exact ⟨by simp [split, plain], follows⟩

end Doubled

theorem toList_quoteIdent (ident : String) :
    (quoteIdent ident).toList = '"' :: doubleQuotes ident.toList ++ ['"'] :=
  String.toList_ofList

theorem readIdent_quoteIdent (ident : String) {rest : List Char}
    (follows : rest.head? ≠ some '"') :
    readIdent ((quoteIdent ident).toList ++ rest) = some (ident.toList, rest) := by
  rw [toList_quoteIdent, List.append_assoc, List.cons_append, List.singleton_append]
  exact readDoubled_doubled ident.toList follows

theorem readIdent_quoteIdent_iff (ident : String) (rest : List Char) :
    readIdent ((quoteIdent ident).toList ++ rest) = some (ident.toList, rest) ↔
      rest.head? ≠ some '"' := by
  refine ⟨fun read => ?_, readIdent_quoteIdent ident⟩
  rw [toList_quoteIdent, List.append_assoc, List.cons_append] at read
  exact (doubled_of_readDoubled read).2

/-! ## Backticks -/

section Escaped
variable {text rest : List Char}

theorem escapeBackticks_cons (c : Char) (text : List Char) :
    escapeBackticks (c :: text) =
      (if c = '\x60' then ['\\', '\x60'] else [c]) ++ escapeBackticks text :=
  List.flatMap_cons

theorem readEscaped_escape (c : Char) (rest : List Char) :
    readEscaped ('\\' :: c :: rest) =
      (readEscaped rest).map fun read => (c :: read.1, read.2) := by
  simp [readEscaped]

theorem readEscaped_plain {c : Char} (noEscape : c ≠ '\\') (noMark : c ≠ '\x60')
    (rest : List Char) :
    readEscaped (c :: rest) = (readEscaped rest).map fun read => (c :: read.1, read.2) := by
  simp [readEscaped, noEscape, noMark]

theorem readEscaped_closing (rest : List Char) : readEscaped ('\x60' :: rest) = some ([], rest) := by
  simp [readEscaped]

theorem readEscaped_escapeBackticks (plain : '\\' ∉ text) (rest : List Char) :
    readEscaped (escapeBackticks text ++ '\x60' :: rest) = some (text, rest) := by
  induction text with
  | nil => exact readEscaped_closing rest
  | cons c text ih =>
    rw [List.mem_cons, not_or] at plain
    rw [escapeBackticks_cons, List.append_assoc]
    by_cases mark : c = '\x60'
    · rw [if_pos mark, List.cons_append, List.singleton_append, readEscaped_escape, ih plain.2, mark]
      rfl
    · rw [if_neg mark, List.singleton_append, readEscaped_plain (Ne.symm plain.1) mark, ih plain.2]
      rfl

-- An escaped text never begins with the mark itself, so a backslash that was in the text is told
-- from one that was put before a mark.
theorem head?_escapeBackticks (text : List Char) : (escapeBackticks text).head? ≠ some '\x60' := by
  cases text with
  | nil => simp [escapeBackticks]
  | cons c text =>
    rw [escapeBackticks_cons]
    split
    · simp
    · simpa

theorem escapeBackticks_injective : Function.Injective escapeBackticks := by
  intro left
  induction left with
  | nil =>
    intro right same
    cases right with
    | nil => rfl
    | cons d right =>
      rw [escapeBackticks_cons] at same
      split at same <;> cases same
  | cons c left ih =>
    intro right same
    cases right with
    | nil =>
      rw [escapeBackticks_cons] at same
      split at same <;> cases same
    | cons d right =>
      have leftHead := head?_escapeBackticks left
      have rightHead := head?_escapeBackticks right
      rw [escapeBackticks_cons, escapeBackticks_cons] at same
      split at same <;> split at same <;>
        simp only [List.cons_append, List.nil_append, List.cons.injEq, true_and] at same
      · rename_i first second
        rw [first, second, ih same]
      · exact absurd (by rw [← same.2]; rfl) rightHead
      · exact absurd (by rw [same.2]; rfl) leftHead
      · rw [same.1, ih same.2]

end Escaped

theorem toList_quoteBacktick (path : String) :
    (quoteBacktick path).toList = '\x60' :: escapeBackticks path.toList ++ ['\x60'] :=
  String.toList_ofList

theorem readBacktick_quoteBacktick {path : String} (plain : '\\' ∉ path.toList)
    (rest : List Char) :
    readBacktick ((quoteBacktick path).toList ++ rest) = some (path.toList, rest) := by
  rw [toList_quoteBacktick, List.append_assoc, List.cons_append, List.singleton_append]
  exact readEscaped_escapeBackticks plain rest

theorem quoteBacktick_injective : Function.Injective quoteBacktick := by
  intro left right same
  have texts := congrArg String.toList same
  rw [toList_quoteBacktick, toList_quoteBacktick, List.append_cancel_right_eq, List.cons.injEq]
    at texts
  exact String.toList_inj.mp (escapeBackticks_injective texts.2)

end SqlPipeline.Sql
