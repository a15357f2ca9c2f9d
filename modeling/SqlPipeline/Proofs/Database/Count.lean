import Mathlib.Data.Nat.Digits.Defs
import SqlPipeline.Proofs.Text.Trim
import SqlPipeline.Run.Verdict

/-!
What an assertion makes of a query result. Only the first cell of the first row counts. Where it is
a natural number, written as a number or as a text, the assertion passes exactly for zero, however
large the number is; and what is no number at all never passes.
-/

namespace SqlPipeline

/-! ## Numbers as texts -/

namespace Digits

/-- A run of decimal digits, the most significant one first, and the number it stands for. -/
structure Denotes (digits : List Char) (n : Nat) : Prop where
  nonempty : digits ≠ []
  each : ∀ c ∈ digits, c.isDigit = true
  value : Nat.ofDigits 10 (digits.reverse.map valueOf) = n

section Digits
variable {text digits : List Char} {n : Nat}

theorem extend_eq_ofDigits (digits : List Char) :
    extend 0 digits = Nat.ofDigits 10 (digits.reverse.map valueOf) := by
  rw [Nat.ofDigits_eq_foldr, List.foldr_map, List.foldr_reverse, extend]
  congr 1
  funext total c
  simp only [Nat.cast_id]
  omega

theorem natural?_eq_some_iff_denotes : natural? digits = some n ↔ Denotes digits n := by
  rw [natural?_eq_some_iff, List.all_eq_true, extend_eq_ofDigits]
  exact ⟨fun ⟨nonempty, each, value⟩ => ⟨nonempty, each, value⟩,
    fun denotes => ⟨denotes.nonempty, denotes.each, denotes.value⟩⟩

theorem not_isBlank_of_isDigit {c : Char} (digit : c.isDigit = true) : Text.isBlank c = false := by
  have low : 48 ≤ c.toNat ∧ c.toNat ≤ 57 := by
    simpa [Char.isDigit, UInt32.le_iff_toNat_le] using digit
  simp only [Text.isBlank, Text.blankRanges, List.any_cons, List.any_nil, Bool.or_false,
    Bool.or_eq_false_iff, Bool.and_eq_false_iff, decide_eq_false_iff_not]
  omega

theorem Denotes.bare (denotes : Denotes digits n) {sign : List Char}
    (plain : ∀ c ∈ sign, Text.isBlank c = false) : Text.Bare (sign ++ digits) := by
  have each : ∀ c ∈ sign ++ digits, Text.isBlank c = false := by
    intro c member
    rcases List.mem_append.mp member with first | digit
    · exact plain c first
    · exact not_isBlank_of_isDigit (denotes.each c digit)
  exact ⟨fun c first => each c (List.mem_of_mem_head? first),
    fun c last => each c (List.mem_of_mem_getLast? last)⟩

/-- The signs a number may have. -/
def signs : List (List Char) := [[], ['+'], ['-']]

/-- The number that digits behind a sign stand for. -/
def signed (sign : List Char) (n : Nat) : Int := if sign = ['-'] then -(n : Int) else n

theorem whole?_minus (digits : List Char) :
    whole? ('-' :: digits) = (natural? digits).map fun n : Nat => -(n : Int) := by
  cases found : natural? digits <;> simp [whole?, found]

theorem whole?_plus (digits : List Char) :
    whole? ('+' :: digits) = (natural? digits).map fun n : Nat => (n : Int) := by
  cases found : natural? digits <;> simp [whole?, found]

theorem whole?_unsigned (minus : ∀ digits, text ≠ '-' :: digits)
    (plus : ∀ digits, text ≠ '+' :: digits) :
    whole? text = (natural? text).map fun n : Nat => (n : Int) := by
  cases found : natural? text <;> simp [whole?, found]

theorem whole?_eq_some_iff {k : Int} :
    whole? text = some k ↔ ∃ sign ∈ signs, ∃ digits n, Denotes digits n ∧ text = sign ++ digits ∧
      signed sign n = k := by
  constructor
  · intro read
    by_cases minus : ∃ digits, text = '-' :: digits
    · obtain ⟨digits, rfl⟩ := minus
      rw [whole?_minus] at read
      obtain ⟨n, found, rfl⟩ := Option.map_eq_some_iff.mp read
      exact ⟨['-'], by decide, digits, n, natural?_eq_some_iff_denotes.mp found, rfl, rfl⟩
    by_cases plus : ∃ digits, text = '+' :: digits
    · obtain ⟨digits, rfl⟩ := plus
      rw [whole?_plus] at read
      obtain ⟨n, found, rfl⟩ := Option.map_eq_some_iff.mp read
      exact ⟨['+'], by decide, digits, n, natural?_eq_some_iff_denotes.mp found, rfl, rfl⟩
    · rw [whole?_unsigned (not_exists.mp minus) (not_exists.mp plus)] at read
      obtain ⟨n, found, rfl⟩ := Option.map_eq_some_iff.mp read
      exact ⟨[], by decide, text, n, natural?_eq_some_iff_denotes.mp found, rfl, rfl⟩
  · rintro ⟨sign, listed, digits, n, denotes, rfl, rfl⟩
    have found := natural?_eq_some_iff_denotes.mpr denotes
    simp only [signs, List.mem_cons, List.not_mem_nil, or_false] at listed
    rcases listed with rfl | rfl | rfl
    · -- A digit is no sign.
      have begins (c : Char) (sign : c.isDigit = false) (rest : List Char) :
          digits ≠ c :: rest := by
        rintro rfl
        rw [denotes.each c List.mem_cons_self] at sign
        cases sign
      rw [List.nil_append, whole?_unsigned (begins '-' rfl) (begins '+' rfl), found]
      rfl
    · rw [List.singleton_append, whole?_plus, found]
      rfl
    · rw [List.singleton_append, whole?_minus, found]
      rfl

end Digits

/-! ## Numbers among blanks -/

/-- Digits behind a sign, with blanks around them at most. -/
def Spells (text : String) (sign : List Char) (n : Nat) : Prop :=
  ∃ before digits after, Text.Blanks before ∧ Text.Blanks after ∧ Denotes digits n ∧
    text.toList = before ++ (sign ++ digits) ++ after

/-- The text is that of a whole number, of any size and with any sign. -/
def IsWhole (text : String) : Prop := ∃ sign ∈ signs, ∃ n, Spells text sign n

theorem Spells.whole? {text : String} {sign : List Char} {n : Nat} (spells : Spells text sign n)
    (listed : sign ∈ signs) :
    Digits.whole? (Text.trimChars text.toList) = some (signed sign n) := by
  obtain ⟨before, digits, after, front, back, denotes, split⟩ := spells
  have plain : ∀ sign ∈ signs, ∀ c ∈ sign, Text.isBlank c = false := by
    simp only [signs, List.forall_mem_cons, List.not_mem_nil, false_implies, implies_true, true_and,
      and_true]
    decide
  have trimmed : Text.trimChars text.toList = sign ++ digits :=
    Text.trimChars_eq_iff.mpr ⟨denotes.bare (plain sign listed), before, after, front, back, split⟩
  rw [trimmed]
  exact whole?_eq_some_iff.mpr ⟨sign, listed, digits, n, denotes, rfl, rfl⟩

theorem isWhole_of_whole? {text : String} {k : Int}
    (read : Digits.whole? (Text.trimChars text.toList) = some k) : IsWhole text := by
  obtain ⟨sign, listed, digits, n, denotes, trimmed, _⟩ := whole?_eq_some_iff.mp read
  obtain ⟨_, before, after, front, back, split⟩ := Text.trimChars_eq_iff.mp trimmed
  exact ⟨sign, listed, n, before, digits, after, front, back, denotes, split⟩

end Digits

/-! ## Verdicts -/

namespace Verdict

/-- The cell is a natural number, or a text that spells one. -/
inductive Holds (n : Nat) : Json → Prop where
  | number : Holds n (.number (.whole n))
  | text {text : String} (spells : Digits.Spells text [] n ∨ Digits.Spells text ['+'] n) :
      Holds n (.text text)

/-- The cell is no number, whatever it is. -/
inductive Numberless : Json → Prop where
  | bool (value : Bool) : Numberless (.bool value)
  | list (items : List Json) : Numberless (.list items)
  | record (entries : List (String × Json)) : Numberless (.record entries)
  | text {text : String} (other : ¬ Digits.IsWhole text) : Numberless (.text text)

section Cells
variable {cell : Json} {n : Nat} {columns : List String} {row : List Json} {rows : List (List Json)}

theorem ofRows_of_count {count : Int} (read : Rows.countOf? cell = some count) :
    ofRows ⟨columns, (cell :: row) :: rows⟩ =
      if count = 0 then .passed
      else .failed ("Assertion failed: query returned " ++ toString count ++ " row(s)") := by
  simp only [ofRows, Rows.offending, Rows.scalar?, List.head?_cons, Option.bind_some, read]

theorem ofRows_of_not_count (unread : Rows.countOf? cell = none) :
    ofRows ⟨columns, (cell :: row) :: rows⟩ =
      .failed ("Assertion returned a non-numeric row count: " ++ Rows.shown cell) := by
  simp only [ofRows, Rows.offending, Rows.scalar?, List.head?_cons, Option.bind_some, unread]

-- A number beyond 64 bits with a sign is brought down to the largest, or is not read at all.
theorem count_of_holds (holds : Holds n cell) :
    (∃ count, Rows.countOf? cell = some count ∧ (count = 0 ↔ n = 0)) ∨
      Rows.countOf? cell = none ∧ n ≠ 0 := by
  cases holds with
  | number =>
    refine Or.inl ⟨_, rfl, ?_⟩
    have bound : Int.pow 2 63 - 1 = 9223372036854775807 := by decide
    rw [bound]
    omega
  | @text text spells =>
    have read : Digits.whole? (Text.trimChars text.toList) = some (n : Int) := by
      rcases spells with plain | plus
      · exact plain.whole? (by decide)
      · exact plus.whole? (by decide)
    by_cases small : Digits.isSigned64 n = true
    · refine Or.inl ⟨n, ?_, Int.natCast_eq_zero⟩
      simp only [Rows.countOf?, Digits.signed64?, read, Option.filter_some, small, if_true]
    · refine Or.inr ⟨?_, ?_⟩
      · simp only [Rows.countOf?, Digits.signed64?, read, Option.filter_some, small]
        rfl
      · rintro rfl
        exact small (by decide)

theorem not_count_of_numberless (numberless : Numberless cell) : Rows.countOf? cell = none := by
  cases numberless with
  | bool | list | record => rfl
  | @text text other =>
    have unread : Digits.whole? (Text.trimChars text.toList) = none := by
      rw [Option.eq_none_iff_forall_ne_some]
      exact fun k read => other (Digits.isWhole_of_whole? read)
    simp only [Rows.countOf?, Digits.signed64?, unread, Option.filter_none]

theorem ofRows_of_holds (holds : Holds n cell) :
    (ofRows ⟨columns, (cell :: row) :: rows⟩ = .passed ↔ n = 0) ∧
      (n ≠ 0 → ∃ message, ofRows ⟨columns, (cell :: row) :: rows⟩ = .failed message) := by
  rcases count_of_holds holds with ⟨count, read, same⟩ | ⟨unread, some⟩
  · rw [ofRows_of_count read, Ne, ← same]
    by_cases zero : count = 0
    · simp [zero]
    · simp [zero]
  · rw [ofRows_of_not_count unread]
    exact ⟨iff_of_false (by simp) some, fun _ => ⟨_, rfl⟩⟩

end Cells

theorem passes_on_zero (columns : List String) (row : List Json) (rows : List (List Json)) :
    judge .assertion (.rows ⟨columns, []⟩) = .passed ∧
    judge .assertion (.rows ⟨columns, [] :: rows⟩) = .passed ∧
    judge .assertion (.rows ⟨columns, (.null :: row) :: rows⟩) = .passed ∧
    (∀ n cell, Holds n cell →
      (judge .assertion (.rows ⟨columns, (cell :: row) :: rows⟩) = .passed ↔ n = 0) ∧
      (n ≠ 0 → ∃ message,
        judge .assertion (.rows ⟨columns, (cell :: row) :: rows⟩) = .failed message)) ∧
    (∀ cell, Numberless cell →
      judge .assertion (.rows ⟨columns, (cell :: row) :: rows⟩) =
        .failed ("Assertion returned a non-numeric row count: " ++ Rows.shown cell)) ∧
    ∀ cell, judge .assertion (.rows ⟨columns, (cell :: row) :: rows⟩) =
      judge .assertion (.rows ⟨[], [[cell]]⟩) := by
  refine ⟨rfl, rfl, rfl, fun n cell => ofRows_of_holds, ?_, fun cell => rfl⟩
  intro cell numberless
  exact ofRows_of_not_count (not_count_of_numberless numberless)

/-- A number beyond all 64-bit numbers, between blanks that are not ASCII. -/
def longText : String := "\u00a0+18446744073709551616\u2003"

theorem holds_longText : Holds 18446744073709551616 (.text longText) :=
  .text (.inr ⟨['\u00a0'], "18446744073709551616".toList, ['\u2003'], by decide, by decide,
    ⟨by decide, List.all_eq_true.mp (by decide), by decide⟩, by decide⟩)

theorem numberless_rows : Numberless (.text "0 rows") := by
  refine .text ?_
  rintro ⟨sign, listed, n, spells⟩
  have unread : Digits.whole? (Text.trimChars "0 rows".toList) = none := by decide
  cases unread.symm.trans (spells.whole? listed)

theorem long_count_fails :
    Holds 18446744073709551616 (.text longText) ∧
    judge .assertion (.rows ⟨["row_count"], [[.text longText, .null]]⟩) ≠ .passed ∧
    Holds 9223372036854775808 (.number (.whole 9223372036854775808)) ∧
    judge .assertion (.rows ⟨["row_count"], [[.number (.whole 9223372036854775808), .null]]⟩) ≠
      .passed ∧
    Numberless (.text "0 rows") ∧
    judge .assertion (.rows ⟨["row_count"], [[.text "0 rows", .null]]⟩) =
      .failed "Assertion returned a non-numeric row count: 0 rows" := by
  obtain ⟨_, _, _, passes, fails, _⟩ := passes_on_zero ["row_count"] [.null] []
  have large : Holds 9223372036854775808 (.number (.whole 9223372036854775808)) := .number
  refine ⟨holds_longText, ?_, large, ?_, numberless_rows, fails _ numberless_rows⟩
  · exact mt (passes _ _ holds_longText).1.mp (by decide)
  · exact mt (passes _ _ large).1.mp (by decide)

end Verdict
end SqlPipeline
