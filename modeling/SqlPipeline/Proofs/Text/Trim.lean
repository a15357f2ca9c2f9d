import Mathlib.Data.List.TakeWhile
import SqlPipeline.Text.Blank

/-!
Trimming. A text is what trimming leaves of it, with blanks on both sides, and nothing else that
neither begins nor ends with a blank is.
-/

namespace SqlPipeline.Text

/-- Nothing but blanks. -/
def Blanks (text : List Char) : Prop := ∀ c ∈ text, isBlank c = true

instance (text : List Char) : Decidable (Blanks text) :=
  decidable_of_iff (text.all isBlank = true) List.all_eq_true

/-- No blank at either end. -/
def Bare (text : List Char) : Prop :=
  (∀ c ∈ text.head?, isBlank c = false) ∧ ∀ c ∈ text.getLast?, isBlank c = false

theorem Blanks.reverse {text : List Char} (blanks : Blanks text) : Blanks text.reverse :=
  fun c member => blanks c (List.mem_reverse.mp member)

theorem Blanks.count_eq_zero {text : List Char} (blanks : Blanks text) {c : Char}
    (visible : isBlank c = false) : text.count c = 0 :=
  List.count_eq_zero.mpr fun member => by simp [blanks c member] at visible

theorem trimStart_eq_self {text : List Char} (bare : ∀ c ∈ text.head?, isBlank c = false) :
    trimStart text = text := by
  cases text with
  | nil => rfl
  | cons c text => exact List.dropWhile_cons_of_neg (by simp [bare c rfl])

theorem trimStart_append {before : List Char} (blanks : Blanks before) (text : List Char) :
    trimStart (before ++ text) = trimStart text :=
  List.dropWhile_append_of_pos blanks

theorem trimEnd_append {after : List Char} (blanks : Blanks after) (text : List Char) :
    trimEnd (text ++ after) = trimEnd text := by
  rw [trimEnd, List.reverse_append, trimStart_append blanks.reverse, trimEnd]

theorem exists_trimStart (text : List Char) : ∃ before, Blanks before ∧
    text = before ++ trimStart text ∧ ∀ c ∈ (trimStart text).head?, isBlank c = false := by
  refine ⟨text.takeWhile isBlank, fun c => List.mem_takeWhile_imp,
    List.takeWhile_append_dropWhile.symm, ?_⟩
  intro c first
  have stopped := List.head?_dropWhile_not isBlank text
  rw [trimStart] at first
  rw [first] at stopped
  simpa using stopped

theorem exists_trimEnd (text : List Char) : ∃ after, Blanks after ∧
    text = trimEnd text ++ after ∧ ∀ c ∈ (trimEnd text).getLast?, isBlank c = false := by
  obtain ⟨before, blanks, split, bare⟩ := exists_trimStart text.reverse
  refine ⟨before.reverse, blanks.reverse, ?_, ?_⟩
  · rw [trimEnd, ← List.reverse_append, ← split, List.reverse_reverse]
  · rwa [trimEnd, List.getLast?_reverse]

theorem trimChars_eq_iff {text kept : List Char} :
    trimChars text = kept ↔ Bare kept ∧ ∃ before after, Blanks before ∧ Blanks after ∧
      text = before ++ kept ++ after := by
  constructor
  · rintro rfl
    obtain ⟨before, front, start, opens⟩ := exists_trimStart text
    obtain ⟨after, back, finish, closes⟩ := exists_trimEnd (trimStart text)
    refine ⟨⟨?_, closes⟩, before, after, front, back, ?_⟩
    · -- What is kept begins as the text did once it was trimmed in front.
      intro c first
      apply opens c
      have first : (trimEnd (trimStart text)).head? = some c := first
      rw [finish, List.head?_append, first]
      rfl
    · rw [trimChars, List.append_assoc, ← finish, ← start]
  · rintro ⟨⟨opens, closes⟩, before, after, front, back, rfl⟩
    rw [trimChars, List.append_assoc, trimStart_append front]
    cases kept with
    | nil =>
      have none : trimStart after = [] := List.dropWhile_eq_nil_iff.mpr back
      rw [List.nil_append, none]
      rfl
    | cons c kept =>
      have same : trimStart (c :: kept ++ after) = c :: kept ++ after := trimStart_eq_self opens
      rw [same, trimEnd_append back, trimEnd, trimStart_eq_self]
      · exact List.reverse_reverse _
      · rwa [List.head?_reverse]

theorem trimChars_eq_nil_iff {text : List Char} : trimChars text = [] ↔ Blanks text := by
  rw [trimChars_eq_iff]
  constructor
  · rintro ⟨_, before, after, front, back, rfl⟩ c member
    rw [List.append_nil] at member
    exact (List.mem_append.mp member).elim (front c) (back c)
  · intro blanks
    exact ⟨⟨nofun, nofun⟩, text, [], blanks, nofun, by simp⟩

theorem trim_eq_empty_iff {text : String} : trim text = "" ↔ Blanks text.toList := by
  rw [trim, ← trimChars_eq_nil_iff, ← String.toList_inj, String.toList_ofList]
  rfl

end SqlPipeline.Text
