import Mathlib.Data.String.Basic
import Mathlib.Tactic.SplitIfs

/-!
The order of texts. Texts are compared character by character, by code points. Their encoding keeps
that order, so it does not matter whether texts or their bytes are sorted.
-/

namespace SqlPipeline.Text

/-- The text in UTF-8. -/
def bytes (text : String) : List UInt8 := text.toByteArray.data.toList

theorem bytes_eq_flatMap (text : String) :
    bytes text = text.toList.flatMap String.utf8EncodeChar := by
  rw [bytes, ← String.utf8Encode_toList, List.utf8Encode, List.data_toByteArray]

-- The first byte grows with the number of bytes, and the others are digits to the base 64.
theorem encoded_lt {left right : Char} (less : left < right) (after later : List UInt8) :
    String.utf8EncodeChar left ++ after < String.utf8EncodeChar right ++ later := by
  have smaller : left.val.toNat < right.val.toNat := less
  have bounded : right.val.toNat < 0x110000 := by
    have valid := right.valid
    simp only [UInt32.isValidChar, Nat.isValidChar] at valid
    omega
  have twice (code : Nat) : code / 4096 = code / 64 / 64 := by omega
  have thrice (code : Nat) : code / 262144 = code / 64 / 64 / 64 := by omega
  unfold String.utf8EncodeChar
  generalize left.val.toNat = code at *
  generalize right.val.toNat = next at *
  simp only [twice, thrice]
  split_ifs <;>
    simp only [List.cons_append, List.nil_append, List.cons_lt_cons_iff, UInt8.lt_iff_toNat_lt,
      ← UInt8.toNat_inj, UInt8.toNat_ofNat'] <;>
    omega

theorem flatMap_encoded_lt {left right : List Char} (less : left < right) :
    left.flatMap String.utf8EncodeChar < right.flatMap String.utf8EncodeChar := by
  induction left generalizing right with
  | nil =>
    cases right with
    | nil => exact absurd less (List.not_lt_nil _)
    | cons d right =>
      have some := String.utf8EncodeChar_ne_nil (c := d)
      obtain ⟨byte, rest, encoded⟩ := List.exists_cons_of_ne_nil some
      rw [List.flatMap_cons, encoded]
      exact List.nil_lt_cons _ _
  | cons c left ih =>
    cases right with
    | nil => exact absurd less (List.not_lt_nil _)
    | cons d right =>
      rw [List.flatMap_cons, List.flatMap_cons]
      rcases List.cons_lt_cons_iff.mp less with first | ⟨rfl, rest⟩
      · exact encoded_lt first _ _
      · exact List.append_left_lt (ih rest)

theorem bytes_lt_iff {left right : String} : bytes left < bytes right ↔ left < right := by
  have grows {left right : String} (less : left < right) : bytes left < bytes right := by
    rw [bytes_eq_flatMap, bytes_eq_flatMap]
    exact flatMap_encoded_lt (String.lt_iff_toList_lt.mp less)
  refine ⟨fun less => ?_, grows⟩
  rcases lt_trichotomy left right with before | rfl | behind
  · exact before
  · exact absurd less (List.lt_irrefl _)
  · exact absurd less (List.lt_asymm (grows behind))

end SqlPipeline.Text
