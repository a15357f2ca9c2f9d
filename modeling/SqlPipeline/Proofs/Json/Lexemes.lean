import Mathlib.Data.List.Basic
import Mathlib.Tactic.SplitIfs
import SqlPipeline.Json.Print
import SqlPipeline.Json.Token

/-!
Written JSON split into its lexemes again. Blanks between lexemes are passed over, so every layout
gives the same ones. Only a word has to be told from what follows it, and what follows a value is a
blank, a comma or a closing bracket.
-/

namespace SqlPipeline.Json

/-- Values without numbers, all of whose texts can be read. -/
inductive Plain : Json → Prop where
  | null : Plain .null
  | bool (value : Bool) : Plain (.bool value)
  | text (value : String) : Plain (.text value)
  | list {items : List Json} (each : ∀ item ∈ items, Plain item) : Plain (.list items)
  | record {entries : List (String × Json)} (each : ∀ entry ∈ entries, Plain entry.2) :
      Plain (.record entries)

mutual

/-- The lexemes of a value, whatever stands between them. -/
def tokens : Json → List Token
  | .null => [.leaf .null]
  | .bool value => [.leaf (.bool value)]
  | .number value => [.leaf (.number value)]
  | .text value => [.text (some value)]
  | .list [] => [.openList, .closeList]
  | .list (first :: rest) => .openList :: (tokens first ++ itemTokens rest)
  | .record [] => [.openRecord, .closeRecord]
  | .record ((name, value) :: rest) =>
      .openRecord :: .text (some name) :: .colon :: (tokens value ++ entryTokens rest)
  | .unreadable => [.leaf .unreadable]

/-- The lexemes of the items after the first one, and of the closing bracket. -/
def itemTokens : List Json → List Token
  | [] => [.closeList]
  | item :: rest => .comma :: (tokens item ++ itemTokens rest)

def entryTokens : List (String × Json) → List Token
  | [] => [.closeRecord]
  | (name, value) :: rest =>
      .comma :: .text (some name) :: .colon :: (tokens value ++ entryTokens rest)

end

namespace Token

/-! ## Texts -/

-- A character is never half of a surrogate pair.
theorem not_half (c : Char) : isHighHalf c.toNat = false ∧ isLowHalf c.toNat = false := by
  have valid : c.toNat < 0xD800 ∨ 0xDFFF < c.toNat ∧ c.toNat < 0x110000 := c.valid
  simp only [isHighHalf, isLowHalf, Bool.and_eq_false_iff, decide_eq_false_iff_not]
  omega

theorem joinHalves_map_toNat (text : List Char) : joinHalves (text.map Char.toNat) = some text := by
  induction text with
  | nil => rfl
  | cons c text ih =>
    obtain ⟨high, low⟩ := not_half c
    cases text with
    | nil => simp [joinHalves, high, low]
    | cons next text =>
      rw [List.map_cons] at ih
      simp [joinHalves, high, low, ih]

theorem hexDigit?_hexChar {digit : Nat} (small : digit < 16) :
    Digits.hexDigit? (hexChar digit) = some digit := by
  have all : ∀ digit < 16, Digits.hexDigit? (hexChar digit) = some digit := by decide
  exact all digit small

section Scan
variable {rest : List Char} {lexemes : List Token}

theorem scan_cons (mode : Mode) (c : Char) :
    scan mode (c :: rest) =
      (step mode c).bind fun next => (scan next.2 rest).map (next.1 ++ ·) := by
  simp only [Option.map_eq_bind]
  cases mode <;> rfl

theorem scan_step {mode next : Mode} {c : Char} {found : List Token}
    (steps : step mode c = some (found, next)) :
    scan mode (c :: rest) = (scan next rest).map (found ++ ·) := by
  rw [scan_cons, steps, Option.bind_some]

theorem scan_quiet {mode next : Mode} {c : Char} (steps : step mode c = some ([], next)) :
    scan mode (c :: rest) = scan next rest := by
  rw [scan_step steps]
  exact Option.map_id'

theorem scan_code {read : List Nat} {digit low : Nat} (small : digit < 16) (lowSmall : low < 16) :
    scan (.text read) ('\\' :: 'u' :: '0' :: '0' :: hexChar digit :: hexChar low :: rest) =
      scan (.text ((digit * 16 + low) :: read)) rest := by
  have high : step (.code read 2 0) (hexChar digit) = some ([], .code read 1 digit) := by
    simp [step, hexDigit?_hexChar small]
  have last : step (.code read 1 digit) (hexChar low) =
      some ([], .text ((digit * 16 + low) :: read)) := by
    simp [step, hexDigit?_hexChar lowSmall]
  have opening : step (.text read) '\\' = some ([], .escape read) := rfl
  have mark : step (.escape read) 'u' = some ([], .code read 4 0) := rfl
  have first : step (.code read 4 0) '0' = some ([], .code read 3 0) := rfl
  have second : step (.code read 3 0) '0' = some ([], .code read 2 0) := rfl
  rw [scan_quiet opening, scan_quiet mark, scan_quiet first, scan_quiet second, scan_quiet high,
    scan_quiet last]

theorem scan_short {read : List Nat} {c : Char} {code : Nat} (other : c ≠ 'u')
    (short : escaped? c = some code) :
    scan (.text read) ('\\' :: c :: rest) = scan (.text (code :: read)) rest := by
  have opening : step (.text read) '\\' = some ([], .escape read) := rfl
  have escape : step (.escape read) c = some ([], .text (code :: read)) := by
    simp [step, other, short]
  rw [scan_quiet opening, scan_quiet escape]

theorem scan_escapeChar (c : Char) (read : List Nat) :
    scan (.text read) (escapeChar c ++ rest) = scan (.text (c.toNat :: read)) rest := by
  unfold escapeChar
  split_ifs with quoted slash newline tab carriage back feed control
  · rw [quoted]; exact scan_short (by decide) rfl
  · rw [slash]; exact scan_short (by decide) rfl
  · rw [newline]; exact scan_short (by decide) rfl
  · rw [tab]; exact scan_short (by decide) rfl
  · rw [carriage]; exact scan_short (by decide) rfl
  · rw [back]; exact scan_short (by decide) rfl
  · rw [feed]; exact scan_short (by decide) rfl
  · have high : c.toNat / 16 < 16 := by omega
    have low : c.toNat % 16 < 16 := by omega
    have coded := @scan_code rest read _ _ high low
    rw [Nat.div_add_mod' c.toNat 16] at coded
    exact coded
  · apply scan_quiet
    simp [step, quoted, slash, control]

theorem scan_flatMap_escapeChar (text : List Char) (read : List Nat) :
    scan (.text read) (text.flatMap escapeChar ++ rest) =
      scan (.text ((text.map Char.toNat).reverse ++ read)) rest := by
  induction text generalizing read with
  | nil => rfl
  | cons c text ih =>
    rw [List.flatMap_cons, List.append_assoc, scan_escapeChar, ih, List.map_cons,
      List.reverse_cons, List.append_assoc, List.singleton_append]

theorem scan_quote (text : String) (after : scan .between rest = some lexemes) :
    scan .between (quote text ++ rest) = some (.text (some text) :: lexemes) := by
  have opening : step .between '"' = some ([], .text []) := rfl
  have closing : step (.text (text.toList.map Char.toNat).reverse) '"' =
      some ([.text (some text)], .between) := by
    simp [step, ofText, joinHalves_map_toNat]
  rw [quote, List.cons_append, List.cons_append, scan_quiet opening, List.append_assoc, List.singleton_append,
    scan_flatMap_escapeChar, List.append_nil, scan_step closing, after]
  rfl

/-! ## Words -/

/-- A text at whose start a word is over. -/
def Ends (rest : List Char) : Prop := ∀ c ∈ rest.head?, isWordChar c = false

theorem scan_letters {letters : List Char} (inside : ∀ c ∈ letters, isWordChar c = true)
    (read : List Char) :
    scan (.word read) (letters ++ rest) = scan (.word (letters.reverse ++ read)) rest := by
  induction letters generalizing read with
  | nil => rfl
  | cons c letters ih =>
    obtain ⟨letter, more⟩ := List.forall_mem_cons.mp inside
    have grown : step (.word read) c = some ([], .word (c :: read)) := by simp [step, letter]
    rw [List.cons_append, scan_quiet grown, ih more, List.reverse_cons, List.append_assoc,
      List.singleton_append]

-- The character that ends a word is read as if the word were not there.
theorem scan_ended {read : List Char} {word : Token} (spells : ofWord? read.reverse = some word)
    (ends : Ends rest) (after : scan .between rest = some lexemes) :
    scan (.word read) rest = some (word :: lexemes) := by
  cases rest with
  | nil =>
    cases after
    simp [scan, spells]
  | cons c rest =>
    have boundary : isWordChar c = false := ends c rfl
    have steps : step (.word read) c =
        (start c).map fun next => (word :: next.1, next.2) := by
      simp only [step, boundary, spells, Bool.false_eq_true, if_false]
      cases start c <;> rfl
    have between : step .between c = start c := rfl
    rw [scan_cons, between] at after
    rw [scan_cons, steps]
    cases begun : start c with
    | none =>
      rw [begun] at after
      cases after
    | some next =>
      rw [begun, Option.bind_some] at after
      obtain ⟨later, scanned, rfl⟩ := Option.map_eq_some_iff.mp after
      simp [scanned]

theorem scan_word {first : Char} {letters : List Char} {word : Token}
    (begins : start first = some ([], .word [first]))
    (inside : letters.all isWordChar = true) (spells : ofWord? (first :: letters) = some word)
    (ends : Ends rest) (after : scan .between rest = some lexemes) :
    scan .between (first :: letters ++ rest) = some (word :: lexemes) := by
  have opening : step .between first = some ([], .word [first]) := begins
  rw [List.cons_append, scan_quiet opening, scan_letters (List.all_eq_true.mp inside)]
  apply scan_ended _ ends after
  rw [List.reverse_append, List.reverse_reverse, List.reverse_singleton, List.singleton_append,
    spells]

/-! ## Blanks and brackets -/

theorem scan_blanks {blanks : List Char} (blank : ∀ c ∈ blanks, isSpace c = true) :
    scan .between (blanks ++ rest) = scan .between rest := by
  induction blanks with
  | nil => rfl
  | cons c blanks ih =>
    obtain ⟨space, more⟩ := List.forall_mem_cons.mp blank
    have passed : step .between c = some ([], .between) := by simp [step, start, space]
    rw [List.cons_append, scan_quiet passed, ih more]

theorem not_isWordChar_of_isSpace {c : Char} (space : isSpace c = true) :
    isWordChar c = false := by
  simp only [isSpace, Bool.or_eq_true, beq_iff_eq] at space
  rcases space with ((rfl | rfl) | rfl) | rfl <;> decide

theorem ends_blanks {blanks : List Char} (blank : ∀ c ∈ blanks, isSpace c = true)
    (ends : Ends rest) : Ends (blanks ++ rest) := by
  cases blanks with
  | nil => exact ends
  | cons c blanks =>
    intro other same
    cases same
    exact not_isWordChar_of_isSpace (blank c List.mem_cons_self)

theorem ends_cons {c : Char} (boundary : isWordChar c = false) : Ends (c :: rest) := by
  intro other same
  cases same
  exact boundary

-- Brackets, commas and colons are lexemes of their own.
theorem scan_bracket {c : Char} {token : Token} (bracket : start c = some ([token], .between))
    (after : scan .between rest = some lexemes) :
    scan .between (c :: rest) = some (token :: lexemes) := by
  have steps : step .between c = some ([token], .between) := bracket
  rw [scan_step steps, after]
  rfl

end Scan

/-! ## Values -/

end Token

/-- Nothing but blanks between the lexemes. -/
structure Layout.Blank (layout : Layout) : Prop where
  lineStart : ∀ level, ∀ c ∈ layout.lineStart level, Token.isSpace c = true
  afterColon : ∀ c ∈ layout.afterColon, Token.isSpace c = true

theorem Layout.blank_pretty : Layout.pretty.Blank where
  lineStart level c member := by
    rcases List.mem_cons.mp member with rfl | member
    · rfl
    · rw [List.eq_of_mem_replicate member]
      rfl
  afterColon c member := by
    rw [List.mem_singleton.mp member]
    rfl

namespace Token

/-- A value whose lexemes are found where it is written, before anything that ends a word. -/
def Scans (layout : Layout) (value : Json) : Prop :=
  ∀ (level : Nat) {rest : List Char} {lexemes : List Token}, Ends rest →
    scan .between rest = some lexemes →
      scan .between (write layout level value ++ rest) = some (tokens value ++ lexemes)

section Values
variable {layout : Layout} {rest : List Char} {lexemes : List Token}

theorem ends_writeItems (blank : layout.Blank) (level : Nat) (items : List Json) :
    Ends (writeItems layout level items ++ rest) := by
  cases items with
  | nil =>
    rw [writeItems, List.append_assoc]
    exact ends_blanks (blank.lineStart level) (ends_cons rfl)
  | cons item items => exact ends_cons rfl

theorem ends_writeEntries (blank : layout.Blank) (level : Nat) (entries : List (String × Json)) :
    Ends (writeEntries layout level entries ++ rest) := by
  cases entries with
  | nil =>
    rw [writeEntries, List.append_assoc]
    exact ends_blanks (blank.lineStart level) (ends_cons rfl)
  | cons entry entries => exact ends_cons rfl

theorem scan_item (blank : layout.Blank) {value : Json} (scans : Scans layout value) (level : Nat)
    (ends : Ends rest) (after : scan .between rest = some lexemes) :
    scan .between (layout.lineStart level ++ (write layout level value ++ rest)) =
      some (tokens value ++ lexemes) := by
  rw [scan_blanks (blank.lineStart level)]
  exact scans level ends after

theorem scan_writeItems (blank : layout.Blank) {items : List Json}
    (each : ∀ item ∈ items, Scans layout item) (level : Nat)
    (after : scan .between rest = some lexemes) :
    scan .between (writeItems layout level items ++ rest) =
      some (itemTokens items ++ lexemes) := by
  induction items with
  | nil =>
    rw [writeItems, List.append_assoc, scan_blanks (blank.lineStart level)]
    exact scan_bracket rfl after
  | cons item items ih =>
    obtain ⟨scans, more⟩ := List.forall_mem_cons.mp each
    simp only [writeItems, itemTokens, List.cons_append, List.append_assoc]
    apply scan_bracket rfl
    exact scan_item blank scans (level + 1) (ends_writeItems blank level items) (ih more)

-- A name with its value, and the lexemes of what comes after them.
theorem scan_entry (blank : layout.Blank) {name : String} {value : Json}
    (scans : Scans layout value) (level : Nat) (ends : Ends rest)
    (after : scan .between rest = some lexemes) :
    scan .between (layout.lineStart level ++ (quote name ++ ':' :: (layout.afterColon
        ++ (write layout level value ++ rest)))) =
      some (.text (some name) :: .colon :: (tokens value ++ lexemes)) := by
  rw [scan_blanks (blank.lineStart level)]
  apply scan_quote
  apply scan_bracket rfl
  rw [scan_blanks blank.afterColon]
  exact scans level ends after

theorem scan_writeEntries (blank : layout.Blank) {entries : List (String × Json)}
    (each : ∀ entry ∈ entries, Scans layout entry.2) (level : Nat)
    (after : scan .between rest = some lexemes) :
    scan .between (writeEntries layout level entries ++ rest) =
      some (entryTokens entries ++ lexemes) := by
  induction entries with
  | nil =>
    rw [writeEntries, List.append_assoc, scan_blanks (blank.lineStart level)]
    exact scan_bracket rfl after
  | cons entry entries ih =>
    obtain ⟨scans, more⟩ := List.forall_mem_cons.mp each
    simp only [writeEntries, entryTokens, List.cons_append, List.append_assoc]
    apply scan_bracket rfl
    exact scan_entry blank scans (level + 1) (ends_writeEntries blank level entries) (ih more)

theorem scans_of_plain (blank : layout.Blank) {value : Json} (plain : Plain value) :
    Scans layout value := by
  intro level rest lexemes ends after
  induction plain generalizing level rest lexemes with
  | null => exact scan_word rfl rfl rfl ends after
  | bool value =>
    cases value
    · exact scan_word rfl rfl rfl ends after
    · exact scan_word rfl rfl rfl ends after
  | text value => exact scan_quote value after
  | @list items each ih =>
    cases items with
    | nil => exact scan_bracket rfl (scan_bracket rfl after)
    | cons first items =>
      obtain ⟨scans, more⟩ := List.forall_mem_cons.mp ih
      have later := scan_writeItems blank more level after
      simp only [write, tokens, List.cons_append, List.append_assoc]
      apply scan_bracket rfl
      exact scan_item blank scans (level + 1) (ends_writeItems blank level items) later
  | @record entries each ih =>
    cases entries with
    | nil => exact scan_bracket rfl (scan_bracket rfl after)
    | cons first entries =>
      obtain ⟨scans, more⟩ := List.forall_mem_cons.mp ih
      have later := scan_writeEntries blank more level after
      simp only [write, tokens, List.cons_append, List.append_assoc]
      apply scan_bracket rfl
      exact scan_entry blank scans (level + 1) (ends_writeEntries blank level entries) later

theorem scan_write (blank : layout.Blank) {value : Json} (plain : Plain value) :
    scan .between (write layout 0 value) = some (tokens value) := by
  have ends : Ends [] := by
    intro c member
    cases member
  have scanned := scans_of_plain blank plain 0 ends rfl
  rw [List.append_nil, List.append_nil] at scanned
  exact scanned

end Values
end Token
end SqlPipeline.Json
