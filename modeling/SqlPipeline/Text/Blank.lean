/-!
White space. A character is blank when it has the Unicode property `White_Space`; a zero-width
space, a byte order mark and the separators below U+0020 other than tab to carriage return are
not. Trimming takes blanks off both ends and touches nothing between them.
-/

namespace SqlPipeline.Text

/-- The ranges of the property, by first and last code point. -/
def blankRanges : List (Nat × Nat) :=
  [(0x09, 0x0D), (0x20, 0x20), (0x85, 0x85), (0xA0, 0xA0), (0x1680, 0x1680), (0x2000, 0x200A),
    (0x2028, 0x2029), (0x202F, 0x202F), (0x205F, 0x205F), (0x3000, 0x3000)]

def isBlank (c : Char) : Bool :=
  blankRanges.any fun range => range.1 ≤ c.toNat && c.toNat ≤ range.2

def trimStart (text : List Char) : List Char := text.dropWhile isBlank

def trimEnd (text : List Char) : List Char := (trimStart text.reverse).reverse

def trimChars (text : List Char) : List Char := trimEnd (trimStart text)

def trim (text : String) : String := String.ofList (trimChars text.toList)

theorem trimStart_nil : trimStart [] = [] := rfl

end SqlPipeline.Text
