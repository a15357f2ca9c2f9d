/-!
Decimal digits. A run of ASCII digits denotes a natural number in the usual way; a sign may stand
before it. No blanks, separators or digits of other scripts are taken.
-/

namespace SqlPipeline.Digits

def valueOf (c : Char) : Nat := c.toNat - 48

/-- The number a run of digits denotes, after what is already read. -/
def extend (read : Nat) (digits : List Char) : Nat :=
  digits.foldl (fun total c => total * 10 + valueOf c) read

def natural? (text : List Char) : Option Nat :=
  if text ≠ [] ∧ text.all Char.isDigit then some (extend 0 text) else none

/-- A whole number: digits after at most one sign. -/
def whole? : List Char → Option Int
  | '-' :: digits => (natural? digits).map fun n => -(n : Int)
  | '+' :: digits => (natural? digits).map fun n => (n : Int)
  | digits => (natural? digits).map fun n => (n : Int)

def isSigned64 (n : Int) : Bool := -Int.pow 2 63 ≤ n && n < Int.pow 2 63

def isUnsigned64 (n : Int) : Bool := 0 ≤ n && n < Int.pow 2 64

/-- A whole number of 64 bits with a sign. -/
def signed64? (text : List Char) : Option Int :=
  (whole? text).filter isSigned64

/-- The value of a hexadecimal digit of either case. -/
def hexDigit? (c : Char) : Option Nat :=
  if '0' ≤ c ∧ c ≤ '9' then some (c.toNat - 48)
  else if 'a' ≤ c ∧ c ≤ 'f' then some (c.toNat - 87)
  else if 'A' ≤ c ∧ c ≤ 'F' then some (c.toNat - 55)
  else none

/-- The number that exactly `length` hexadecimal digits denote. -/
def hexCode? (length : Nat) (text : List Char) : Option Nat := do
  let digits ← (text.take length).mapM hexDigit?
  if digits.length = length then some (digits.foldl (fun total digit => total * 16 + digit) 0)
  else none

theorem natural?_nil : natural? [] = none := rfl

theorem natural?_eq_some_iff {text : List Char} {n : Nat} :
    natural? text = some n ↔
      text ≠ [] ∧ text.all Char.isDigit = true ∧ extend 0 text = n := by
  simp only [natural?, Option.ite_none_right_eq_some, Option.some.injEq, and_assoc]

end SqlPipeline.Digits
