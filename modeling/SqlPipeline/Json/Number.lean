import SqlPipeline.Json.Value
import SqlPipeline.Number.Digits
import SqlPipeline.Number.Shortest

/-!
Numbers in JSON text. A literal without fraction and exponent is a whole number while it fits into
64 bits; a negative zero and everything longer is a double. Of a literal's digits as many are
taken as fit into 64 bits without a sign, the others count by their place only, and the result is
scaled by a power of ten in double arithmetic.
-/

namespace SqlPipeline.Json

/-- The parts of a number literal, the digits as written. -/
structure Literal where
  negative : Bool
  integer : List Char
  fraction : Option (List Char)
  exponent : Option Int

namespace Literal

/-- A digit run and what follows it. -/
def digitRun (text : List Char) : List Char × List Char :=
  (text.takeWhile Char.isDigit, text.dropWhile Char.isDigit)

def readExponent : List Char → Option (Option Int)
  | [] => some none
  | mark :: rest =>
      if mark = 'e' ∨ mark = 'E' then (Digits.whole? rest).map some else none

def readFraction : List Char → Option (Option (List Char) × Option Int)
  | '.' :: rest =>
      let run := digitRun rest
      if run.1 = [] then none else (readExponent run.2).map fun exponent => (some run.1, exponent)
  | rest => (readExponent rest).map fun exponent => (none, exponent)

/-- The grammar of number literals: no leading zeros, digits on both sides of a point. -/
def read? (text : List Char) : Option Literal :=
  let negative := text.head? = some '-'
  let run := digitRun (if negative then text.drop 1 else text)
  if run.1 = [] ∨ (run.1.head? = some '0' ∧ 1 < run.1.length) then none
  else (readFraction run.2).map fun tail => ⟨negative, run.1, tail.1, tail.2⟩

/-- The digits taken, as a number, and how many are left over. -/
def take (read : Nat) : List Char → Nat × List Char
  | [] => (read, [])
  | c :: rest =>
      let next := read * 10 + Digits.valueOf c
      if next < Nat.pow 2 64 then take next rest else (read, c :: rest)

/-- Scaling by `10 ^ power`, at most 308 places at a time; none beyond every double. -/
def scale : Nat → Double → Int → Option Double
  | 0, _, _ => none
  | steps + 1, magnitude, power =>
      if power.natAbs ≤ 308 then
        if 0 ≤ power then
          some (magnitude.times (Double.powerOfTen power.toNat)) |>.filter Double.isFinite
        else some (magnitude.quotient (Double.powerOfTen (-power).toNat))
      else if magnitude.isZero then some magnitude
      else if 0 ≤ power then none
      else scale steps (magnitude.quotient (Double.powerOfTen 308)) (power + 308)

def toDouble? (literal : Literal) : Option Double :=
  let integer := take 0 literal.integer
  let fraction := take integer.1 (literal.fraction.getD [])
  let places := (literal.fraction.getD []).length - fraction.2.length
  let power : Int := (literal.exponent.getD 0) + integer.2.length - places
  -- An exponent this large in size settles the value whatever the digits are.
  let magnitude :=
    if Int.pow 2 31 ≤ literal.exponent.getD 0 then
      if fraction.1 = 0 then some (Double.signed false 0) else none
    else if literal.exponent.getD 0 ≤ -Int.pow 2 31 then some (Double.signed false 0)
    else scale 5 (Double.ofWhole fraction.1) power
  magnitude.map fun x => Double.signed literal.negative x.bits.toNat

def toNumber? (literal : Literal) : Option Number :=
  let value := Digits.extend 0 literal.integer
  let value : Int := if literal.negative then -value else value
  if literal.fraction.isNone ∧ literal.exponent.isNone
      ∧ (if literal.negative then -Int.pow 2 63 ≤ value ∧ value < 0 else value < Int.pow 2 64) then
    some (.whole value)
  else (toDouble? literal).map .double

end Literal

/-! ## Writing

Doubles are written by their shortest digits, with the point among them while the leading digit
stands between the fifth place after the point and the sixteenth before it. -/

def lowestPlace : Int := -5

def highestPlace : Int := 15

def zeros (count : Nat) : List Char := List.replicate count '0'

/-- Digits times a power of ten, with the point in place. -/
def positional (digits : List Char) (power : Int) : List Char :=
  let point := digits.length + power
  if 0 ≤ power then digits ++ zeros power.toNat ++ ['.', '0']
  else if 0 < point then digits.take point.toNat ++ '.' :: digits.drop point.toNat
  else '0' :: '.' :: zeros (-point).toNat ++ digits

/-- One digit before the point, and an exponent with its sign. -/
def scientific (digits : List Char) (place : Int) : List Char :=
  let fraction := digits.drop 1
  digits.take 1 ++ (if fraction = [] then [] else '.' :: fraction)
    ++ 'e' :: (if place < 0 then '-' else '+') :: (toString place.natAbs).toList

def writeDouble (x : Double) : List Char :=
  let decimal := Shortest.normal 20 (Shortest.ofDouble x)
  let digits := (toString decimal.1).toList
  let place := digits.length + decimal.2 - 1
  let magnitude :=
    if x.isZero then ['0', '.', '0']
    else if lowestPlace ≤ place ∧ place ≤ highestPlace then positional digits decimal.2
    else scientific digits place
  if x.negative then '-' :: magnitude else magnitude

/-- Infinities and not-a-number have no number in JSON and are written as `null`. -/
def Number.write : Number → List Char
  | .whole value => (toString value).toList
  | .double x => if x.isFinite then writeDouble x else ['n', 'u', 'l', 'l']

end SqlPipeline.Json
