import SqlPipeline.Number.Digits
import SqlPipeline.Number.Double

/-!
Decimals as text. A decimal is a run of digits with a point in it at most and a power of ten behind
it at most, or one of the words for infinity and not-a-number, with a sign before it at most. It is
read as the nearest double.
-/

namespace SqlPipeline.Decimal

/-- `digits * 10 ^ power`, rounded. Powers beyond every double are not computed. -/
def toDouble (negative : Bool) (digits : Nat) (power : Int) : Double :=
  let order := ((toString digits).length : Int) + power
  if digits = 0 ∨ order < -330 then Double.signed negative 0
  else if 310 < order then Double.infinite negative
  else if 0 ≤ power then Double.ofRatio negative (digits * Nat.pow 10 power.toNat) 1
  else Double.ofRatio negative digits (Nat.pow 10 (-power).toNat)

/-- The power of ten behind a number, zero where none is written. -/
def readPower : List Char → Option Int
  | [] => some 0
  | mark :: rest => if mark = 'e' ∨ mark = 'E' then Digits.whole? rest else none

def readMagnitude (negative : Bool) (text : List Char) : Option Double :=
  let integer := text.takeWhile Char.isDigit
  let behind := text.dropWhile Char.isDigit
  let fraction := if behind.head? = some '.' then (behind.drop 1).takeWhile Char.isDigit else []
  let rest :=
    if behind.head? = some '.' then (behind.drop 1).dropWhile Char.isDigit else behind
  if integer ++ fraction = [] then none
  else
    (readPower rest).map fun power =>
      toDouble negative (Digits.extend 0 (integer ++ fraction)) (power - fraction.length)

def infinityWords : List (List Char) := ["inf".toList, "infinity".toList]

def readUnsigned (negative : Bool) (text : List Char) : Option Double :=
  let word := text.map Char.toLower
  if infinityWords.contains word then some (Double.infinite negative)
  else if word = "nan".toList then some Double.nan
  else readMagnitude negative text

def read? : List Char → Option Double
  | '-' :: text => readUnsigned true text
  | '+' :: text => readUnsigned false text
  | text => readUnsigned false text

end SqlPipeline.Decimal
