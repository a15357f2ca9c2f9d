/-!
Binary floating point numbers of 64 bits, kept as their bits. A finite one is a significand times
a power of two, so its value is an exact ratio, and a ratio rounds to the nearest such number with
ties to the even one.
-/

namespace SqlPipeline

structure Double where
  bits : UInt64
  deriving DecidableEq

namespace Double

def negative (x : Double) : Bool := x.bits >>> 63 == 1

def exponentField (x : Double) : Nat := (x.bits >>> 52).toNat % 2048

def fraction (x : Double) : Nat := x.bits.toNat % Nat.pow 2 52

def isFinite (x : Double) : Bool := x.exponentField != 2047

def isNaN (x : Double) : Bool := x.exponentField == 2047 && x.fraction != 0

/-- The magnitude of a finite number is `significand * 2 ^ exponent`. -/
def significand (x : Double) : Nat :=
  if x.exponentField = 0 then x.fraction else Nat.pow 2 52 + x.fraction

def exponent (x : Double) : Int := (max 1 x.exponentField : Nat) - 1075

/-- The magnitude of a finite number as numerator and denominator. -/
def ratio (x : Double) : Nat × Nat :=
  if 0 ≤ x.exponent then (x.significand * Nat.pow 2 x.exponent.toNat, 1)
  else (x.significand, Nat.pow 2 (-x.exponent).toNat)

def isZero (x : Double) : Bool := x.bits.toNat % Nat.pow 2 63 == 0

/-- The bits of a magnitude under a sign. -/
def signed (negative : Bool) (magnitude : Nat) : Double :=
  ⟨UInt64.ofNat (magnitude + if negative then Nat.pow 2 63 else 0)⟩

def infinityBits : Nat := 2047 * Nat.pow 2 52

def infinite (negative : Bool) : Double := signed negative infinityBits

def nan : Double := ⟨UInt64.ofNat (infinityBits + Nat.pow 2 51)⟩

def isInfinite (x : Double) : Bool := x.exponentField == 2047 && x.fraction == 0

/-- The whole number nearest to a ratio, a half going to the even neighbour. -/
def nearestWhole (num den : Nat) : Nat :=
  let quotient := num / den
  let twice := 2 * (num % den)
  if twice < den then quotient
  else if den < twice then quotient + 1
  else quotient + quotient % 2

/-- The greatest `e` with `2 ^ e ≤ num / den`, for positive arguments. -/
def binaryOrder (num den : Nat) : Int :=
  let guess : Int := (num.log2 : Int) - den.log2
  let reached :=
    if 0 ≤ guess then den * Nat.pow 2 guess.toNat ≤ num else den ≤ num * Nat.pow 2 (-guess).toNat
  if reached then guess else guess - 1

/-- The nearest number to a ratio. Above the largest finite one this is the infinity. -/
def ofRatio (negative : Bool) (num den : Nat) : Double :=
  if num = 0 then signed negative 0
  else
    let unit := max (binaryOrder num den - 52) (-1074)
    let whole :=
      if 0 ≤ unit then nearestWhole num (den * Nat.pow 2 unit.toNat)
      else nearestWhole (num * Nat.pow 2 (-unit).toNat) den
    signed negative (min infinityBits (whole + (unit + 1074).toNat * Nat.pow 2 52))

def ofWhole (n : Int) : Double := ofRatio (n < 0) n.natAbs 1

def powerOfTen (power : Nat) : Double := ofRatio false (Nat.pow 10 power) 1

/-- The rounded product of two magnitudes. -/
def times (x y : Double) : Double :=
  ofRatio false (x.ratio.1 * y.ratio.1) (x.ratio.2 * y.ratio.2)

/-- The rounded quotient of two magnitudes. -/
def quotient (x y : Double) : Double :=
  ofRatio false (x.ratio.1 * y.ratio.2) (x.ratio.2 * y.ratio.1)

/-- A finite number without its fractional digits. -/
def truncated (x : Double) : Int :=
  let whole : Int := (x.ratio.1 / x.ratio.2 : Nat)
  if x.negative then -whole else whole

/-- The signed 64-bit whole number nearest to the truncated value; not-a-number counts as zero. -/
def saturated (x : Double) : Int :=
  if x.isNaN then 0
  else if x.isInfinite then if x.negative then -Int.pow 2 63 else Int.pow 2 63 - 1
  else max (-Int.pow 2 63) (min (Int.pow 2 63 - 1) x.truncated)

end Double
end SqlPipeline
