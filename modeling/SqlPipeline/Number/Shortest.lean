import SqlPipeline.Number.Double

/-!
Shortest decimals. Among the decimals that read back as a given number the one with the fewest
digits is chosen, of several of that length the nearest, and of two equally near ones the even
one. Where the point goes is a separate decision of the text that is written.
-/

namespace SqlPipeline.Shortest

/-- The magnitude `significand * 2 ^ exponent` scaled by four to `4 * significand * 2 ^ unit`, so
that the middles to both neighbours are whole numbers of the same unit. -/
structure Interval where
  low : Nat
  value : Nat
  high : Nat
  unit : Int
  closed : Bool

/-- The reals that round to a finite number. Below a power of two the neighbours lie twice as
close, except next to the least exponent. -/
def intervalOf (x : Double) : Interval :=
  let value := 4 * x.significand
  let near := x.fraction = 0 ∧ 1 < x.exponentField
  ⟨value - (if near then 1 else 2), value, value + 2, x.exponent - 2, x.significand % 2 = 0⟩

/-- A number of binary units over a power of ten, as numerator and denominator. -/
def scaled (amount : Nat) (unit power : Int) : Nat × Nat :=
  let binary :=
    if 0 ≤ unit then (amount * Nat.pow 2 unit.toNat, 1) else (amount, Nat.pow 2 (-unit).toNat)
  if 0 ≤ power then (binary.1, binary.2 * Nat.pow 10 power.toNat)
  else (binary.1 * Nat.pow 10 (-power).toNat, binary.2)

def Interval.holds (range : Interval) (digits : Nat) (power : Int) : Bool :=
  let low := scaled range.low range.unit power
  let high := scaled range.high range.unit power
  if range.closed then low.1 ≤ digits * low.2 && digits * high.2 ≤ high.1
  else low.1 < digits * low.2 && digits * high.2 < high.1

/-- The neighbour of the value on the grid of multiples of a power of ten that reads back. -/
def Interval.onGrid (range : Interval) (power : Int) : Option Nat :=
  let value := scaled range.value range.unit power
  let nearest := Double.nearestWhole value.1 value.2
  let below := value.1 / value.2
  if range.holds nearest power then some nearest
  else if range.holds below power then some below
  else if range.holds (below + 1) power then some (below + 1)
  else none

/-- The greatest power of ten that is at most the value, found downwards from an upper bound. -/
def decimalOrder (range : Interval) : Nat → Int → Int
  | 0, power => power
  | tries + 1, power =>
      let value := scaled range.value range.unit power
      if value.2 ≤ value.1 then power else decimalOrder range tries (power - 1)

/-- Digits and power of ten of the first grid, from coarse to fine, that has a hit. -/
def search (range : Interval) : Nat → Int → Nat × Int
  | 0, power => ((range.onGrid power).getD 0, power)
  | grids + 1, power =>
      match range.onGrid power with
      | some digits => (digits, power)
      | none => search range grids (power - 1)

/-- A finite number other than zero is written as `digits * 10 ^ power`. -/
def ofDouble (x : Double) : Nat × Int :=
  let range := intervalOf x
  let bound : Int := ((x.exponent + 53) * 30103) / 100000 + 1
  search range 17 (decimalOrder range 20 bound)

/-- Digits without their closing zeros, which the power of ten takes up. -/
def normal : Nat → Nat × Int → Nat × Int
  | 0, decimal => decimal
  | steps + 1, (digits, power) =>
      if digits % 10 = 0 then normal steps (digits / 10, power + 1) else (digits, power)

end SqlPipeline.Shortest
