import TrialSeries.Binary64

/-!
# The shortest decimal of a binary64 value

The reals that round to a finite value form an interval, whose ends belong to it exactly when the
significand is even. The shortest decimal is the point of this interval on the coarsest decimal
grid that has one; of two such points it is the nearer one. Both neighbours of the value on a grid
are tested in exact arithmetic.
-/

namespace TrialSeries

/-- The number `coefficient * 10 ^ exponent`. -/
structure Decimal where
  coefficient : Nat
  exponent : Int
deriving DecidableEq

namespace Decimal

/-- Moves the trailing zeros of the coefficient into the exponent. -/
def strip (decimal : Decimal) : Decimal :=
  if h : decimal.coefficient ≠ 0 ∧ decimal.coefficient % 10 = 0 then
    strip ⟨decimal.coefficient / 10, decimal.exponent + 1⟩
  else decimal
termination_by decimal.coefficient
decreasing_by exact Nat.div_lt_self (Nat.pos_of_ne_zero h.1) (by decide)

/-- Which of two equally near decimals of equal length is written. -/
inductive Tie where
  | up
  | even

end Decimal

namespace Binary64

/-- Ends of the interval that rounds to a value, in quarters of its unit `2 ^ scale`. -/
def lowerQuarters (value : Binary64) : Nat :=
  4 * value.significand - if value.isNarrowBelow then 1 else 2

def upperQuarters (value : Binary64) : Nat := 4 * value.significand + 2

/-- The point of the grid of multiples of `10 ^ exponent` that is nearest to a value among those
that round to it. -/
def gridPoint? (tie : Decimal.Tie) (value : Binary64) (exponent : Int) : Option Nat :=
  let gridStep := Nat.pow 10 exponent.toNat * Nat.pow 2 (2 - value.scale).toNat
  let quarter := Nat.pow 10 (-exponent).toNat * Nat.pow 2 (value.scale - 2).toNat
  let closed := value.significand % 2 == 0
  let within (point : Nat) : Bool :=
    let place := point * gridStep
    let lower := value.lowerQuarters * quarter
    let upper := value.upperQuarters * quarter
    (lower < place || closed && lower == place) && (place < upper || closed && place == upper)
  let target := 4 * value.significand * quarter
  let below := target / gridStep
  match within below, within (below + 1) with
  | false, false => none
  | true, false => some below
  | false, true => some (below + 1)
  | true, true =>
    match compare (2 * (target % gridStep)) gridStep, tie with
    | .lt, _ => some below
    | .gt, _ => some (below + 1)
    | .eq, .up => some (below + 1)
    | .eq, .even => some (below + below % 2)

/-- The exact value in decimal, with a power of two turned into one of five. -/
def exactDecimal (value : Binary64) : Decimal :=
  if 0 ≤ value.scale then ⟨value.significand * Nat.pow 2 value.scale.toNat, 0⟩
  else ⟨value.significand * Nat.pow 5 (-value.scale).toNat, value.scale⟩

/-- Searches ever finer grids for one with a point that rounds to the value. -/
def searchGrids (tie : Decimal.Tie) (value : Binary64) : Nat → Int → Decimal
  | 0, _ => value.exactDecimal
  | steps + 1, exponent =>
    match gridPoint? tie value exponent with
    | some point => ⟨point, exponent⟩
    | none => searchGrids tie value steps (exponent - 1)

/-- A decimal exponent above that of the leading digit of a value. -/
def decimalOrderBound (value : Binary64) : Int :=
  ((value.significand.log2 : Int) + value.scale) * 30103 / 100000 + 2

/-- The shortest decimal of the magnitude of a finite value. Seventeen digits always suffice, and
the search starts at most two grids too early. -/
def shortest (tie : Decimal.Tie) (value : Binary64) : Decimal :=
  if value.significand = 0 then ⟨0, 0⟩
  else (searchGrids tie value 20 value.decimalOrderBound).strip

end Binary64

end TrialSeries
