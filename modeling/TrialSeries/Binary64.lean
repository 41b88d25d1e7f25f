/-!
# Binary64 values by their bits

A value is held by its sixty-four bits, so a zero keeps its sign and a NaN keeps its sign and
payload. Arithmetic rounds as binary64 demands. The total order runs from the negative NaNs over
the negative numbers, `-0`, `0` and the positive numbers to the positive NaNs.
-/

namespace TrialSeries

structure Binary64 where
  bits : UInt64
deriving DecidableEq

namespace Binary64

instance : Inhabited Binary64 := ⟨⟨0⟩⟩

/-! ## Fields of the bit pattern -/

def isNegative (value : Binary64) : Bool := 0x8000000000000000 ≤ value.bits.toNat

def exponentField (value : Binary64) : Nat := value.bits.toNat / 0x10000000000000 % 2048

def fractionField (value : Binary64) : Nat := value.bits.toNat % 0x10000000000000

def isNaN (value : Binary64) : Bool := value.exponentField == 2047 && value.fractionField != 0

def isInfinite (value : Binary64) : Bool := value.exponentField == 2047 && value.fractionField == 0

def isFinite (value : Binary64) : Bool := value.exponentField != 2047

def isZero (value : Binary64) : Bool := value.bits.toNat % 0x8000000000000000 == 0

/-- A finite value is `± significand * 2 ^ scale`. -/
def significand (value : Binary64) : Nat :=
  if value.exponentField = 0 then value.fractionField else 0x10000000000000 + value.fractionField

def scale (value : Binary64) : Int :=
  if value.exponentField = 0 then -1074 else (value.exponentField : Int) - 1075

/-- The gap to the next smaller magnitude is half the gap to the next larger one. -/
def isNarrowBelow (value : Binary64) : Bool :=
  value.fractionField == 0 && 1 < value.exponentField

/-! ## Particular values -/

def ofSignMagnitude (negative : Bool) (magnitude : Nat) : Binary64 :=
  ⟨UInt64.ofNat (magnitude + if negative then 0x8000000000000000 else 0)⟩

def zero : Binary64 := ⟨0⟩

def negativeZero : Binary64 := ⟨0x8000000000000000⟩

def infinity (negative : Bool) : Binary64 := ofSignMagnitude negative 0x7ff0000000000000

def quietNaN (negative : Bool) : Binary64 := ofSignMagnitude negative 0x7ff8000000000000

/-- Both zeros become `0`; every other value stays. -/
def normalizeZero (value : Binary64) : Binary64 := if value.isZero then zero else value

def negate (value : Binary64) : Binary64 := ⟨value.bits ^^^ 0x8000000000000000⟩

/-! ## Arithmetic -/

def toFloat (value : Binary64) : Float := Float.ofBits value.bits

def ofFloat (number : Float) : Binary64 := ⟨number.toBits⟩

def add (left right : Binary64) : Binary64 := ofFloat (left.toFloat + right.toFloat)

def sub (left right : Binary64) : Binary64 := ofFloat (left.toFloat - right.toFloat)

def mul (left right : Binary64) : Binary64 := ofFloat (left.toFloat * right.toFloat)

def div (left right : Binary64) : Binary64 := ofFloat (left.toFloat / right.toFloat)

def sqrt (value : Binary64) : Binary64 := ofFloat value.toFloat.sqrt

instance : Add Binary64 := ⟨add⟩
instance : Sub Binary64 := ⟨sub⟩
instance : Mul Binary64 := ⟨mul⟩
instance : Div Binary64 := ⟨div⟩

/-- Equality of numbers: the zeros are equal, and a NaN equals nothing. -/
def sameNumber (left right : Binary64) : Bool := left.toFloat == right.toFloat

/-! ## Rounding a quotient -/

/-- The integer nearest to a quotient; a half goes to the even neighbour. -/
def roundHalfEven (numerator denominator : Nat) : Nat :=
  let quotient := numerator / denominator
  let excess := 2 * (numerator % denominator)
  if excess < denominator then quotient
  else if denominator < excess then quotient + 1
  else quotient + quotient % 2

/-- The exponent of the greatest power of two that is at most the quotient. -/
def binaryOrder (numerator denominator : Nat) : Int :=
  let estimate : Int := (numerator.log2 : Int) - denominator.log2
  if numerator * Nat.pow 2 (-estimate).toNat < denominator * Nat.pow 2 estimate.toNat then
    estimate - 1
  else estimate

/-- The magnitude bits of the value nearest to a positive quotient; beyond the largest finite value
it is infinity. -/
def nearestMagnitude (numerator denominator : Nat) : Nat :=
  let unit : Int := max (binaryOrder numerator denominator - 52) (-1074)
  let units := roundHalfEven (numerator * Nat.pow 2 (-unit).toNat)
    (denominator * Nat.pow 2 unit.toNat)
  min ((unit + 1074).toNat * 0x10000000000000 + units) 0x7ff0000000000000

/-- The value nearest to `± numerator / denominator`. -/
def nearest (negative : Bool) (numerator denominator : Nat) : Binary64 :=
  ofSignMagnitude negative
    (if numerator = 0 then 0 else nearestMagnitude numerator denominator)

def ofNat (n : Nat) : Binary64 := nearest false n 1

/-! ## The total order -/

/-- The place of a bit pattern in the total order. -/
def rank (value : Binary64) : Nat :=
  if value.bits.toNat < 0x8000000000000000 then 0x8000000000000000 + value.bits.toNat
  else 0xffffffffffffffff - value.bits.toNat

instance : Ord Binary64 := ⟨fun left right ↦ compare left.rank right.rank⟩

theorem rank_injective {left right : Binary64} (h : left.rank = right.rank) : left = right := by
  obtain ⟨left⟩ := left
  obtain ⟨right⟩ := right
  have hl := left.toNat_lt
  have hr := right.toNat_lt
  simp only [rank] at h
  have : left.toNat = right.toNat := by split at h <;> split at h <;> omega
  rw [UInt64.toNat_inj.1 this]

theorem compare_eq_compare_rank (left right : Binary64) :
    compare left right = compare left.rank right.rank := rfl

instance : Std.TransOrd Binary64 where
  eq_swap {a b} := by
    rw [compare_eq_compare_rank, compare_eq_compare_rank]; exact Std.OrientedCmp.eq_swap
  isLE_trans {a b c} := by
    simp only [compare_eq_compare_rank]; exact Std.TransCmp.isLE_trans

instance : Std.LawfulEqOrd Binary64 where
  compare_self := by simp
  eq_of_compare h := by
    rw [compare_eq_compare_rank] at h
    exact rank_injective (Std.LawfulEqCmp.eq_of_compare h)

end Binary64

end TrialSeries
