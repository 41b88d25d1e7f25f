import Mathlib.Data.EReal.Operations
import Mathlib.Tactic.Linarith
import Mathlib.Tactic.NormNum
import TrialSeries.Binary64

/-!
# The order of numbers

Values are compared by the bits behind their signs, upwards for the positive and downwards for the
negative ones. More bits stand for a greater number, from one bit pattern to the next, so this is the
order of the numbers; beyond it, `-0` comes before `0`, and the NaNs stand at the two ends.
-/

namespace TrialSeries.Binary64

/-- The extended real number that a value stands for. What is said of a NaN does not count. -/
noncomputable def number (value : Binary64) : EReal :=
  if value.isInfinite then if value.isNegative then ⊥ else ⊤
  else ((if value.isNegative then -1 else 1) * (value.significand * (2 : ℝ) ^ value.scale) : ℝ)

/-! ## Bits without the sign -/

/-- The bits of a value behind its sign. -/
def unsignedBits (value : Binary64) : ℕ := value.bits.toNat % 0x8000000000000000

/-- The bits of an infinity behind its sign. Those of a NaN are above them. -/
def infiniteBits : ℕ := 0x7ff0000000000000

section Fields

variable (value : Binary64)

theorem exponentField_eq : value.exponentField = value.unsignedBits / 0x10000000000000 := by
  have hlt := value.bits.toNat_lt
  rw [exponentField, unsignedBits]
  omega

theorem fractionField_eq : value.fractionField = value.unsignedBits % 0x10000000000000 := by
  rw [fractionField, unsignedBits]
  omega

theorem unsignedBits_lt : value.unsignedBits < 0x8000000000000000 :=
  Nat.mod_lt _ (by decide)

variable {value}

theorem isInfinite_iff : value.isInfinite = true ↔ value.unsignedBits = infiniteBits := by
  rw [isInfinite, Bool.and_eq_true, beq_iff_eq, beq_iff_eq, exponentField_eq, fractionField_eq,
    infiniteBits]
  omega

theorem isNaN_iff_lt : value.isNaN = true ↔ infiniteBits < value.unsignedBits := by
  have hlt := value.unsignedBits_lt
  rw [isNaN, Bool.and_eq_true, beq_iff_eq, bne_iff_ne, exponentField_eq, fractionField_eq,
    infiniteBits]
  omega

theorem rank_of_isNegative (h : value.isNegative = true) :
    value.rank = 0x7fffffffffffffff - value.unsignedBits := by
  have hlt := value.bits.toNat_lt
  have hnegative : 0x8000000000000000 ≤ value.bits.toNat := by simpa [isNegative] using h
  rw [rank, if_neg (by omega), unsignedBits]
  omega

theorem rank_of_not_isNegative (h : value.isNegative = false) :
    value.rank = 0x8000000000000000 + value.unsignedBits := by
  have hpositive : value.bits.toNat < 0x8000000000000000 := by simpa [isNegative] using h
  rw [rank, if_pos hpositive, unsignedBits]
  omega

theorem eq_zero_iff : value = .zero ↔ value.isNegative = false ∧ value.unsignedBits = 0 := by
  obtain ⟨bits⟩ := value
  have hlt := bits.toNat_lt
  rw [zero, mk.injEq, ← UInt64.toNat_inj, isNegative, decide_eq_false_iff_not]
  change bits.toNat = 0 ↔ ¬ 0x8000000000000000 ≤ bits.toNat ∧ bits.toNat % 0x8000000000000000 = 0
  omega

theorem eq_negativeZero_iff :
    value = .negativeZero ↔ value.isNegative = true ∧ value.unsignedBits = 0 := by
  obtain ⟨bits⟩ := value
  have hlt := bits.toNat_lt
  rw [negativeZero, mk.injEq, ← UInt64.toNat_inj, isNegative, decide_eq_true_eq]
  change bits.toNat = 0x8000000000000000 ↔
    0x8000000000000000 ≤ bits.toNat ∧ bits.toNat % 0x8000000000000000 = 0
  omega

end Fields

/-! ## Sizes -/

/-- The size of the finite number for which some bits without a sign stand. -/
noncomputable def extent (bits : ℕ) : ℝ :=
  if bits / 0x10000000000000 = 0 then (bits % 0x10000000000000 : ℕ) * (2 : ℝ) ^ (-1074 : ℤ)
  else (0x10000000000000 + bits % 0x10000000000000 : ℕ) *
    (2 : ℝ) ^ (((bits / 0x10000000000000 : ℕ) : ℤ) - 1075)

/-- The next bits stand for a greater number. -/
theorem extent_lt_succ (bits : ℕ) : extent bits < extent (bits + 1) := by
  have hpos (power : ℤ) : (0 : ℝ) < 2 ^ power := zpow_pos (by norm_num) power
  unfold extent
  by_cases hcarry : bits % 0x10000000000000 + 1 = 0x10000000000000
  · -- the fraction is used up, and the exponent goes up by one
    have hexponent : (bits + 1) / 0x10000000000000 = bits / 0x10000000000000 + 1 := by omega
    have hfraction : (bits + 1) % 0x10000000000000 = 0 := by omega
    have hfull : bits % 0x10000000000000 = 0xfffffffffffff := by omega
    rw [hexponent, hfraction, hfull, if_neg (Nat.succ_ne_zero _)]
    split
    · rename_i hzero
      have hpower : (((0 + 1 : ℕ) : ℤ) - 1075) = -1074 := by norm_num
      rw [hzero, hpower]
      exact mul_lt_mul_of_pos_right (by norm_num) (hpos _)
    · generalize bits / 0x10000000000000 = exponent
      have hpower : (((exponent + 1 : ℕ) : ℤ) - 1075) = (exponent : ℤ) - 1075 + 1 := by omega
      have hunit := hpos ((exponent : ℤ) - 1075)
      rw [hpower, zpow_add_one₀ (by norm_num)]
      push_cast
      linarith
  · have hexponent : (bits + 1) / 0x10000000000000 = bits / 0x10000000000000 := by omega
    have hfraction : (bits + 1) % 0x10000000000000 = bits % 0x10000000000000 + 1 := by omega
    rw [hexponent, hfraction]
    split
    · apply mul_lt_mul_of_pos_right _ (hpos _)
      exact Nat.cast_lt.2 (Nat.lt_succ_self _)
    · apply mul_lt_mul_of_pos_right _ (hpos _)
      exact Nat.cast_lt.2 (Nat.lt_succ_self _)

theorem strictMono_extent : StrictMono extent := strictMono_nat_of_lt_succ extent_lt_succ

theorem extent_zero : extent 0 = 0 := by simp [extent]

/-- The size of the number for which some bits without a sign stand, if it is no NaN. -/
noncomputable def size (bits : ℕ) : EReal := if bits = infiniteBits then ⊤ else (extent bits : ℝ)

theorem size_lt_size_iff {left right : ℕ} (hleft : left ≤ infiniteBits)
    (hright : right ≤ infiniteBits) : size left < size right ↔ left < right := by
  unfold size
  by_cases hl : left = infiniteBits
  · simp [hl, hright]
  · rw [if_neg hl]
    by_cases hr : right = infiniteBits
    · simp [hr, Nat.lt_of_le_of_ne hleft hl]
    · rw [if_neg hr, EReal.coe_lt_coe_iff, strictMono_extent.lt_iff_lt]

theorem size_zero : size 0 = 0 := by
  simp [size, extent_zero, infiniteBits]

theorem size_pos_iff {bits : ℕ} (h : bits ≤ infiniteBits) : 0 < size bits ↔ 0 < bits := by
  rw [← size_zero, size_lt_size_iff (Nat.zero_le _) h]

theorem size_nonneg {bits : ℕ} (h : bits ≤ infiniteBits) : 0 ≤ size bits := by
  rcases Nat.eq_zero_or_pos bits with rfl | hpos
  · exact size_zero.ge
  · exact ((size_pos_iff h).2 hpos).le

theorem number_eq (value : Binary64) :
    value.number = if value.isNegative then -size value.unsignedBits
      else size value.unsignedBits := by
  have hextent : (value.significand * (2 : ℝ) ^ value.scale : ℝ) = extent value.unsignedBits := by
    rw [significand, scale, exponentField_eq, fractionField_eq, extent]
    split
    · rfl
    · rfl
  rw [number, hextent, size]
  simp only [isInfinite_iff]
  split
  · split
    · exact EReal.neg_top.symm
    · rfl
  · split
    · rw [neg_one_mul, EReal.coe_neg]
    · rw [one_mul]

/-! ## The total order -/

section Order

variable {left right : Binary64}

theorem compare_eq_lt_iff_rank : compare left right = .lt ↔ left.rank < right.rank := by
  rw [compare_eq_compare_rank, Nat.compare_eq_lt]

theorem unsignedBits_le_of_not_isNaN (h : left.isNaN = false) :
    left.unsignedBits ≤ infiniteBits := by
  rw [← Nat.not_lt, ← isNaN_iff_lt, h]
  exact Bool.false_ne_true

/-- A number below zero is less than one above it. -/
theorem neg_size_lt_size_iff {first second : ℕ} (hfirst : first ≤ infiniteBits)
    (hsecond : second ≤ infiniteBits) :
    -size first < size second ↔ ¬ (first = 0 ∧ second = 0) := by
  constructor
  · rintro hlt ⟨rfl, rfl⟩
    simp [size_zero] at hlt
  · intro hne
    rcases Nat.eq_zero_or_pos second with rfl | hpos
    · have hfirstPos : 0 < first := Nat.pos_of_ne_zero fun hzero ↦ hne ⟨hzero, rfl⟩
      rw [size_zero, EReal.neg_lt_zero]
      exact (size_pos_iff hfirst).2 hfirstPos
    · have hle : -size first ≤ 0 := EReal.neg_le_zero.2 (size_nonneg hfirst)
      exact hle.trans_lt ((size_pos_iff hsecond).2 hpos)

/-- Values that are no NaNs are in the order of the numbers, and `-0` comes before `0`. -/
theorem compare_eq_lt_iff_number (hleft : left.isNaN = false) (hright : right.isNaN = false) :
    compare left right = .lt ↔
      left.number < right.number ∨ left = .negativeZero ∧ right = .zero := by
  have hl := unsignedBits_le_of_not_isNaN hleft
  have hr := unsignedBits_le_of_not_isNaN hright
  have hlbits := left.unsignedBits_lt
  have hrbits := right.unsignedBits_lt
  rw [compare_eq_lt_iff_rank, number_eq, number_eq, eq_negativeZero_iff, eq_zero_iff]
  cases hsign : left.isNegative with
  | false =>
    rw [rank_of_not_isNegative hsign]
    cases hother : right.isNegative with
    | false =>
      rw [rank_of_not_isNegative hother]
      simp [size_lt_size_iff hl hr]
    | true =>
      have hbelow : ¬ size left.unsignedBits < -size right.unsignedBits := by
        apply not_lt_of_ge
        exact (EReal.neg_le_zero.2 (size_nonneg hr)).trans (size_nonneg hl)
      have hrank : ¬ 0x8000000000000000 + left.unsignedBits <
          0x7fffffffffffffff - right.unsignedBits := by omega
      rw [rank_of_isNegative hother]
      simp [hbelow, hrank]
  | true =>
    rw [rank_of_isNegative hsign]
    cases hother : right.isNegative with
    | false =>
      have hrank : 0x7fffffffffffffff - left.unsignedBits <
          0x8000000000000000 + right.unsignedBits := by omega
      have hzeros := em' (left.unsignedBits = 0 ∧ right.unsignedBits = 0)
      rw [rank_of_not_isNegative hother]
      simpa [neg_size_lt_size_iff hl hr, hrank] using hzeros
    | true =>
      have hrank : 0x7fffffffffffffff - left.unsignedBits <
          0x7fffffffffffffff - right.unsignedBits ↔
          right.unsignedBits < left.unsignedBits := by omega
      rw [rank_of_isNegative hother]
      simp [size_lt_size_iff hr hl, hrank]

/-- A negative NaN comes before all other values. -/
theorem compare_eq_lt_of_isNaN (hnan : left.isNaN = true) (hnegative : left.isNegative = true)
    (hother : ¬ (right.isNaN = true ∧ right.isNegative = true)) : compare left right = .lt := by
  have hl := isNaN_iff_lt.1 hnan
  have hlbits := left.unsignedBits_lt
  rw [compare_eq_lt_iff_rank, rank_of_isNegative hnegative]
  cases hsign : right.isNegative with
  | false =>
    rw [rank_of_not_isNegative hsign]
    omega
  | true =>
    have hr : right.unsignedBits ≤ infiniteBits :=
      unsignedBits_le_of_not_isNaN (by simpa [hsign] using hother)
    rw [rank_of_isNegative hsign]
    omega

/-- A positive NaN comes behind all other values. -/
theorem compare_eq_gt_of_isNaN (hnan : left.isNaN = true) (hpositive : left.isNegative = false)
    (hother : ¬ (right.isNaN = true ∧ right.isNegative = false)) : compare left right = .gt := by
  have hl := isNaN_iff_lt.1 hnan
  rw [Std.OrientedCmp.gt_iff_lt, compare_eq_lt_iff_rank, rank_of_not_isNegative hpositive]
  cases hsign : right.isNegative with
  | true =>
    rw [rank_of_isNegative hsign]
    omega
  | false =>
    have hr : right.unsignedBits ≤ infiniteBits :=
      unsignedBits_le_of_not_isNaN (by simpa [hsign] using hother)
    rw [rank_of_not_isNegative hsign]
    omega

end Order

end TrialSeries.Binary64
