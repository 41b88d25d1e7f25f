import TrialSeries.Proofs.Unpacking
import TrialSeries.Statistics

/-!
# Statistics of one value

Negative zero adds nothing to a value and dividing by one changes nothing, so the mean of one value is
that value. A finite value has no distance from itself and the deviation is zero; the distance of any
other value from itself is NaN, and so is the deviation.
-/

open Float.Model Float.Model.UnpackedFloat

namespace TrialSeries.Binary64

/-! ## Dividing by one -/

theorem targetExponent_eq (exponent : Int) :
    Format.binary64.targetExponent exponent = max (exponent - 53) (-1074) := rfl

theorem log2_eq_of_full {mantissa : Nat} (hge : 0x10000000000000 ≤ mantissa)
    (hlt : mantissa < 0x20000000000000) : mantissa.log2 = 52 :=
  (Nat.log2_eq_iff (by omega)).2 ⟨hge, hlt⟩

/-- A canonical number is not moved by rounding. -/
theorem IsCanonical.targetExponent {mantissa : Nat} {exponent : Int} (hpos : 0 < mantissa)
    (h : IsCanonical mantissa exponent) :
    Format.binary64.targetExponent (totalExponent mantissa exponent) = exponent := by
  have hlog : mantissa.log2 < 53 := (Nat.log2_lt (by omega)).2 h.mantissa_lt
  rw [targetExponent_eq, totalExponent]
  rcases h.full with hfull | hleast
  · rw [log2_eq_of_full hfull h.mantissa_lt]
    have := h.exponent_ge
    omega
  · omega

theorem shiftToTargetExponent_of_isCanonical {mantissa : Nat} {exponent : Int}
    (hpos : 0 < mantissa) (h : IsCanonical mantissa exponent) :
    shiftToTargetExponent .binary64 mantissa exponent .exact =
      (⟨mantissa, false, false⟩, exponent) := by
  simp only [shiftToTargetExponent, shiftToExponent, h.targetExponent hpos, Int.sub_self]
  rw [Int.toNat_zero, Int.natCast_zero, Int.add_zero]
  rfl

/-- Rounding takes back one digit more than there is room for, if that digit is zero. -/
theorem shiftToTargetExponent_double {mantissa : Nat} {exponent : Int}
    (hfull : 0x10000000000000 ≤ mantissa) (h : IsCanonical mantissa exponent) :
    shiftToTargetExponent .binary64 (2 * mantissa) (exponent - 1) .exact =
      (⟨mantissa, false, false⟩, exponent) := by
  have hlog : (2 * mantissa).log2 = 53 := by
    rw [Nat.log2_two_mul (by omega), log2_eq_of_full hfull h.mantissa_lt]
  have hge := h.exponent_ge
  have htarget : Format.binary64.targetExponent (totalExponent (2 * mantissa) (exponent - 1)) =
      exponent := by
    rw [targetExponent_eq, totalExponent, hlog]
    omega
  have hshift : (exponent - (exponent - 1)).toNat = 1 := by omega
  simp only [shiftToTargetExponent, shiftToExponent, htarget, hshift]
  rw [show exponent - 1 + (1 : Nat) = exponent by omega]
  have hem : ExtendedMantissa.shiftRightOne ⟨2 * mantissa, false, false⟩ = ⟨mantissa, false, false⟩ := by
    simp [ExtendedMantissa.shiftRightOne]
  exact congrArg (·, exponent) hem

theorem roundWithAccuracy_of_shift {mantissa shifted : Nat} {exponent target : Int} (sign : Sign)
    (hpos : 0 < mantissa) (h : IsCanonical mantissa exponent)
    (hshift : shiftToTargetExponent .binary64 shifted target .exact =
      (⟨mantissa, false, false⟩, exponent)) :
    roundWithAccuracy .binary64 sign shifted target .exact =
      .finite sign mantissa exponent hpos := by
  have hrounded : ExtendedMantissa.roundedMantissa ⟨mantissa, false, false⟩ = mantissa := rfl
  rw [roundWithAccuracy, hshift]
  simp only [hrounded, shiftToTargetExponent_of_isCanonical hpos h]
  rw [dif_neg (by omega)]

/-- The digits of a quotient by one are the digits of the number, at most one place further left. -/
theorem divCore_one {mantissa : Nat} {exponent : Int} (hpos : 0 < mantissa)
    (h : IsCanonical mantissa exponent) :
    divCore .binary64 mantissa exponent 0x10000000000000 (-52) =
      if exponent = -1074 then (mantissa, exponent, .exact)
      else (2 * mantissa, exponent - 1, .exact) := by
  have hone : totalExponent 0x10000000000000 (-52) = 1 := by decide
  have hge := h.exponent_ge
  by_cases hleast : exponent = -1074
  · have hlog : mantissa.log2 < 53 := (Nat.log2_lt (by omega)).2 h.mantissa_lt
    have htarget : min (exponent - -52) (Format.binary64.targetExponent
        (totalExponent mantissa exponent - 1)) = exponent := by
      rw [targetExponent_eq, totalExponent]
      omega
    have hshift : (exponent - -52 - exponent).toNat = 52 := by omega
    have hdigits : mantissa <<< 52 = mantissa * 0x10000000000000 := Nat.shiftLeft_eq _ _
    simp only [divCore, hone, htarget, hshift, hdigits, if_pos hleast]
    rw [Nat.mul_div_cancel _ (by decide), Nat.mul_mod_left]
    rfl
  · have hlog := log2_eq_of_full (h.full.resolve_right hleast) h.mantissa_lt
    have htarget : min (exponent - -52) (Format.binary64.targetExponent
        (totalExponent mantissa exponent - 1)) = exponent - 1 := by
      rw [targetExponent_eq, totalExponent, hlog]
      omega
    have hshift : (exponent - -52 - (exponent - 1)).toNat = 53 := by omega
    have hdigits : mantissa <<< 53 = 2 * mantissa * 0x10000000000000 := by
      rw [Nat.shiftLeft_eq]
      omega
    simp only [divCore, hone, htarget, hshift, hdigits, if_neg hleast]
    rw [Nat.mul_div_cancel _ (by decide), Nat.mul_mod_left]
    rfl

theorem div_one (value : Binary64) :
    UnpackedFloat.div .binary64 (unpacked value) (unpacked (ofNat 1)) = unpacked value := by
  have hone : unpacked (ofNat 1) = .finite .positive 0x10000000000000 (-52) (by decide) := rfl
  have hsign (sign : Sign) : sign / .positive = sign := by cases sign <;> rfl
  rw [hone]
  cases hvalue : unpacked value with
  | notANumber => rfl
  | infinity sign => rw [UnpackedFloat.div, hsign]
  | zero sign => rw [UnpackedFloat.div, hsign]
  | finite sign mantissa exponent hpos =>
    have hcanonical := isCanonical_of_unpacked hvalue
    rw [UnpackedFloat.div, hsign, divCore_one hpos hcanonical]
    by_cases hleast : exponent = -1074
    · rw [if_pos hleast]
      exact roundWithAccuracy_of_shift sign hpos hcanonical
        (shiftToTargetExponent_of_isCanonical hpos hcanonical)
    · rw [if_neg hleast]
      exact roundWithAccuracy_of_shift sign hpos hcanonical
        (shiftToTargetExponent_double (hcanonical.full.resolve_right hleast) hcanonical)

/-! ## Sums and differences -/

theorem negativeZero_add (value : Binary64) : negativeZero + value = packed (unpacked value) := by
  have hzero : unpacked negativeZero = .zero .negative := rfl
  rw [add_eq, hzero]
  cases unpacked value with
  | zero sign => cases sign <;> rfl
  | _ => rfl

/-- The distance of a finite value from itself is zero, and that of any other value is NaN. -/
theorem sub_unpacked_self (value : Binary64) :
    UnpackedFloat.sub .binary64 (unpacked value) (unpacked value) =
      if (unpacked value).isFinite then .zero .positive else .notANumber := by
  cases hvalue : unpacked value with
  | notANumber => rfl
  | infinity sign => cases sign <;> rfl
  | zero sign => cases sign <;> rfl
  | finite sign mantissa exponent hpos =>
    simp [UnpackedFloat.sub, UnpackedFloat.isFinite, UnpackedFloat.normalize]

/-! ## Mean and deviation -/

theorem mean_singleton (value : Binary64) : mean [value] = packed (unpacked value) := by
  have hmean : mean [value] = (negativeZero + value) / ofNat 1 := rfl
  rw [hmean, negativeZero_add, div_eq, unpacked_packed_unpacked, div_one]

theorem deviation_singleton (value : Binary64) :
    deviation [value] = if (unpacked value).isFinite then zero else quietNaN false := by
  have hdistance : squaredDistance (mean [value]) value =
      packed (UnpackedFloat.sub .binary64 (unpacked value) (unpacked value)) *
        packed (UnpackedFloat.sub .binary64 (unpacked value) (unpacked value)) := by
    rw [squaredDistance, mean_singleton, sub_eq, unpacked_packed_unpacked]
  have hdeviation : deviation [value] =
      ((negativeZero + squaredDistance (mean [value]) value) / ofNat 1).sqrt := rfl
  rw [hdeviation, hdistance, sub_unpacked_self]
  cases (unpacked value).isFinite with
  | false => decide
  | true => decide

theorem exists_mean_eq_packed (values : List Binary64) : ∃ number, mean values = packed number := by
  by_cases hnil : values = []
  · refine ⟨.notANumber, ?_⟩
    rw [mean, if_pos hnil]
    decide
  · refine ⟨.div .binary64 (unpacked (sum values)) (unpacked (ofNat values.length)), ?_⟩
    rw [mean, if_neg hnil, div_eq]

/-- A mean is its own mean. -/
theorem mean_mean (values : List Binary64) : mean [mean values] = mean values := by
  obtain ⟨number, hnumber⟩ := exists_mean_eq_packed values
  rw [mean_singleton, hnumber, packed_unpacked_packed]

theorem deviation_mean (values : List Binary64) :
    deviation [mean values] = if (mean values).isFinite then zero else quietNaN false := by
  rw [deviation_singleton, isFinite_eq]

end TrialSeries.Binary64
