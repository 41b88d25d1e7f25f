import TrialSeries.Proofs.Unpacking

/-!
# Special values

A number that is no NaN has a sign, and packing keeps the sign, whatever it does to the magnitude.
So arithmetic that overflows gives an infinity of the right sign. A NaN comes of nothing but a NaN,
two infinities, a zero or a number below zero in certain operations, so that squares, sums of what is
not below zero, quotients by counts and roots of these are no NaN.
-/

open Float.Model Float.Model.UnpackedFloat

namespace TrialSeries.Binary64

/-! ## Signs of numbers -/

/-- The sign of a number; only a NaN has none. -/
inductive HasSign (sign : Sign) : UnpackedFloat → Prop where
  | infinity : HasSign sign (.infinity sign)
  | zero : HasSign sign (.zero sign)
  | finite {mantissa : Nat} {exponent : Int} (hpos : 0 < mantissa) :
      HasSign sign (.finite sign mantissa exponent hpos)

/-- A number that is not below zero; `-0` is not. -/
inductive IsNonnegative : UnpackedFloat → Prop where
  | positive {number : UnpackedFloat} (h : HasSign .positive number) : IsNonnegative number
  | negativeZero : IsNonnegative (.zero .negative)

section Signs

variable {sign : Sign} {number left right : UnpackedFloat}

theorem exists_hasSign_iff : (∃ sign, HasSign sign number) ↔ number ≠ .notANumber := by
  constructor
  · rintro ⟨sign, _ | _ | _⟩ <;> nofun
  · intro h
    cases number with
    | infinity sign => exact ⟨sign, .infinity⟩
    | notANumber => exact absurd rfl h
    | zero sign => exact ⟨sign, .zero⟩
    | finite sign mantissa exponent hpos => exact ⟨sign, .finite hpos⟩

theorem HasSign.ne_notANumber (h : HasSign sign number) : number ≠ .notANumber :=
  exists_hasSign_iff.1 ⟨sign, h⟩

/-! ### Rounding -/

theorem hasSign_roundWithAccuracy (sign : Sign) (mantissa : Nat) (exponent : Int)
    (accuracy : Accuracy) :
    HasSign sign (roundWithAccuracy .binary64 sign mantissa exponent accuracy) := by
  simp only [roundWithAccuracy]
  split
  · exact .zero
  · exact .finite _

theorem hasSign_round (sign : Sign) (mantissa : Nat) (exponent : Int) :
    HasSign sign (round .binary64 sign mantissa exponent) :=
  hasSign_roundWithAccuracy _ _ _ _

theorem hasSign_normalize {mantissa : Int} (h : 0 ≤ mantissa) (exponent : Int) :
    HasSign .positive (UnpackedFloat.normalize .binary64 mantissa exponent .positive) := by
  unfold UnpackedFloat.normalize
  split
  · rename_i hlt
    have := Int.compare_eq_lt.1 hlt
    omega
  · exact .zero
  · exact hasSign_round _ _ _

theorem normalize_ne_notANumber (mantissa exponent : Int) (sign : Sign) :
    UnpackedFloat.normalize .binary64 mantissa exponent sign ≠ .notANumber := by
  unfold UnpackedFloat.normalize
  split
  · exact (hasSign_round _ _ _).ne_notANumber
  · exact HasSign.zero.ne_notANumber
  · exact (hasSign_round _ _ _).ne_notANumber

/-! ### Operations -/

/-- An infinity that meets a finite number stays. -/
theorem add_ne_notANumber (hleft : left ≠ .notANumber) (hright : right.isFinite = true) :
    UnpackedFloat.add .binary64 left right ≠ .notANumber := by
  cases right with
  | infinity | notANumber => cases hright
  | zero sign =>
    cases left with
    | infinity => nofun
    | notANumber => exact absurd rfl hleft
    | zero other => cases sign <;> cases other <;> nofun
    | finite => nofun
  | finite sign mantissa exponent hpos =>
    cases left with
    | infinity => nofun
    | notANumber => exact absurd rfl hleft
    | zero => nofun
    | finite => exact normalize_ne_notANumber _ _ _

theorem sub_ne_notANumber (hleft : left.isFinite = true) (hright : right ≠ .notANumber) :
    UnpackedFloat.sub .binary64 left right ≠ .notANumber := by
  cases left with
  | infinity | notANumber => cases hleft
  | zero sign =>
    cases right with
    | infinity => nofun
    | notANumber => exact absurd rfl hright
    | zero other => cases sign <;> cases other <;> nofun
    | finite => nofun
  | finite sign mantissa exponent hpos =>
    cases right with
    | infinity => nofun
    | notANumber => exact absurd rfl hright
    | zero => nofun
    | finite => exact normalize_ne_notANumber _ _ _

theorem HasSign.add (hleft : HasSign .positive left) (hright : HasSign .positive right) :
    HasSign .positive (UnpackedFloat.add .binary64 left right) := by
  cases hleft with
  | infinity => cases hright <;> exact .infinity
  | zero =>
    cases hright with
    | infinity => exact .infinity
    | zero => exact .zero
    | finite hpos => exact .finite hpos
  | finite hpos =>
    cases hright with
    | infinity => exact .infinity
    | zero => exact .finite hpos
    | finite => exact hasSign_normalize (Int.natCast_nonneg _) _

theorem IsNonnegative.add (hleft : IsNonnegative left) (hright : IsNonnegative right) :
    IsNonnegative (UnpackedFloat.add .binary64 left right) := by
  cases hleft with
  | negativeZero =>
    cases hright with
    | negativeZero => exact .negativeZero
    | positive hright => cases hright <;> exact .positive (by constructor)
  | positive hleft =>
    cases hright with
    | negativeZero => cases hleft <;> exact .positive (by constructor)
    | positive hright => exact .positive (hleft.add hright)

/-- The sign of a square is positive. -/
theorem hasSign_mul_self (h : number ≠ .notANumber) :
    HasSign .positive (UnpackedFloat.mul .binary64 number number) := by
  have hsign (sign : Sign) : sign * sign = .positive := by cases sign <;> rfl
  cases number with
  | infinity sign =>
    rw [UnpackedFloat.mul, hsign]
    exact .infinity
  | notANumber => exact absurd rfl h
  | zero sign =>
    rw [UnpackedFloat.mul, hsign]
    exact .zero
  | finite sign mantissa exponent hpos =>
    rw [UnpackedFloat.mul, hsign]
    exact hasSign_roundWithAccuracy _ _ _ _

theorem HasSign.div (h : HasSign sign number) {mantissa : Nat} {exponent : Int}
    (hpos : 0 < mantissa) :
    HasSign sign (UnpackedFloat.div .binary64 number (.finite .positive mantissa exponent hpos)) := by
  have hsign : sign / .positive = sign := by cases sign <;> rfl
  cases h with
  | infinity =>
    rw [UnpackedFloat.div, hsign]
    exact .infinity
  | zero =>
    rw [UnpackedFloat.div, hsign]
    exact .zero
  | finite =>
    rw [UnpackedFloat.div, hsign]
    exact hasSign_roundWithAccuracy _ _ _ _

theorem IsNonnegative.div (h : IsNonnegative number) {mantissa : Nat} {exponent : Int}
    (hpos : 0 < mantissa) :
    IsNonnegative (UnpackedFloat.div .binary64 number
      (.finite .positive mantissa exponent hpos)) := by
  cases h with
  | negativeZero => exact .negativeZero
  | positive h => exact .positive (h.div hpos)

theorem IsNonnegative.sqrt_ne_notANumber (h : IsNonnegative number) :
    UnpackedFloat.sqrt .binary64 number ≠ .notANumber := by
  cases h with
  | negativeZero => nofun
  | positive h =>
    cases h with
    | infinity | zero => nofun
    | finite => exact (hasSign_roundWithAccuracy _ _ _ _).ne_notANumber

/-! ### Packing -/

theorem unpackSign_packComponents (sign : Sign) (exponent : BitVec 11) (mantissa : BitVec 52) :
    unpackSign (packComponents .binary64 sign exponent mantissa) = sign.toBitVec := by
  ext i hi
  obtain rfl : i = 0 := by omega
  have hbit : (sign.toBitVec ++ exponent ++ mantissa).getLsbD 63 = sign.toBitVec[0] := by
    rw [BitVec.getLsbD_append, BitVec.getLsbD_append]
    simp [BitVec.getLsbD_eq_getElem]
  have hread : (unpackSign (packComponents .binary64 sign exponent mantissa))[0] =
      (packComponents .binary64 sign exponent mantissa).getLsbD 63 := by
    simp [unpackSign]
  exact hread.trans hbit

theorem ofBitVec_toBitVec (sign : Sign) : Sign.ofBitVec sign.toBitVec = sign := by
  cases sign <;> rfl

theorem Encodes.hasSign {bits : BitVec Format.binary64.numBits} (h : Encodes bits number)
    (hnumber : number ≠ .notANumber) : HasSign (Sign.ofBitVec (unpackSign bits)) number := by
  cases h with
  | infinity => exact .infinity
  | notANumber => exact absurd rfl hnumber
  | zero => exact .zero
  | subnormal => exact .finite _
  | normal => exact .finite _

/-- Fields that say of no NaN leave the sign as it is. -/
theorem hasSign_unpack_packComponents {exponent : BitVec 11} {mantissa : BitVec 52} (sign : Sign)
    (h : exponent = -1#11 → mantissa = 0#52) :
    HasSign sign (UnpackedFloat.unpack .binary64
      (packComponents .binary64 sign exponent mantissa)) := by
  have hnumber : UnpackedFloat.unpack .binary64
      (packComponents .binary64 sign exponent mantissa) ≠ .notANumber := by
    have hencodes := encodes_unpack (packComponents .binary64 sign exponent mantissa)
    intro hnan
    rw [hnan] at hencodes
    cases hencodes with
    | notANumber hall hmantissa =>
      rw [unpackExponent_packComponents] at hall
      rw [unpackMantissa_packComponents] at hmantissa
      exact absurd (h hall) hmantissa
  have hsign := (encodes_unpack (packComponents .binary64 sign exponent mantissa)).hasSign hnumber
  rwa [unpackSign_packComponents, ofBitVec_toBitVec] at hsign

theorem HasSign.unpacked_packed (h : HasSign sign number) :
    HasSign sign (unpacked (packed number)) := by
  rw [Binary64.unpacked_packed]
  cases h with
  | infinity => exact hasSign_unpack_packComponents sign fun _ ↦ rfl
  | zero => exact hasSign_unpack_packComponents sign fun _ ↦ rfl
  | @finite mantissa exponent hpos =>
    change HasSign sign (UnpackedFloat.unpack .binary64
      (UnpackedFloat.pack .binary64 (.finite sign mantissa exponent hpos)))
    simp only [UnpackedFloat.pack]
    split
    · exact hasSign_unpack_packComponents sign fun _ ↦ rfl
    · rename_i hbelow
      split
      · apply hasSign_unpack_packComponents
        intro hall
        have hfields := congrArg BitVec.toNat hall
        rw [BitVec.toNat_ofNat, Nat.mod_eq_of_lt (by omega)] at hfields
        have hmax : (-1#11).toNat = 2047 := rfl
        omega
      · apply hasSign_unpack_packComponents
        intro hall
        cases hall

theorem IsNonnegative.unpacked_packed (h : IsNonnegative number) :
    IsNonnegative (unpacked (packed number)) := by
  cases h with
  | negativeZero => exact .negativeZero
  | positive h => exact .positive h.unpacked_packed

theorem unpacked_packed_ne_notANumber (h : number ≠ .notANumber) :
    unpacked (packed number) ≠ .notANumber := by
  obtain ⟨sign, hsign⟩ := exists_hasSign_iff.2 h
  exact hsign.unpacked_packed.ne_notANumber

end Signs

/-! ## Counts -/

theorem roundHalfEven_le (numerator denominator : Nat) :
    roundHalfEven numerator denominator ≤ numerator / denominator + 1 := by
  simp only [roundHalfEven]
  split_ifs <;> omega

theorem binaryOrder_one {n : Nat} (hpos : n ≠ 0) : binaryOrder n 1 = n.log2 := by
  have hestimate : ((n.log2 : Int) - (Nat.log2 1 : Nat)) = n.log2 := by
    rw [show Nat.log2 1 = 0 from rfl]
    omega
  have hle : ¬ n * Nat.pow 2 (-(n.log2 : Int)).toNat < 1 * Nat.pow 2 (n.log2 : Int).toNat := by
    rw [Int.toNat_natCast, show (-(n.log2 : Int)).toNat = 0 by omega, Nat.pow_eq, Nat.pow_eq,
      pow_zero, Nat.mul_one, Nat.one_mul]
    exact (Nat.log2_self_le hpos).not_gt
  simp only [binaryOrder, hestimate]
  rw [if_neg hle]

/-- A quotient with its leading digit in the last place of a significand. -/
theorem aligned_lt (n : Nat) : n * 2 ^ (52 - n.log2) / 2 ^ (n.log2 - 52) < 0x20000000000000 := by
  rw [Nat.div_lt_iff_lt_mul (Nat.two_pow_pos _)]
  calc n * 2 ^ (52 - n.log2)
    _ < 2 ^ (n.log2 + 1) * 2 ^ (52 - n.log2) :=
      Nat.mul_lt_mul_of_pos_right Nat.lt_log2_self (Nat.two_pow_pos _)
    _ = 2 ^ 53 * 2 ^ (n.log2 - 52) := by
      rw [← Nat.pow_add, ← Nat.pow_add]
      congr 1
      omega

/-- The magnitude of a count is that of a finite number. -/
theorem nearestMagnitude_one {n : Nat} (hpos : n ≠ 0) (h : n < UInt64.size) :
    0 < nearestMagnitude n 1 ∧ nearestMagnitude n 1 < 0x7ff0000000000000 := by
  have hlog : n.log2 < 64 := by
    rw [Nat.log2_lt hpos]
    exact h
  have hunit : max ((n.log2 : Int) - 52) (-1074) = n.log2 - 52 := by omega
  have hdown : (-((n.log2 : Int) - 52)).toNat = 52 - n.log2 := by omega
  have hup : ((n.log2 : Int) - 52).toNat = n.log2 - 52 := by omega
  have hplace : ((n.log2 : Int) - 52 + 1074).toNat = n.log2 + 1022 := by omega
  have hunits := roundHalfEven_le (n * 2 ^ (52 - n.log2)) (2 ^ (n.log2 - 52))
  have hquotient := aligned_lt n
  have hmagnitude : nearestMagnitude n 1 = min ((n.log2 + 1022) * 0x10000000000000 +
      roundHalfEven (n * 2 ^ (52 - n.log2)) (2 ^ (n.log2 - 52))) 0x7ff0000000000000 := by
    simp only [nearestMagnitude, binaryOrder_one hpos, hunit, hdown, hup, hplace, Nat.pow_eq,
      Nat.one_mul]
  rw [hmagnitude]
  refine ⟨lt_min (by omega) (by decide), (min_le_left _ _).trans_lt ?_⟩
  omega

theorem toNat_ofNat_bits {n : Nat} (hpos : n ≠ 0) (h : n < UInt64.size) :
    (ofNat n).bits.toNat = nearestMagnitude n 1 := by
  obtain ⟨-, hhigh⟩ := nearestMagnitude_one hpos h
  have hbits : (ofNat n).bits = UInt64.ofNat (nearestMagnitude n 1) := by
    simp [ofNat, nearest, ofSignMagnitude, hpos]
  rw [hbits, UInt64.toNat_ofNat', Nat.mod_eq_of_lt (by omega)]

theorem ofBitVec_unpackSign {bits : BitVec Format.binary64.numBits}
    (h : bits.toNat < 0x8000000000000000) : Sign.ofBitVec (unpackSign bits) = .positive := by
  have hsign : (unpackSign bits).toNat = 0 := by
    have hbit : bits.toNat / 0x8000000000000000 % 2 = 0 := by rw [Nat.div_eq_of_lt h]
    simpa [unpackSign, Nat.shiftRight_eq_div_pow] using hbit
  rw [Sign.ofBitVec, if_pos (BitVec.eq_of_toNat_eq hsign)]

/-- The bits between those of `0` and those of infinity stand for positive finite numbers. -/
theorem exists_unpacked_of_toNat_bits {value : Binary64} (hlow : 0 < value.bits.toNat)
    (hhigh : value.bits.toNat < 0x7ff0000000000000) :
    ∃ mantissa exponent, ∃ hpos : 0 < mantissa,
      unpacked value = .finite .positive mantissa exponent hpos := by
  have hencodes := encodes_unpacked value
  have hsign := @ofBitVec_unpackSign value.bits.toBitVec (lt_trans hhigh (by decide))
  have hexponent := toNat_unpackExponent value
  have hmantissa := toNat_unpackMantissa value
  rw [exponentField] at hexponent
  rw [fractionField] at hmantissa
  have hall : (-1#11).toNat = 2047 := rfl
  generalize unpacked value = number at hencodes ⊢
  cases hencodes with
  | infinity hexp _ =>
    rw [hexp] at hexponent
    omega
  | notANumber hexp _ =>
    rw [hexp] at hexponent
    omega
  | zero hexp hfraction =>
    rw [hexp, BitVec.toNat_zero] at hexponent
    rw [hfraction, BitVec.toNat_zero] at hmantissa
    omega
  | subnormal => exact ⟨_, _, _, by rw [hsign]⟩
  | normal => exact ⟨_, _, _, by rw [hsign]⟩

/-- A count is a positive finite number. -/
theorem exists_unpacked_ofNat {n : Nat} (hpos : n ≠ 0) (h : n < UInt64.size) :
    ∃ mantissa exponent, ∃ hmantissa : 0 < mantissa,
      unpacked (ofNat n) = .finite .positive mantissa exponent hmantissa := by
  obtain ⟨hlow, hhigh⟩ := nearestMagnitude_one hpos h
  have hbits := toNat_ofNat_bits hpos h
  exact exists_unpacked_of_toNat_bits (by omega) (by omega)

/-! ## Values -/

section Values

variable {left right value : Binary64} {n : Nat}

theorem unpacked_add_ne_notANumber (hleft : unpacked left ≠ .notANumber)
    (hright : right.isFinite = true) : unpacked (left + right) ≠ .notANumber := by
  rw [isFinite_eq] at hright
  rw [add_eq]
  exact unpacked_packed_ne_notANumber (add_ne_notANumber hleft hright)

theorem isNonnegative_unpacked_add (hleft : IsNonnegative (unpacked left))
    (hright : IsNonnegative (unpacked right)) : IsNonnegative (unpacked (left + right)) := by
  rw [add_eq]
  exact (hleft.add hright).unpacked_packed

/-- The distance of a finite value from a number has a square, though it may be infinite. -/
theorem isNonnegative_unpacked_sub_mul_self (hleft : left.isFinite = true)
    (hright : unpacked right ≠ .notANumber) :
    IsNonnegative (unpacked ((left - right) * (left - right))) := by
  rw [isFinite_eq] at hleft
  have hdistance : unpacked (left - right) ≠ .notANumber := by
    rw [sub_eq]
    exact unpacked_packed_ne_notANumber (sub_ne_notANumber hleft hright)
  rw [mul_eq]
  exact (IsNonnegative.positive (hasSign_mul_self hdistance)).unpacked_packed

theorem unpacked_div_ofNat_ne_notANumber (hvalue : unpacked value ≠ .notANumber) (hpos : n ≠ 0)
    (h : n < UInt64.size) : unpacked (value / ofNat n) ≠ .notANumber := by
  obtain ⟨mantissa, exponent, hmantissa, hcount⟩ := exists_unpacked_ofNat hpos h
  obtain ⟨sign, hsign⟩ := exists_hasSign_iff.2 hvalue
  rw [div_eq, hcount]
  exact unpacked_packed_ne_notANumber (hsign.div hmantissa).ne_notANumber

theorem isNonnegative_unpacked_div_ofNat (hvalue : IsNonnegative (unpacked value)) (hpos : n ≠ 0)
    (h : n < UInt64.size) : IsNonnegative (unpacked (value / ofNat n)) := by
  obtain ⟨mantissa, exponent, hmantissa, hcount⟩ := exists_unpacked_ofNat hpos h
  rw [div_eq, hcount]
  exact (hvalue.div hmantissa).unpacked_packed

theorem unpacked_sqrt_ne_notANumber (hvalue : IsNonnegative (unpacked value)) :
    unpacked value.sqrt ≠ .notANumber := by
  rw [sqrt_eq]
  exact unpacked_packed_ne_notANumber hvalue.sqrt_ne_notANumber

end Values

end TrialSeries.Binary64
