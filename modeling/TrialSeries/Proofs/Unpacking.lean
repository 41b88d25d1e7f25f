import Mathlib
import TrialSeries.Binary64

/-!
# Unpacked values

Arithmetic takes values apart into a sign, a significand and an exponent, and packs its results into
bits again. Packing undoes unpacking for every value that is no NaN, and what is unpacked from bits
has a significand of at most fifty-three bits, of which the highest is missing only at the least
exponent.
-/

open Float.Model Float.Model.UnpackedFloat

namespace TrialSeries.Binary64

/-- The number for which the bits of a value stand. -/
def unpacked (value : Binary64) : UnpackedFloat := value.toFloat.toModel.unpack

/-- The value whose bits stand for a number. -/
def packed (number : UnpackedFloat) : Binary64 := ⟨(Float.Model.pack number).toBits⟩

theorem add_eq (left right : Binary64) :
    left + right = packed (.add .binary64 (unpacked left) (unpacked right)) := rfl

theorem sub_eq (left right : Binary64) :
    left - right = packed (.sub .binary64 (unpacked left) (unpacked right)) := rfl

theorem mul_eq (left right : Binary64) :
    left * right = packed (.mul .binary64 (unpacked left) (unpacked right)) := rfl

theorem div_eq (left right : Binary64) :
    left / right = packed (.div .binary64 (unpacked left) (unpacked right)) := rfl

theorem sqrt_eq (value : Binary64) :
    value.sqrt = packed (.sqrt .binary64 (unpacked value)) := rfl

/-! ## The three fields -/

/-- The leading bit of a normal significand is not stored. -/
theorem toNat_append_mantissa (mantissa : BitVec 52) :
    (1#1 ++ mantissa).toNat = 0x10000000000000 + mantissa.toNat := by
  rw [BitVec.toNat_append, ← Nat.shiftLeft_add_eq_or_of_lt mantissa.isLt]
  simp [Nat.shiftLeft_eq]

/-- How the fields of a bit pattern say which number it stands for. -/
inductive Encodes (bits : BitVec Format.binary64.numBits) : UnpackedFloat → Prop where
  | infinity (exponent : unpackExponent bits = -1#11) (mantissa : unpackMantissa bits = 0#52) :
      Encodes bits (.infinity (Sign.ofBitVec (unpackSign bits)))
  | notANumber (exponent : unpackExponent bits = -1#11) (mantissa : unpackMantissa bits ≠ 0#52) :
      Encodes bits .notANumber
  | zero (exponent : unpackExponent bits = 0#11) (mantissa : unpackMantissa bits = 0#52) :
      Encodes bits (.zero (Sign.ofBitVec (unpackSign bits)))
  | subnormal (exponent : unpackExponent bits = 0#11) (pos : 0 < (unpackMantissa bits).toNat) :
      Encodes bits (.finite (Sign.ofBitVec (unpackSign bits)) (unpackMantissa bits).toNat (-1074) pos)
  | normal (notAll : (unpackExponent bits).toNat < 2047) (notZero : 0 < (unpackExponent bits).toNat)
      (pos : 0 < 0x10000000000000 + (unpackMantissa bits).toNat) :
      Encodes bits (.finite (Sign.ofBitVec (unpackSign bits))
        (0x10000000000000 + (unpackMantissa bits).toNat)
        ((unpackExponent bits).toNat - 1075) pos)

theorem encodes_unpack (bits : BitVec Format.binary64.numBits) :
    Encodes bits (UnpackedFloat.unpack .binary64 bits) := by
  have hexponent : (unpackExponent bits).toNat < 2048 := (unpackExponent bits).isLt
  rw [UnpackedFloat.unpack]
  split
  · rename_i hall
    split
    · rename_i hmantissa
      exact .infinity hall hmantissa
    · rename_i hmantissa
      exact .notANumber hall hmantissa
  · rename_i hall
    have hnotAll : (unpackExponent bits).toNat ≠ 2047 := by
      intro heq
      exact hall (BitVec.eq_of_toNat_eq heq)
    split
    · rename_i hzero
      split
      · rename_i hmantissa
        exact .zero hzero hmantissa
      · rename_i hmantissa
        have hpos : 0 < (unpackMantissa bits).toNat := by
          rw [Nat.pos_iff_ne_zero]
          intro heq
          exact hmantissa (BitVec.eq_of_toNat_eq heq)
        convert Encodes.subnormal hzero hpos using 2
        rw [hzero]
        rfl
    · rename_i hzero
      have hpos : 0 < (unpackExponent bits).toNat := by
        rw [Nat.pos_iff_ne_zero]
        intro heq
        exact hzero (BitVec.eq_of_toNat_eq heq)
      convert Encodes.normal (by omega) hpos (by omega) using 2
      · exact toNat_append_mantissa _
      · rfl

/-! ## Packing undoes unpacking -/

/-- A value that was packed is the same value after unpacking. -/
theorem pack_unpack (model : Float.Model) : Float.Model.pack model.unpack = model := by
  obtain ⟨bits, hvalid⟩ := model
  simp only [Float.Model.pack, Float.Model.unpack, pack_unpack_of_valid hvalid]

theorem unpacked_packed (number : UnpackedFloat) :
    unpacked (packed number) = (Float.Model.pack number).unpack := by
  have hbits : Float.Model.ofBits (packed number).bits = Float.Model.pack number :=
    pack_unpack (Float.Model.pack number)
  rw [unpacked, toFloat, Float.ofBits, hbits]

theorem packed_unpacked_packed (number : UnpackedFloat) :
    packed (unpacked (packed number)) = packed number := by
  rw [unpacked_packed, packed, pack_unpack]
  rfl

theorem unpacked_packed_unpacked (value : Binary64) :
    unpacked (packed (unpacked value)) = unpacked value := by
  rw [unpacked_packed, unpacked, pack_unpack]

/-! ## Canonical numbers -/

/-- A finite number is held with as many digits as the format has room for. -/
structure IsCanonical (mantissa : Nat) (exponent : Int) : Prop where
  mantissa_lt : mantissa < 0x20000000000000
  exponent_ge : -1074 ≤ exponent
  full : 0x10000000000000 ≤ mantissa ∨ exponent = -1074

theorem Encodes.isCanonical {bits : BitVec Format.binary64.numBits} {sign : Sign} {mantissa : Nat}
    {exponent : Int} {hpos : 0 < mantissa}
    (h : Encodes bits (.finite sign mantissa exponent hpos)) : IsCanonical mantissa exponent := by
  have hmantissa : (unpackMantissa bits).toNat < 0x10000000000000 := (unpackMantissa bits).isLt
  cases h with
  | subnormal hzero _ => exact ⟨by omega, by omega, .inr rfl⟩
  | normal hnotAll hnotZero _ => exact ⟨by omega, by omega, .inl (by omega)⟩

theorem isCanonical_of_unpacked {value : Binary64} {sign : Sign} {mantissa : Nat} {exponent : Int}
    {hpos : 0 < mantissa} (h : unpacked value = .finite sign mantissa exponent hpos) :
    IsCanonical mantissa exponent := by
  have hencodes := encodes_unpack value.toFloat.toModel.toBits.toBitVec
  rw [unpacked, Float.Model.unpack] at h
  rw [h] at hencodes
  exact hencodes.isCanonical

/-! ## Unpacking bits that are held -/

theorem valid_of_unpack_ne {bits : BitVec Format.binary64.numBits}
    (h : UnpackedFloat.unpack .binary64 bits ≠ .notANumber) : Format.binary64.Valid bits := by
  constructor
  intro hexponent hmantissa
  refine absurd ?_ h
  rw [UnpackedFloat.unpack, if_pos hexponent, if_neg hmantissa]

/-- Reading a value as a number may change the bits of a NaN, which unpack to a NaN again. -/
theorem unpacked_eq_unpack (value : Binary64) :
    unpacked value = UnpackedFloat.unpack .binary64 value.bits.toBitVec := by
  by_cases hnumber : UnpackedFloat.unpack .binary64 value.bits.toBitVec = .notANumber
  · have hmodel : unpacked value =
        (Float.Model.pack (.unpack .binary64 value.bits.toBitVec)).unpack := rfl
    rw [hmodel, hnumber]
    rfl
  · exact congrArg (UnpackedFloat.unpack .binary64)
      (pack_unpack_of_valid (valid_of_unpack_ne hnumber))

/-! ## Kinds of values -/

theorem toNat_unpackExponent (value : Binary64) :
    (unpackExponent value.bits.toBitVec : BitVec Format.binary64.exponentBits).toNat =
      value.exponentField := by
  simp [unpackExponent, exponentField, Nat.shiftRight_eq_div_pow]

theorem toNat_unpackMantissa (value : Binary64) :
    (unpackMantissa value.bits.toBitVec : BitVec Format.binary64.mantissaBitsWithoutImplicit).toNat =
      value.fractionField := by
  simp [unpackMantissa, fractionField]

theorem encodes_unpacked (value : Binary64) : Encodes value.bits.toBitVec (unpacked value) := by
  rw [unpacked_eq_unpack]
  exact encodes_unpack value.bits.toBitVec

theorem isFinite_eq (value : Binary64) : value.isFinite = (unpacked value).isFinite := by
  have hencodes := encodes_unpacked value
  rw [isFinite, ← toNat_unpackExponent]
  generalize unpacked value = number at hencodes ⊢
  cases hencodes with
  | infinity hall _ => rw [hall]; rfl
  | notANumber hall _ => rw [hall]; rfl
  | zero hzero _ => rw [hzero]; rfl
  | subnormal hzero _ => rw [hzero]; rfl
  | normal hnotAll _ _ => simpa [UnpackedFloat.isFinite] using hnotAll.ne

theorem isNaN_iff {value : Binary64} : value.isNaN = true ↔ unpacked value = .notANumber := by
  have hencodes := encodes_unpacked value
  rw [isNaN, ← toNat_unpackExponent, ← toNat_unpackMantissa]
  generalize unpacked value = number at hencodes ⊢
  cases hencodes with
  | infinity hall hzero => simp [hall, hzero]
  | notANumber hall hne =>
    have hfield := mt BitVec.eq_of_toNat_eq hne
    simpa [hall] using hfield
  | zero hzero _ => simp [hzero]
  | subnormal hzero _ => simp [hzero]
  | normal hnotAll _ _ => simp [hnotAll.ne]

end TrialSeries.Binary64
