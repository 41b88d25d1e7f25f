import TrialSeries.Proofs.Unpacking

/-!
# Equality of numbers

Arithmetic compares the numbers for which bits stand. Only a NaN has other bits than those to which
its number is packed, and a NaN equals nothing, so two values that are equal as numbers are one value
unless one is `0` and the other `-0`.
-/

open Float.Model Float.Model.UnpackedFloat

namespace TrialSeries.Binary64

theorem packed_unpacked {value : Binary64} (h : unpacked value ≠ .notANumber) :
    packed (unpacked value) = value := by
  rw [unpacked_eq_unpack] at h ⊢
  exact congrArg (fun bits ↦ (⟨⟨bits⟩⟩ : Binary64)) (pack_unpack_of_valid (valid_of_unpack_ne h))

/-! ## The zeros -/

theorem isZero_iff {value : Binary64} :
    value.isZero = true ↔ value = .zero ∨ value = .negativeZero := by
  obtain ⟨bits⟩ := value
  have hlt := bits.toNat_lt
  rw [isZero, beq_iff_eq, zero, negativeZero, mk.injEq, mk.injEq, ← UInt64.toNat_inj,
    ← UInt64.toNat_inj]
  change bits.toNat % 0x8000000000000000 = 0 ↔ bits.toNat = 0 ∨ bits.toNat = 0x8000000000000000
  omega

/-- Only the two zeros stand for zero. -/
theorem unpacked_eq_zero_iff {value : Binary64} :
    (∃ sign, unpacked value = .zero sign) ↔ value.isZero = true := by
  rw [isZero_iff]
  constructor
  · rintro ⟨sign, hzero⟩
    have hvalue : packed (.zero sign) = value := by
      rw [← hzero, packed_unpacked (by simp [hzero])]
    rw [← hvalue]
    cases sign with
    | positive => exact .inl rfl
    | negative => exact .inr rfl
  · rintro (rfl | rfl)
    · exact ⟨.positive, rfl⟩
    · exact ⟨.negative, rfl⟩

/-! ## Equality -/

/-- Unpacked numbers are equal if they are the same or both zero; no number equals a NaN. -/
theorem compare_eq_some_eq_iff {left right : UnpackedFloat} :
    left.compare right = some .eq ↔
      left ≠ .notANumber ∧
        (left = right ∨ (∃ sign, left = .zero sign) ∧ ∃ sign, right = .zero sign) := by
  have hsign : ∀ sign : Sign, compare sign sign = .eq := by
    intro sign
    cases sign <;> rfl
  -- finite numbers of one sign are compared by their exponents and then by their significands
  rcases left with (_ | _) | _ | _ | ⟨_ | _, _, _, _⟩ <;>
    rcases right with (_ | _) | _ | _ | ⟨_ | _, _, _, _⟩ <;>
    simp [UnpackedFloat.compare, Ordering.then_eq_eq, hsign, and_comm]

/-- Values are equal numbers if they are one value that is no NaN, or both zero. -/
theorem sameNumber_iff {left right : Binary64} :
    left.sameNumber right = true ↔
      unpacked left ≠ .notANumber ∧
        (left = right ∨ left.isZero = true ∧ right.isZero = true) := by
  have hbeq : left.sameNumber right = ((unpacked left).compare (unpacked right) == some .eq) := rfl
  rw [hbeq, beq_iff_eq, compare_eq_some_eq_iff, unpacked_eq_zero_iff, unpacked_eq_zero_iff]
  apply and_congr_right
  intro hnumber
  apply or_congr_left
  constructor
  · intro heq
    rw [← packed_unpacked hnumber, heq, packed_unpacked (heq ▸ hnumber)]
  · exact congrArg unpacked

/-! ## Without `-0` -/

theorem normalizeZero_ne_negativeZero (value : Binary64) : value.normalizeZero ≠ .negativeZero := by
  rw [normalizeZero]
  split
  · decide
  · rename_i hzero
    rintro rfl
    exact hzero rfl

theorem eq_of_sameNumber {left right : Binary64} (h : left.sameNumber right = true)
    (hleft : left ≠ .negativeZero) (hright : right ≠ .negativeZero) : left = right := by
  rcases (sameNumber_iff.1 h).2 with heq | ⟨hzero, hother⟩
  · exact heq
  · rw [(isZero_iff.1 hzero).resolve_right hleft, (isZero_iff.1 hother).resolve_right hright]

/-- Numbers of which none is `-0`, so that two equal ones are one value. -/
structure HaveOneZero (numbers : Set Binary64) : Prop where
  negativeZero_notMem : .negativeZero ∉ numbers
  eq_of_sameNumber {left right : Binary64} (hleft : left ∈ numbers) (hright : right ∈ numbers)
    (h : left.sameNumber right = true) : left = right

theorem haveOneZero_iff {numbers : Set Binary64} :
    HaveOneZero numbers ↔ .negativeZero ∉ numbers := by
  refine ⟨HaveOneZero.negativeZero_notMem, fun hzero ↦ ⟨hzero, ?_⟩⟩
  intro left right hleft hright h
  exact eq_of_sameNumber h (ne_of_mem_of_not_mem hleft hzero) (ne_of_mem_of_not_mem hright hzero)

end TrialSeries.Binary64
