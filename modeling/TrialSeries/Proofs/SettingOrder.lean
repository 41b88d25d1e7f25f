import TrialSeries.Proofs.ByteOrder
import TrialSeries.Proofs.NumberOrder
import TrialSeries.Setting

/-!
# The order of settings

Settings are in a linear order, in which two of them compare equal only if they are one setting to the
last bit. The numbers come first, in the order of the extended real numbers for which they stand, with
`-0` before `0` and the NaNs at the two ends by their signs. The labels follow, in the order of their
encodings.
-/

namespace TrialSeries.Setting

/-- Two settings are numbers with the same bits, or labels with the same text. -/
inductive AreIdentical : Setting → Setting → Prop where
  | numbers {left right : Binary64} (h : left.bits = right.bits) :
      AreIdentical (.number left) (.number right)
  | labels {left right : String} (h : left.toList = right.toList) :
      AreIdentical (.label left) (.label right)

theorem areIdentical_iff {left right : Setting} : AreIdentical left right ↔ left = right := by
  constructor
  · intro h
    cases h with
    | @numbers left right hbits =>
      obtain ⟨left⟩ := left
      exact congrArg (fun bits ↦ number ⟨bits⟩) hbits
    | labels htext => exact congrArg label (String.toList_inj.1 htext)
  · rintro rfl
    cases left with
    | number value => exact .numbers rfl
    | label text => exact .labels rfl

/-- Comparing is a linear order: any two settings compare, one way round or the other, comparing goes
through a third setting, and nothing but a setting itself is both before and behind it. -/
structure IsLinear (order : Setting → Setting → Ordering) : Prop where
  total (left right : Setting) : (order left right).isLE = true ∨ (order right left).isLE = true
  swap (left right : Setting) : order right left = (order left right).swap
  trans {first second third : Setting} (hfirst : (order first second).isLE = true)
    (hsecond : (order second third).isLE = true) : (order first third).isLE = true
  antisymm {left right : Setting} (hle : (order left right).isLE = true)
    (hge : (order right left).isLE = true) : left = right

/-- What comes first: a number before a label, a label by its bytes, and a number by its value. Only
`-0` and `0` have one value and an order, and the NaNs have none and stand outside of all others. -/
structure IsByValue (order : Setting → Setting → Ordering) : Prop where
  number_label (value : Binary64) (text : String) : order (.number value) (.label text) = .lt
  label_label (left right : String) :
    order (.label left) (.label right) = .lt ↔ Text.bytes left < Text.bytes right
  number_number {left right : Binary64} (hleft : left.isNaN = false)
    (hright : right.isNaN = false) :
    order (.number left) (.number right) = .lt ↔
      left.number < right.number ∨ left = .negativeZero ∧ right = .zero
  negativeNaN {left right : Binary64} (hnan : left.isNaN = true)
    (hsign : left.isNegative = true) (hother : ¬ (right.isNaN = true ∧ right.isNegative = true)) :
    order (.number left) (.number right) = .lt
  positiveNaN {left right : Binary64} (hnan : left.isNaN = true)
    (hsign : left.isNegative = false) (hother : ¬ (right.isNaN = true ∧ right.isNegative = false)) :
    order (.number left) (.number right) = .gt

theorem compare_swap (left right : Setting) : compare right left = (compare left right).swap :=
  Std.OrientedCmp.eq_swap

theorem isLinear_compare : IsLinear compare where
  total left right := by
    rw [compare_swap left right]
    cases compare left right <;> decide
  swap := compare_swap
  trans hfirst hsecond := Std.TransCmp.isLE_trans hfirst hsecond
  antisymm {left right} hle hge := by
    rw [compare_swap left right] at hge
    cases hcompare : compare left right with
    | lt =>
      rw [hcompare] at hge
      cases hge
    | eq => exact Std.LawfulEqCmp.eq_of_compare hcompare
    | gt =>
      rw [hcompare] at hle
      cases hle

theorem isByValue_compare : IsByValue compare where
  number_label _ _ := rfl
  label_label _ _ := Text.compare_eq_lt_iff_bytes_lt
  number_number := Binary64.compare_eq_lt_iff_number
  negativeNaN := Binary64.compare_eq_lt_of_isNaN
  positiveNaN := Binary64.compare_eq_gt_of_isNaN

theorem compare_eq_eq_iff {left right : Setting} :
    compare left right = .eq ↔ AreIdentical left right := by
  rw [areIdentical_iff]
  exact Std.LawfulEqCmp.compare_eq_iff_eq

/-- Settings are in a linear order by their values, and comparing equal, being the same setting and
comparing equal where settings compare at all are three names of being identical. -/
theorem isLinear_isByValue_compare :
    IsLinear compare ∧ IsByValue compare ∧
      ∀ left right : Setting,
        (compare left right = .eq ↔ AreIdentical left right) ∧
        (left.isSame right = true ↔ AreIdentical left right) ∧
        (left.compare? right = some .eq ↔ AreIdentical left right) := by
  refine ⟨isLinear_compare, isByValue_compare, ?_⟩
  intro left right
  refine ⟨compare_eq_eq_iff, ?_, ?_⟩
  · rw [isSame, beq_iff_eq, compare_eq_eq_iff]
  · rw [compare?, Option.some_inj, compare_eq_eq_iff]

end TrialSeries.Setting
