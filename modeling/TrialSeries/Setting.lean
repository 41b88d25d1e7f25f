import TrialSeries.Decimal.Literal
import TrialSeries.Decimal.Notation
import TrialSeries.Text.Characters

/-!
# Settings of the swept parameter

A setting is one value of the parameter that an experiment sweeps: a number, such as a hop count,
or a label, such as a protocol name. Settings are ordered with the numbers first, by the total order
of binary64, and then the labels, by code points; two settings are the same setting exactly when
they compare equal.
-/

namespace TrialSeries

inductive Setting where
  | number (value : Binary64)
  | label (text : String)
deriving DecidableEq, Inhabited

namespace Setting

/-- A numeric setting; both zeros are the same setting. -/
def ofNumber (value : Binary64) : Setting := .number value.normalizeZero

/-- The setting that a field of text names: a number if the trimmed text is a number literal. -/
def ofField (field : List Char) : Setting :=
  match Binary64.parse? (Text.trim field) with
  | some value => ofNumber value
  | none => .label (String.ofList (Text.trim field))

def display : Setting → String
  | number value => value.display
  | label text => text

/-! ## Order -/

def order : Setting → Setting → Ordering
  | number left, number right => compare left right
  | number _, label _ => .lt
  | label _, number _ => .gt
  | label left, label right => compare left right

instance : Ord Setting := ⟨order⟩

/-- Settings that compare equal are the same setting. -/
def isSame (left right : Setting) : Bool := compare left right == .eq

/-- How two settings compare. There are no settings that do not. -/
def compare? (left right : Setting) : Option Ordering := some (compare left right)

instance : Std.OrientedOrd Setting where
  eq_swap {left right} := by
    cases left with
    | number left =>
      cases right with
      | number right =>
        change compare left right = (compare right left).swap
        exact Std.OrientedCmp.eq_swap
      | label _ => rfl
    | label left =>
      cases right with
      | number _ => rfl
      | label right =>
        change compare left right = (compare right left).swap
        exact Std.OrientedCmp.eq_swap

/-- No label stands before a number, so settings in order are of one kind or pass from the numbers to
the labels once. -/
theorem isLE_trans {first second third : Setting} (hfirst : (compare first second).isLE = true)
    (hsecond : (compare second third).isLE = true) : (compare first third).isLE = true := by
  cases first with
  | number first =>
    cases third with
    | label _ => rfl
    | number third =>
      cases second with
      | number second =>
        change (compare first second).isLE = true at hfirst
        change (compare first third).isLE = true
        exact Std.TransCmp.isLE_trans hfirst hsecond
      | label _ => cases hsecond
  | label first =>
    cases second with
    | number _ => cases hfirst
    | label second =>
      cases third with
      | number _ => cases hsecond
      | label third =>
        change (compare first second).isLE = true at hfirst
        change (compare first third).isLE = true
        exact Std.TransCmp.isLE_trans hfirst hsecond

instance : Std.TransOrd Setting where
  isLE_trans := isLE_trans

instance : Std.LawfulEqOrd Setting where
  compare_self {setting} := by
    cases setting with
    | number value => exact (Std.ReflCmp.compare_self : compare value value = .eq)
    | label text => exact (Std.ReflCmp.compare_self : compare text text = .eq)
  eq_of_compare {left right} h := by
    cases left with
    | number left =>
      cases right with
      | number right =>
        change compare left right = .eq at h
        exact congrArg number (Std.LawfulEqCmp.eq_of_compare h)
      | label _ => cases h
    | label left =>
      cases right with
      | number _ => cases h
      | label right =>
        change compare left right = .eq at h
        exact congrArg label (Std.LawfulEqCmp.eq_of_compare h)

end Setting

end TrialSeries
