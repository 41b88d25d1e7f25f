import Mathlib.Data.List.Lex
import Mathlib.Tactic.SplitIfs

/-!
# The order of texts

Texts are compared by code points, and this is the order of their UTF-8 encodings as sequences of
bytes: a greater character has an encoding that is greater at the first byte at which the two differ,
and no encoding is the start of another one.
-/

namespace TrialSeries.Text

/-- The UTF-8 encoding of a text. -/
def bytes (text : String) : List UInt8 := text.toUTF8.data.toList

theorem bytes_eq_flatMap (text : String) :
    bytes text = text.toList.flatMap String.utf8EncodeChar := by
  rw [bytes, String.toUTF8_eq_toByteArray, ← String.utf8Encode_toList, List.utf8Encode,
    List.toList_data_toByteArray]

theorem toNat_val_lt (char : Char) : char.val.toNat < 0x110000 := by
  have hvalid := char.valid
  simp only [UInt32.isValidChar, Nat.isValidChar] at hvalid
  omega

/-- What follows the encodings of two differing characters does not matter. -/
theorem utf8EncodeChar_append_lt {left right : Char} (h : left < right)
    (leftRest rightRest : List UInt8) :
    String.utf8EncodeChar left ++ leftRest < String.utf8EncodeChar right ++ rightRest := by
  have hlt : left.val.toNat < right.val.toNat := UInt32.lt_iff_toNat_lt.1 h
  have hleft := toNat_val_lt left
  have hright := toNat_val_lt right
  simp only [String.utf8EncodeChar]
  generalize left.val.toNat = low at *
  generalize right.val.toNat = high at *
  -- One case for each pair of lengths; the markers of the bytes cancel before the digits are compared.
  split_ifs <;>
    simp only [List.cons_append, List.nil_append, List.cons_lt_cons_iff, UInt8.lt_iff_toNat_lt,
      ← UInt8.toNat_inj, UInt8.toNat_ofNat', Nat.reducePow] <;>
    simp (disch := omega) only [Nat.mod_eq_of_lt, Nat.add_lt_add_iff_right,
      Nat.add_right_cancel_iff] <;>
    omega

theorem flatMap_utf8EncodeChar_lt {left right : List Char} (h : left < right) :
    left.flatMap String.utf8EncodeChar < right.flatMap String.utf8EncodeChar := by
  induction h with
  | @nil head rest =>
    obtain ⟨byte, bytes, hbytes⟩ := List.exists_cons_of_ne_nil (String.utf8EncodeChar_ne_nil (c := head))
    rw [List.flatMap_cons, hbytes]
    exact .nil
  | rel hlt => exact utf8EncodeChar_append_lt hlt _ _
  | cons _ ih => exact List.append_left_lt ih

/-- Texts are ordered as their encodings are. -/
theorem compare_eq_lt_iff_bytes_lt {left right : String} :
    compare left right = .lt ↔ bytes left < bytes right := by
  have hstep {first second : String} (h : compare first second = .lt) :
      bytes first < bytes second := by
    rw [bytes_eq_flatMap, bytes_eq_flatMap]
    exact flatMap_utf8EncodeChar_lt (String.lt_iff.1 (compareOfLessAndEq_eq_lt.1 h))
  constructor
  · exact hstep
  · intro hbytes
    cases hcompare : compare left right with
    | lt => rfl
    | eq =>
      obtain rfl := Std.LawfulEqCmp.eq_of_compare hcompare
      exact absurd hbytes (List.lt_irrefl _)
    | gt =>
      have hgreater := hstep (Std.OrientedCmp.gt_iff_lt.1 hcompare)
      exact absurd hbytes (List.lt_asymm hgreater)

theorem bytes_le_iff {left right : String} :
    bytes left ≤ bytes right ↔ compare right left ≠ .lt := by
  rw [ne_eq, compare_eq_lt_iff_bytes_lt, List.not_lt]

theorem eq_of_bytes_le {left right : String} (hle : bytes left ≤ bytes right)
    (hge : bytes right ≤ bytes left) : left = right := by
  rw [bytes_le_iff] at hle hge
  cases hcompare : compare left right with
  | lt => exact absurd hcompare hge
  | eq => exact Std.LawfulEqCmp.eq_of_compare hcompare
  | gt => exact absurd (Std.OrientedCmp.gt_iff_lt.1 hcompare) hle

/-! ## Least texts -/

/-- The least text with a property, in the order of the encodings. -/
def IsLeast (property : String → Prop) (text : String) : Prop :=
  property text ∧ ∀ other, property other → bytes text ≤ bytes other

theorem IsLeast.unique {property : String → Prop} {left right : String}
    (hleft : IsLeast property left) (hright : IsLeast property right) : left = right :=
  eq_of_bytes_le (hleft.2 right hright.1) (hright.2 left hleft.1)

/-- The first of some ascending texts to pass a test is the least one to pass it. -/
theorem find?_eq_some_iff_isLeast {texts : List String} {test : String → Bool} {text : String}
    (h : texts.Pairwise fun left right ↦ compare left right = .lt) :
    texts.find? test = some text ↔ IsLeast (fun text ↦ text ∈ texts ∧ test text = true) text := by
  have hleast {found : String} (hfound : texts.find? test = some found) :
      IsLeast (fun text ↦ text ∈ texts ∧ test text = true) found := by
    obtain ⟨htest, before, after, rfl, hbefore⟩ := List.find?_eq_some_iff_append.1 hfound
    refine ⟨⟨by simp, htest⟩, ?_⟩
    rintro other ⟨hother, hpass⟩
    rw [bytes_le_iff]
    rcases List.mem_append.1 hother with hother | hother
    · have hfails := hbefore other hother
      simp [hpass] at hfails
    · rcases List.mem_cons.1 hother with rfl | hother
      · simp [Std.ReflCmp.compare_self]
      · have hlt := List.rel_of_pairwise_cons (List.pairwise_append.1 h).2.1 hother
        rw [Std.OrientedCmp.gt_iff_lt.2 hlt]
        decide
  constructor
  · exact hleast
  · intro htext
    cases hfind : texts.find? test with
    | none =>
      exact absurd htext.1.2 (List.find?_eq_none.1 hfind text htext.1.1)
    | some found => rw [(hleast hfind).unique htext]

end TrialSeries.Text
