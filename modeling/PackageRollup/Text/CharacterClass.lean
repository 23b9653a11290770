import PackageRollup.Text.Basic

/-!
# Classes of code points

Properties of code points are tabulated as inclusive ranges in ascending order, by version 14.0 of
the Unicode character database. White space counts the four information separators in; zero-width
spaces and the byte order mark are not blank. Decimal digits are the digits of all scripts.
-/

namespace PackageRollup.Text

/-- Whether a number lies in one of the ascending inclusive ranges. -/
def inRanges : List (Nat × Nat) → Nat → Bool
  | [], _ => false
  | (low, high) :: ranges, n => low ≤ n && (n ≤ high || inRanges ranges n)

theorem exists_of_inRanges {ranges : List (Nat × Nat)} {n : Nat} (h : inRanges ranges n) :
    ∃ r ∈ ranges, r.1 ≤ n ∧ n ≤ r.2 := by
  induction ranges with
  | nil => simp [inRanges] at h
  | cons r ranges ih =>
    simp only [inRanges, Bool.and_eq_true, Bool.or_eq_true, decide_eq_true_eq] at h
    obtain ⟨low, high | rest⟩ := h
    · exact ⟨r, by simp, low, high⟩
    · obtain ⟨s, hs, bounds⟩ := ih rest
      exact ⟨s, by simp [hs], bounds⟩

/-- The white space code points, in ascending ranges. -/
def blankRanges : List (Nat × Nat) := [
  (0x9, 0xD), (0x1C, 0x20), (0x85, 0x85), (0xA0, 0xA0), (0x1680, 0x1680), (0x2000, 0x200A),
  (0x2028, 0x2029), (0x202F, 0x202F), (0x205F, 0x205F), (0x3000, 0x3000)]

def isBlank (c : CodePoint) : Bool := inRanges blankRanges c.val

def trim (t : Text) : Text := dropTrailing isBlank (t.dropWhile isBlank)

def isBlankText (t : Text) : Bool := t.all isBlank

theorem dropWhile_isBlank_eq_nil {t : Text} (h : isBlankText t) : t.dropWhile isBlank = [] := by
  induction t with
  | nil => rfl
  | cons c t ih =>
    simp only [isBlankText, List.all_cons, Bool.and_eq_true] at h
    simp [h.1, ih h.2]

theorem trim_eq_nil_of_isBlankText {t : Text} (h : isBlankText t) : trim t = [] := by
  simp [trim, dropTrailing, dropWhile_isBlank_eq_nil h]

/-- The decimal digits, in ascending ranges. -/
def decimalDigitRanges : List (Nat × Nat) := [
    (0x30, 0x39), (0x660, 0x669), (0x6F0, 0x6F9), (0x7C0, 0x7C9), (0x966, 0x96F), (0x9E6, 0x9EF),
    (0xA66, 0xA6F), (0xAE6, 0xAEF), (0xB66, 0xB6F), (0xBE6, 0xBEF), (0xC66, 0xC6F), (0xCE6, 0xCEF),
    (0xD66, 0xD6F), (0xDE6, 0xDEF), (0xE50, 0xE59), (0xED0, 0xED9), (0xF20, 0xF29),
    (0x1040, 0x1049), (0x1090, 0x1099), (0x17E0, 0x17E9), (0x1810, 0x1819), (0x1946, 0x194F),
    (0x19D0, 0x19D9), (0x1A80, 0x1A89), (0x1A90, 0x1A99), (0x1B50, 0x1B59), (0x1BB0, 0x1BB9),
    (0x1C40, 0x1C49), (0x1C50, 0x1C59), (0xA620, 0xA629), (0xA8D0, 0xA8D9), (0xA900, 0xA909),
    (0xA9D0, 0xA9D9), (0xA9F0, 0xA9F9), (0xAA50, 0xAA59), (0xABF0, 0xABF9), (0xFF10, 0xFF19),
    (0x104A0, 0x104A9), (0x10D30, 0x10D39), (0x11066, 0x1106F), (0x110F0, 0x110F9),
    (0x11136, 0x1113F), (0x111D0, 0x111D9), (0x112F0, 0x112F9), (0x11450, 0x11459),
    (0x114D0, 0x114D9), (0x11650, 0x11659), (0x116C0, 0x116C9), (0x11730, 0x11739),
    (0x118E0, 0x118E9), (0x11950, 0x11959), (0x11C50, 0x11C59), (0x11D50, 0x11D59),
    (0x11DA0, 0x11DA9), (0x16A60, 0x16A69), (0x16AC0, 0x16AC9), (0x16B50, 0x16B59),
    (0x1D7CE, 0x1D7FF), (0x1E140, 0x1E149), (0x1E2F0, 0x1E2F9), (0x1E950, 0x1E959),
    (0x1FBF0, 0x1FBF9)]

/-- Whether a code point is a decimal digit of some script. -/
def isDecimalDigit (c : CodePoint) : Bool := inRanges decimalDigitRanges c.val

end PackageRollup.Text
