import PackageRollup.Text.CodePoint

/-!
# Text

A text is a list of code points. String literals are read as texts, texts are compared by their
code points from left to right, and `splitOn` and `join` undo each other.
-/

namespace PackageRollup

abbrev Text := List CodePoint

namespace Text

def same : Text → Text → Bool
  | [], [] => true
  | a :: s, b :: t => a.val == b.val && same s t
  | _, _ => false

theorem same_iff {s t : Text} : same s t = true ↔ s = t := by
  induction s generalizing t with
  | nil => cases t <;> simp [same]
  | cons a s ih =>
    cases t with
    | nil => simp [same]
    | cons b t => simp [same, ih, CodePoint.ext_iff]

instance : DecidableEq Text := fun s t ↦ decidable_of_iff (same s t = true) same_iff

instance (t : Text) (ts : List Text) : Decidable (t ∈ ts) := inferInstance

/-- Whether a text comes before another in the order of code points. -/
def before : Text → Text → Bool
  | _, [] => false
  | [], _ :: _ => true
  | a :: s, b :: t => if a.val = b.val then before s t else Nat.blt a.val b.val

theorem before_iff {s t : Text} : before s t = true ↔ s < t := by
  induction s generalizing t with
  | nil => cases t <;> simp [before]
  | cons a s ih =>
    cases t with
    | nil => simp [before]
    | cons b t =>
      by_cases h : a.val = b.val
      · have hab : a = b := CodePoint.ext h
        subst hab
        simp [before, ih]
      · have hab : a ≠ b := fun k ↦ h (k ▸ rfl)
        simp [before, h, hab, List.cons_lt_cons_iff, CodePoint.lt_def, Nat.blt_eq]

instance (s t : Text) : Decidable (s < t) := decidable_of_iff (before s t = true) before_iff

def ofString (s : String) : Text := s.toList.map CodePoint.ofChar

instance : Coe String Text := ⟨ofString⟩

def ofNat (n : Nat) : Text := (Nat.toDigits 10 n).map CodePoint.ofChar

/-- A number in decimal digits, with a minus sign in front of a negative one. -/
def ofInt : Int → Text
  | .ofNat n => ofNat n
  | .negSucc n => CodePoint.ofChar '-' :: ofNat (n + 1)

/-- A number in decimal digits, filled up with zeros on the left to the given width. -/
def ofNatPadded (width n : Nat) : Text :=
  List.replicate (width - (ofNat n).length) (CodePoint.ofChar '0') ++ ofNat n

/-- A number in lower-case hexadecimal digits, filled up with zeros to the given width. -/
def ofNatHex (width n : Nat) : Text :=
  let digits := (Nat.toDigits 16 n).map CodePoint.ofChar
  List.replicate (width - digits.length) (CodePoint.ofChar '0') ++ digits

def toNat (digits : Text) : Nat := digits.foldl (fun n c ↦ 10 * n + c.digitValue) 0

/-- Cut at every occurrence of a separator; there is always at least one piece. -/
def splitOn (sep : CodePoint) : Text → List Text
  | [] => [[]]
  | c :: t =>
    if c = sep then [] :: splitOn sep t
    else match splitOn sep t with
      | [] => [[c]]
      | piece :: pieces => (c :: piece) :: pieces

def join (sep : Text) : List Text → Text
  | [] => []
  | [piece] => piece
  | piece :: next :: pieces => piece ++ (sep ++ join sep (next :: pieces))

/-- Whether a text occurs as consecutive code points of another. -/
def occursIn (needle : Text) : Text → Bool
  | [] => needle.isEmpty
  | c :: t => needle.isPrefixOf (c :: t) || occursIn needle t

/-- Drop the trailing code points that satisfy a predicate. -/
def dropTrailing (p : CodePoint → Bool) (t : Text) : Text :=
  ((t.reverse).dropWhile p).reverse

theorem splitOn_ne_nil (sep : CodePoint) (t : Text) : splitOn sep t ≠ [] := by
  cases t with
  | nil => simp [splitOn]
  | cons c t =>
    simp only [splitOn]
    split
    · simp
    · split <;> simp

theorem join_splitOn (sep : CodePoint) (t : Text) : join [sep] (splitOn sep t) = t := by
  induction t with
  | nil => rfl
  | cons c t ih =>
    simp only [splitOn]
    split
    next h =>
      match hs : splitOn sep t with
      | [] => exact absurd hs (splitOn_ne_nil sep t)
      | piece :: pieces =>
        rw [hs] at ih
        simp [join, ih, h]
    next h =>
      match hs : splitOn sep t with
      | [] => exact absurd hs (splitOn_ne_nil sep t)
      | [piece] => rw [hs] at ih; simp_all [join]
      | piece :: next :: pieces => rw [hs] at ih; simp_all [join]

end Text

end PackageRollup
