/-!
# Code points

The alphabet of every text in this library. A code point is a number below `0x110000`; the halves
of surrogate pairs are included, since escaped input may hold one half alone. Code points are
ordered by their number.
-/

namespace PackageRollup

/-- A number below `0x110000`, surrogates included. -/
structure CodePoint where
  val : Nat
  isLt : val < 0x110000
deriving DecidableEq

namespace CodePoint

@[ext] theorem ext {a b : CodePoint} (h : a.val = b.val) : a = b := by
  cases a; cases b; cases h; rfl

def ofChar (c : Char) : CodePoint where
  val := c.toNat
  isLt := by
    have := c.valid
    simp only [UInt32.isValidChar, Nat.isValidChar] at this
    change c.val.toNat < _
    omega

instance : Coe Char CodePoint := ⟨ofChar⟩

/-- The code point of a number; numbers out of range become the replacement character. -/
def ofNat (n : Nat) : CodePoint :=
  if h : n < 0x110000 then ⟨n, h⟩ else ⟨0xFFFD, by decide⟩

@[simp] theorem val_ofNat {n : Nat} (h : n < 0x110000) : (ofNat n).val = n := by
  simp [ofNat, h]

@[simp] theorem ofNat_val (c : CodePoint) : ofNat c.val = c := by
  simp [ofNat, c.isLt]

instance : Inhabited CodePoint := ⟨ofChar ' '⟩

instance : LT CodePoint := ⟨fun a b ↦ a.val < b.val⟩

instance : DecidableLT CodePoint := fun a b ↦ inferInstanceAs (Decidable (a.val < b.val))

theorem lt_def {a b : CodePoint} : a < b ↔ a.val < b.val := Iff.rfl

instance : Std.Irrefl (α := CodePoint) (· < ·) := ⟨fun a ↦ Nat.lt_irrefl a.val⟩

instance : Std.Asymm (α := CodePoint) (· < ·) := ⟨fun _ _ h ↦ Nat.lt_asymm h⟩

instance : Trans (α := CodePoint) (· < ·) (· < ·) (· < ·) := ⟨fun h k ↦ Nat.lt_trans h k⟩

instance : Std.Trichotomous (α := CodePoint) (· < ·) :=
  ⟨fun _ _ h k ↦ ext (Nat.le_antisymm (Nat.not_lt.1 k) (Nat.not_lt.1 h))⟩

/-- The first halves of surrogate pairs. -/
def isHighSurrogate (c : CodePoint) : Bool := 0xD800 ≤ c.val && c.val < 0xDC00

/-- The second halves of surrogate pairs. -/
def isLowSurrogate (c : CodePoint) : Bool := 0xDC00 ≤ c.val && c.val < 0xE000

/-- Surrogates have no encoding of their own. -/
def isSurrogate (c : CodePoint) : Bool := 0xD800 ≤ c.val && c.val < 0xE000

def isDigit (c : CodePoint) : Bool := 48 ≤ c.val && c.val < 58

def digitValue (c : CodePoint) : Nat := c.val - 48

/-- The value of a hexadecimal digit in either case, `none` for any other code point. -/
def hexValue? (c : CodePoint) : Option Nat :=
  if 48 ≤ c.val && c.val < 58 then some (c.val - 48)
  else if 65 ≤ c.val && c.val < 71 then some (c.val - 55)
  else if 97 ≤ c.val && c.val < 103 then some (c.val - 87)
  else none

/-- The lower-case hexadecimal digit of a number below sixteen. -/
def hexDigit (n : Nat) : CodePoint := ofChar (Nat.digitChar n)

end CodePoint

end PackageRollup
