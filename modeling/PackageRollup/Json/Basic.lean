import PackageRollup.Decimal

/-!
# JSON values and their printing

Strings are texts, so they may hold lone surrogates. A number with a fraction or an exponent is kept
as it is written. The members of an object keep their order and may repeat a name; the last member
with a name is the one that counts.

The printed text is ASCII: a code point beyond it is written as its UTF-16 units in hexadecimal. A
layout says what stands between the brackets and the items of a container; an empty container has
nothing between its brackets.
-/

namespace PackageRollup

/-- A JSON value, with the three numbers that are not finite. -/
inductive Json where
  | null
  | bool (b : Bool)
  | int (n : Int)
  | real (d : Decimal)
  | infinite (negative : Bool)
  | notANumber
  | str (t : Text)
  | arr (items : List Json)
  | obj (members : List (Text × Json))

namespace Json

instance : Inhabited Json := ⟨null⟩

/-- The value of the last member with a name. -/
def lookup (name : Text) : List (Text × Json) → Option Json
  | [] => none
  | (key, value) :: members =>
    match lookup name members with
    | some found => some found
    | none => if key = name then some value else none

def text? : Json → Option Text
  | str t => some t
  | _ => none

theorem lookup_append (name : Text) (ms ns : List (Text × Json)) :
    lookup name (ms ++ ns) = (lookup name ns).or (lookup name ms) := by
  induction ms with
  | nil => simp [lookup]
  | cons m ms ih =>
    obtain ⟨key, value⟩ := m
    simp only [List.cons_append, lookup, ih]
    cases lookup name ns <;> cases lookup name ms <;> simp

@[simp] theorem lookup_singleton (name key : Text) (value : Json) :
    lookup name [(key, value)] = if key = name then some value else none := rfl

end Json

end PackageRollup

namespace PackageRollup.Json

/-- What is written in a container at a nesting depth, besides its items and its brackets. -/
structure Layout where
  opening : Nat → Text
  between : Nat → Text
  closing : Nat → Text

def Layout.line : Layout where
  opening _ := []
  between _ := " "
  closing _ := []

/-- A new line, indented by two spaces for every container around it. -/
def newLine (depth : Nat) : Text :=
  CodePoint.ofChar '\n' :: List.replicate (2 * depth) (CodePoint.ofChar ' ')

def Layout.block : Layout where
  opening depth := newLine (depth + 1)
  between depth := newLine (depth + 1)
  closing depth := newLine depth

def unitEscape (n : Nat) : Text := "\\u" ++ Text.ofNatHex 4 n

/-- One code point of a string. -/
def escapeOne (c : CodePoint) : Text :=
  let n := c.val
  if n = 0x22 then "\\\""
  else if n = 0x5C then "\\\\"
  else if n = 0x0A then "\\n"
  else if n = 0x0D then "\\r"
  else if n = 0x09 then "\\t"
  else if n = 0x0C then "\\f"
  else if n = 0x08 then "\\b"
  else if 0x20 ≤ n ∧ n ≤ 0x7E then [c]
  else if n < 0x10000 then unitEscape n
  else unitEscape (0xD800 + (n - 0x10000) / 0x400) ++ unitEscape (0xDC00 + (n - 0x10000) % 0x400)

def printString (t : Text) : Text := "\"" ++ t.flatMap escapeOne ++ "\""

/-- A number with a fraction or an exponent, as its digits times a power of ten. -/
def printReal (d : Decimal) : Text :=
  (if d.negative then "-" else "") ++ Text.ofNat d.digits ++ "e" ++ Text.ofInt d.exponent

mutual

/-- A value inside `depth` containers. -/
def printAt (layout : Layout) (depth : Nat) : Json → Text
  | null => "null"
  | bool b => if b then "true" else "false"
  | int n => Text.ofInt n
  | real d => printReal d
  | infinite negative => if negative then "-Infinity" else "Infinity"
  | notANumber => "NaN"
  | str t => printString t
  | arr [] => "[]"
  | arr (item :: items) =>
    "[" ++ layout.opening depth ++ printAt layout (depth + 1) item
      ++ printItems layout depth items ++ layout.closing depth ++ "]"
  | obj [] => "\x7b\x7d"
  | obj ((name, value) :: members) =>
    "\x7b" ++ layout.opening depth ++ printString name ++ ": " ++ printAt layout (depth + 1) value
      ++ printMembers layout depth members ++ layout.closing depth ++ "\x7d"

def printItems (layout : Layout) (depth : Nat) : List Json → Text
  | [] => []
  | item :: items =>
    "," ++ layout.between depth ++ printAt layout (depth + 1) item
      ++ printItems layout depth items

def printMembers (layout : Layout) (depth : Nat) : List (Text × Json) → Text
  | [] => []
  | (name, value) :: members =>
    "," ++ layout.between depth ++ printString name ++ ": " ++ printAt layout (depth + 1) value
      ++ printMembers layout depth members

end

def print (layout : Layout) (value : Json) : Text := printAt layout 0 value

end PackageRollup.Json
