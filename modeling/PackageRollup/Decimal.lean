import PackageRollup.Text.Basic


/-!
# Double precision numbers

A finite double is an integer times a power of two. A decimal number is rounded to the nearest
double, and a decimal halfway between two doubles to the one with the even significand.

A double is written with the fewest decimal digits that round back to it, and among those with the
digits nearest to it. Numbers from `10 ^ (-4)` up to, but not including, `10 ^ 16` are written
positionally, with at least one digit after the point; all others with an exponent of at least two
digits.
-/

namespace PackageRollup

/-- A number in decimal notation: `digits · 10 ^ exponent` with a sign of its own. -/
structure Decimal where
  negative : Bool
  digits : Nat
  exponent : Int
deriving DecidableEq

/-- A double precision number. A finite one is `significand · 2 ^ exponent` with a sign of its own;
the significand stays below `2 ^ 53`, and it reaches `2 ^ 52` unless the exponent is `-1074`. -/
inductive Binary64 where
  | nan
  | infinite (negative : Bool)
  | finite (negative : Bool) (significand : Nat) (exponent : Int)
deriving DecidableEq

namespace Binary64

def isZero : Binary64 → Bool
  | finite _ 0 _ => true
  | _ => false

/-- The exponent of the double precision grid around the quotient of two positive numbers. -/
def gridExponent (num den : Nat) : Int :=
  let guess : Int := (Nat.log2 num : Int) - (Nat.log2 den : Int) - 52
  let below := if 0 ≤ guess then decide (num < den * Nat.pow 2 (52 + guess.toNat))
    else decide (num * Nat.pow 2 (-guess).toNat < den * Nat.pow 2 52)
  max (if below then guess - 1 else guess) (-1074)

/-- The nearest integer to a quotient, the even one of two. -/
def roundHalfEven (num den : Nat) : Nat :=
  let q := num / den
  let r := num % den
  if 2 * r < den then q else if den < 2 * r then q + 1 else q + q % 2

/-- The nearest double to the quotient of two positive numbers. -/
def ofQuotient (negative : Bool) (num den : Nat) : Binary64 :=
  let e := gridExponent num den
  let m := if 0 ≤ e then roundHalfEven num (den * Nat.pow 2 e.toNat)
    else roundHalfEven (num * Nat.pow 2 (-e).toNat) den
  if m = Nat.pow 2 53 then
    if 971 ≤ e then infinite negative else finite negative (Nat.pow 2 52) (e + 1)
  else if 971 < e then infinite negative else finite negative m e

end Binary64

/-- The nearest double to a decimal number. The tests on the size keep the powers of ten small:
beyond `10 ^ 310` everything is infinite and below `10 ^ (-330)` everything is zero. -/
def Decimal.toBinary64 (d : Decimal) : Binary64 :=
  let size : Int := ((Nat.toDigits 10 d.digits).length : Int) + d.exponent
  if d.digits = 0 ∨ size < -330 then .finite d.negative 0 (-1074)
  else if 310 < size then .infinite d.negative
  else if 0 ≤ d.exponent then .ofQuotient d.negative (d.digits * Nat.pow 10 d.exponent.toNat) 1
  else .ofQuotient d.negative d.digits (Nat.pow 10 (-d.exponent).toNat)

end PackageRollup

namespace PackageRollup.Binary64

/-- A positive double between the bounds of the numbers that round to it, all over one denominator.
The bounds themselves belong to the interval if the significand is even. -/
structure Interval where
  low : Nat
  value : Nat
  high : Nat
  den : Nat
  closed : Bool

/-- The numbers that round to `significand · 2 ^ exponent`. The gap below a power of two is half as
wide as the one above. -/
def interval (significand : Nat) (exponent : Int) : Interval :=
  let up := exponent.toNat
  let unit := Nat.pow 2 up
  let value := 4 * significand * unit
  let gap := if significand = Nat.pow 2 52 ∧ exponent ≠ -1074 then unit else 2 * unit
  { low := value - gap
    value := value
    high := value + 2 * unit
    den := 4 * Nat.pow 2 (-exponent).toNat
    closed := significand % 2 = 0 }

def Interval.holds (i : Interval) (num den : Nat) : Bool :=
  if i.closed then i.low * den ≤ num * i.den && num * i.den ≤ i.high * den
  else i.low * den < num * i.den && num * i.den < i.high * den

/-- The number of digits before the decimal point of a number of at least one; below one, minus the
number of zeros after the point. -/
def magnitude (num den : Nat) : Int :=
  if den ≤ num then (Nat.toDigits 10 (num / den)).length
  else -((List.range 330).takeWhile (fun j ↦ num * Nat.pow 10 (j + 1) < den)).length

/-- The grid point with `n` digits that lies in the interval, the nearer one if both neighbours of
the value do. The answer `(d, p)` stands for `d · 10 ^ p`. -/
def Interval.onGrid? (i : Interval) (size : Int) (n : Nat) : Option (Nat × Int) :=
  let p := size - n
  let up := Nat.pow 10 p.toNat
  let down := Nat.pow 10 (-p).toNat
  let below := i.value * down / (i.den * up)
  let inside := fun d ↦ i.holds (d * up) down
  let twice := 2 * (i.value * down)
  let middle := (2 * below + 1) * (i.den * up)
  match inside below, inside (below + 1) with
  | true, true =>
    if twice < middle ∨ (twice = middle ∧ below % 2 = 0) then some (below, p)
    else some (below + 1, p)
  | true, false => some (below, p)
  | false, true => some (below + 1, p)
  | false, false => none

/-- The shortest decimal number that rounds to a positive double. -/
def shortest (significand : Nat) (exponent : Int) : Nat × Int :=
  let i := interval significand exponent
  let size := magnitude i.value i.den
  ((List.range 17).findSome? fun k ↦ i.onGrid? size (k + 1)).getD (0, 0)

/-- Digits with the point after the first `point` of them, positionally. -/
def positional (digits : Text) (point : Int) : Text :=
  let zeros := fun (n : Int) ↦ List.replicate n.toNat (CodePoint.ofChar '0')
  if point ≤ 0 then "0." ++ zeros (-point) ++ digits
  else if digits.length ≤ point then digits ++ zeros (point - digits.length) ++ ".0"
  else digits.take point.toNat ++ "." ++ digits.drop point.toNat

/-- Digits with the point after the first of them and the exponent that makes up for it. -/
def scientific (digits : Text) (exponent : Int) : Text :=
  let point : Text := if digits.length ≤ 1 then [] else "."
  let sign : Text := if exponent < 0 then "-" else "+"
  digits.take 1 ++ point ++ digits.drop 1 ++ "e" ++ sign ++ Text.ofNatPadded 2 exponent.natAbs

def text : Binary64 → Text
  | nan => "nan"
  | infinite negative => (if negative then "-" else "") ++ ("inf" : Text)
  | finite negative significand exponent =>
    let sign : Text := if negative then "-" else ""
    if significand = 0 then sign ++ "0.0"
    else
      let (d, p) := shortest significand exponent
      let all := Text.ofNat d
      let digits := Text.dropTrailing (fun c ↦ decide (c = '0')) all
      let point : Int := (all.length : Int) + p
      sign ++ if -4 < point ∧ point ≤ 16 then positional digits point
        else scientific digits (point - 1)

end PackageRollup.Binary64
