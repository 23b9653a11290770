import PackageRollup.Decimal
import PackageRollup.Text.Quoted

/-!
# TOML values

The values of a configuration file, and how a value is shown in a message about it. Values with very
long integers and values that are nested very deep are not shown.
-/

namespace PackageRollup.Toml

/-- A day of the proleptic calendar, from year 1 on. -/
structure Date where
  year : Nat
  month : Nat
  day : Nat
deriving DecidableEq

/-- A time of day with microseconds. -/
structure Time where
  hour : Nat
  minute : Nat
  second : Nat
  microsecond : Nat
deriving DecidableEq

/-- A value of a configuration file. A time with a date may have an offset from universal time, in
minutes. -/
inductive Value where
  | text (t : Text)
  | integer (n : Int)
  | float (x : Binary64)
  | boolean (b : Bool)
  | date (d : Date)
  | time (t : Time)
  | dateTime (d : Date) (t : Time) (offset : Option Int)
  | array (items : List Value)
  | table (members : List (Text × Value))

/-- Decimal integers with more digits than this are neither read nor shown. -/
def maxDigits : Nat := 4300

/-- Values that are nested deeper than this are not shown. Each level is a call within a call; the
interpreter gives up at a thousand of them, and some twenty are under way already. -/
def maxShownNesting : Nat := 980

inductive Unshowable where
  | digits
  | nesting
deriving DecidableEq

/-- That an integer has too many digits, with what is known about them. -/
def tooManyDigits (known : Text) : Text :=
  "Exceeds the limit (" ++ Text.ofNat maxDigits ++ " digits) for integer string conversion" ++ known
    ++ "; use sys.set_int_max_str_digits() to increase the limit"

def Unshowable.message : Unshowable → Text
  | digits => tooManyDigits []
  | nesting => "maximum recursion depth exceeded while getting the repr of an object"

/-- A table as the list of its members, in the order in which their names first occur. -/
abbrev Table := List (Text × Value)

def Table.find? (name : Text) : Table → Option Value
  | [] => none
  | (key, value) :: members => if key = name then some value else find? name members

namespace Value

instance : Inhabited Value := ⟨boolean false⟩

def text? : Value → Option Text
  | text t => some t
  | _ => none

/-- Whether a value counts as given. Empty texts and containers, zeros and `false` do not. -/
def isGiven : Value → Bool
  | text t => !t.isEmpty
  | integer n => n ≠ 0
  | float x => !x.isZero
  | boolean b => b
  | array items => !items.isEmpty
  | table members => !members.isEmpty
  | date _ | time _ | dateTime .. => true

def commaSeparated (ns : List Nat) : Text := Text.join ", " (ns.map Text.ofNat)

/-- The seconds and microseconds, without what is zero at the end. -/
def shownSeconds (t : Time) : List Nat :=
  if t.microsecond ≠ 0 then [t.second, t.microsecond]
  else if t.second ≠ 0 then [t.second] else []

/-- An offset from universal time, as whole days and the seconds from there on. -/
def shownOffset (minutes : Int) : Text :=
  if minutes = 0 then "datetime.timezone.utc"
  else
    let seconds : Text := "seconds=" ++ Text.ofInt (60 * minutes % 86400)
    let delta : Text := if minutes < 0 then "days=-1, " ++ seconds else seconds
    "datetime.timezone(datetime.timedelta(" ++ delta ++ "))"

def shownInteger (n : Int) : Except Unshowable Text :=
  if n.natAbs < Nat.pow 10 maxDigits then .ok (Text.ofInt n) else .error .digits

def shownDateTime (d : Date) (t : Time) (offset : Option Int) : Text :=
  let parts := commaSeparated ([d.year, d.month, d.day, t.hour, t.minute] ++ shownSeconds t)
  let zone := match offset with
    | none => []
    | some minutes => ", tzinfo=" ++ shownOffset minutes
  "datetime.datetime(" ++ parts ++ zone ++ ")"

mutual

/-- A value that may be nested so deep, as it is shown. -/
def shownWithin : Nat → Value → Except Unshowable Text
  | 0, _ => .error .nesting
  | _ + 1, text t => .ok (Text.quoted t)
  | _ + 1, integer n => shownInteger n
  | _ + 1, float x => .ok x.text
  | _ + 1, boolean b => .ok (if b then "True" else "False")
  | _ + 1, date d => .ok ("datetime.date(" ++ commaSeparated [d.year, d.month, d.day] ++ ")")
  | _ + 1, time t =>
    .ok ("datetime.time(" ++ commaSeparated ([t.hour, t.minute] ++ shownSeconds t) ++ ")")
  | _ + 1, dateTime d t offset => .ok (shownDateTime d t offset)
  | depth + 1, array items => do
    return "[" ++ Text.join ", " (← shownItems depth items) ++ "]"
  | depth + 1, table members => do
    return "\x7b" ++ Text.join ", " (← shownMembers depth members) ++ "\x7d"

def shownItems (depth : Nat) : List Value → Except Unshowable (List Text)
  | [] => .ok []
  | item :: items => do
    let first ← shownWithin depth item
    return first :: (← shownItems depth items)

def shownMembers (depth : Nat) : List (Text × Value) → Except Unshowable (List Text)
  | [] => .ok []
  | (name, value) :: members => do
    let first ← shownWithin depth value
    return (Text.quoted name ++ ": " ++ first) :: (← shownMembers depth members)

end

/-- A value as it is shown in a message. -/
def shown (value : Value) : Except Unshowable Text := shownWithin maxShownNesting value

end Value

end PackageRollup.Toml
