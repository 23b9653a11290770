import PackageRollup.Json.Basic

/-!
# Reading JSON

The reader takes a value off the front of a text and answers the value and the rest. A problem is
reported together with the text from the offending place on, from which the position is computed at
the end. Containers may be nested `maxNesting` deep and integers may have `maxDigits` digits; what
goes beyond either limit is no fault of the text and is reported apart.

White space is the space, the tab, the line feed and the carriage return. The words for the numbers
that are not finite are accepted. Escaped surrogates that make up a pair are joined, others are
kept.
-/

namespace PackageRollup.Json

/-- What is wrong at a place in a text. -/
inductive Problem where
  | byteOrderMark
  | noValue
  | trailingText
  | noName
  | noColon
  | noComma
  | openString
  | controlCharacter
  | badEscape
  | badUnicodeEscape
deriving DecidableEq

inductive Container where
  | array
  | object
deriving DecidableEq

/-- What a text may have too much of. -/
inductive Limit where
  | digits (count : Nat)
  | nesting (c : Container)
deriving DecidableEq

inductive Fault where
  /-- The text is not JSON; `rest` begins at the offending place. -/
  | problem (p : Problem) (rest : Text)
  | limit (l : Limit)
deriving DecidableEq

/-- The outcome of reading one item: the item and the text after it. -/
abbrev Read (α : Type) := Except Fault (α × Text)

/-- Containers nested deeper than this are refused. Each is a call within a call; the interpreter
gives up at a thousand of them, and some ten are under way already. -/
def maxNesting : Nat := 990

/-- Integers with more digits than this are refused. -/
def maxDigits : Nat := 4300

/-- White space between the parts of a value. -/
def isSpace (c : CodePoint) : Bool := c.val = 32 || c.val = 9 || c.val = 10 || c.val = 13

/-- The text after the white space at its front. -/
def skipSpace (t : Text) : Text := t.dropWhile isSpace

/-- The number that four hexadecimal digits denote. -/
def hexUnit? (a b c d : CodePoint) : Option Nat :=
  match a.hexValue?, b.hexValue?, c.hexValue?, d.hexValue? with
  | some w, some x, some y, some z => some (4096 * w + 256 * x + 16 * y + z)
  | _, _, _, _ => none

def letterEscape? (c : CodePoint) : Option CodePoint :=
  if c = '"' ∨ c = '\\' ∨ c = '/' then some c
  else if c = 'b' then some (CodePoint.ofNat 8)
  else if c = 'f' then some (CodePoint.ofNat 12)
  else if c = 'n' then some (CodePoint.ofNat 10)
  else if c = 'r' then some (CodePoint.ofNat 13)
  else if c = 't' then some (CodePoint.ofNat 9)
  else none

/-- A code point of a string as it is written: by itself or by a letter escape, or as a number in
hexadecimal. -/
inductive Element where
  | plain (c : CodePoint)
  | numbered (n : Nat)
deriving DecidableEq

def joinSurrogates (high low : Nat) : CodePoint :=
  CodePoint.ofNat (0x10000 + 0x400 * (high - 0xD800) + (low - 0xDC00))

/-- The code point that an element stands for on its own. -/
def Element.alone : Element → CodePoint
  | plain c => c
  | numbered n => CodePoint.ofNat n

/-- The code point that two elements stand for together, if they are numbers and the halves of a
surrogate pair. -/
def Element.pair? : Element → Element → Option CodePoint
  | numbered n, numbered m =>
    if (CodePoint.ofNat n).isHighSurrogate && (CodePoint.ofNat m).isLowSurrogate then
      some (joinSurrogates n m)
    else none
  | _, _ => none

/-- The text of a string. -/
def joinElements : List Element → Text
  | [] => []
  | [e] => [e.alone]
  | e :: f :: es =>
    match e.pair? f with
    | some c => c :: joinElements es
    | none => e.alone :: joinElements (f :: es)

def consElement (e : Element) : Read (List Element) → Read (List Element)
  | .ok (es, rest) => .ok (e :: es, rest)
  | .error fault => .error fault

/-- The elements of a string after its opening quote; `opening` is the text from that quote on. The
four digits of a numbered element must not end the text. -/
def stringElements (opening : Text) : Text → Read (List Element)
  | [] => .error (.problem .openString opening)
  | c :: t =>
    if c = '"' then .ok ([], t)
    else if c = '\\' then
      match t with
      | [] => .error (.problem .openString opening)
      | e :: t' =>
        if e = 'u' then
          match t' with
          | w :: x :: y :: z :: t'' =>
            match t''.isEmpty, hexUnit? w x y z with
            | false, some n => consElement (.numbered n) (stringElements opening t'')
            | _, _ => .error (.problem .badUnicodeEscape t)
          | _ => .error (.problem .badUnicodeEscape t)
        else match letterEscape? e with
          | none => .error (.problem .badEscape (c :: t))
          | some x => consElement (.plain x) (stringElements opening t')
    else if c.val < 0x20 then .error (.problem .controlCharacter (c :: t))
    else consElement (.plain c) (stringElements opening t)

/-- The text of a string after its opening quote; `opening` is the text from that quote on. -/
def stringBody (opening t : Text) : Read Text :=
  (stringElements opening t).map fun (es, rest) ↦ (joinElements es, rest)

/-- The decimal digits at the front of a text, and the rest. -/
def takeDigits (t : Text) : Text × Text := t.span CodePoint.isDigit

/-- The digits of a fraction, if the text begins with a point and a digit. -/
def fraction? : Text → Option (Text × Text)
  | point :: d :: t =>
    if point = '.' ∧ d.isDigit then some (takeDigits (d :: t)) else none
  | _ => none

def exponentSign : Text → Bool × Text
  | c :: t => if c = '-' then (true, t) else if c = '+' then (false, t) else (false, c :: t)
  | [] => (false, [])

/-- The value of an exponent, if the text begins with a complete one. -/
def exponent? : Text → Option (Int × Text)
  | c :: t =>
    if c = 'e' ∨ c = 'E' then
      let (negative, t') := exponentSign t
      let (ds, rest) := takeDigits t'
      if ds.isEmpty then none
      else some (if negative then -(Text.toNat ds : Int) else (Text.toNat ds : Int), rest)
    else none
  | [] => none

/-- The part of a number after its sign and its whole digits. Without a fraction and an exponent the
number is an integer. -/
def numberTail (negative : Bool) (whole t : Text) : Read Json :=
  match fraction? t, exponent? ((fraction? t).elim t Prod.snd) with
  | none, none =>
    if maxDigits < whole.length then .error (.limit (.digits whole.length))
    else
      let n : Int := (Text.toNat whole : Int)
      .ok (.int (if negative then -n else n), t)
  | some (ds, rest), none =>
    .ok (.real ⟨negative, Text.toNat (whole ++ ds), -(ds.length : Int)⟩, rest)
  | none, some (e, rest) => .ok (.real ⟨negative, Text.toNat whole, e⟩, rest)
  | some (ds, _), some (e, rest) =>
    .ok (.real ⟨negative, Text.toNat (whole ++ ds), e - (ds.length : Int)⟩, rest)

/-- A number after its sign; `start` is the text from the sign on. A leading zero stands alone. -/
def number (negative : Bool) (start : Text) : Text → Read Json
  | [] => .error (.problem .noValue start)
  | c :: t =>
    if c = '0' then numberTail negative [c] t
    else if c.isDigit then
      let (ds, rest) := takeDigits (c :: t)
      numberTail negative ds rest
    else .error (.problem .noValue start)

def words : List (Text × Json) := [
  ("null", .null), ("true", .bool true), ("false", .bool false), ("NaN", .notANumber),
  ("Infinity", .infinite false), ("-Infinity", .infinite true)]

def word? (t : Text) : Option (Json × Text) :=
  words.findSome? fun (w, value) ↦
    if w.isPrefixOf t then some (value, t.drop w.length) else none

def scalar : Text → Read Json
  | [] => .error (.problem .noValue [])
  | c :: t =>
    if c = '"' then (stringBody (c :: t) t).map fun (s, rest) ↦ (.str s, rest)
    else match word? (c :: t) with
      | some found => .ok found
      | none => if c = '-' then number true (c :: t) t else number false (c :: t) (c :: t)

/-- The items of an array from an item on, up to its closing bracket, read by the given reader. The
number bounds the items; the length of the text is enough. -/
def items (item : Text → Read Json) : Nat → Text → Read (List Json)
  | 0, t => .error (.problem .noValue t)
  | bound + 1, t =>
    match item t with
    | .error e => .error e
    | .ok (value, rest) =>
      match skipSpace rest with
      | [] => .error (.problem .noComma [])
      | c :: t' =>
        if c = ']' then .ok ([value], t')
        else if c = ',' then
          match items item bound (skipSpace t') with
          | .error e => .error e
          | .ok (values, rest) => .ok (value :: values, rest)
        else .error (.problem .noComma (c :: t'))

/-- A name, the colon after it, and the white space on both sides of the colon. -/
def memberName : Text → Read Text
  | [] => .error (.problem .noName [])
  | c :: t =>
    if c = '"' then
      match stringBody (c :: t) t with
      | .error e => .error e
      | .ok (name, rest) =>
        match skipSpace rest with
        | [] => .error (.problem .noColon [])
        | c :: t' =>
          if c = ':' then .ok (name, skipSpace t') else .error (.problem .noColon (c :: t'))
    else .error (.problem .noName (c :: t))

/-- The members of an object from a name on, up to its closing bracket. -/
def members (item : Text → Read Json) : Nat → Text → Read (List (Text × Json))
  | 0, t => .error (.problem .noValue t)
  | bound + 1, t =>
    match memberName t with
    | .error e => .error e
    | .ok (name, rest) =>
      match item rest with
      | .error e => .error e
      | .ok (value, rest) =>
        match skipSpace rest with
        | [] => .error (.problem .noComma [])
        | c :: t' =>
          if c = '\x7d' then .ok ([(name, value)], t')
          else if c = ',' then
            match members item bound (skipSpace t') with
            | .error e => .error e
            | .ok (rest, t'') => .ok ((name, value) :: rest, t'')
          else .error (.problem .noComma (c :: t'))

/-- An array after its opening bracket. -/
def array (item : Text → Read Json) (t : Text) : Read Json :=
  match skipSpace t with
  | [] => (items item 1 []).map fun (values, rest) ↦ (.arr values, rest)
  | c :: t' =>
    if c = ']' then .ok (.arr [], t')
    else (items item (t'.length + 1) (c :: t')).map fun (values, rest) ↦ (.arr values, rest)

/-- An object after its opening bracket. -/
def object (item : Text → Read Json) (t : Text) : Read Json :=
  match skipSpace t with
  | [] => .error (.problem .noName [])
  | c :: t' =>
    if c = '\x7d' then .ok (.obj [], t')
    else (members item (t'.length + 1) (c :: t')).map fun (ms, rest) ↦ (.obj ms, rest)

/-- A value that begins at the front of a text, with containers nested at most `depth` deep. -/
def value : Nat → Text → Read Json
  | _, [] => .error (.problem .noValue [])
  | 0, c :: t =>
    if c = '[' then .error (.limit (.nesting .array))
    else if c = '\x7b' then .error (.limit (.nesting .object))
    else scalar (c :: t)
  | depth + 1, c :: t =>
    if c = '[' then array (value depth) t
    else if c = '\x7b' then object (value depth) t
    else scalar (c :: t)

/-- U+FEFF, which must not stand at the front of a text. -/
def byteOrderMark : CodePoint := ⟨0xFEFF, by decide⟩

/-- A text that holds one value and white space around it. -/
def readFaulty (t : Text) : Except Fault Json :=
  if t.head? = some byteOrderMark then .error (.problem .byteOrderMark t)
  else match value maxNesting (skipSpace t) with
    | .error e => .error e
    | .ok (result, rest) =>
      match skipSpace rest with
      | [] => .ok result
      | c :: t' => .error (.problem .trailingText (c :: t'))

/-- A problem with its place in the text: the position counted from zero, the line and the column
counted from one. -/
structure Malformed where
  problem : Problem
  line : Nat
  column : Nat
  position : Nat
deriving DecidableEq

inductive ReadError where
  | malformed (m : Malformed)
  | limit (l : Limit)
deriving DecidableEq

/-- The place of a problem that was found with the given text left to read. -/
def Malformed.locate (whole : Text) (p : Problem) (rest : Text) : Malformed :=
  let before := whole.take (whole.length - rest.length)
  { problem := p
    line := before.count (CodePoint.ofChar '\n') + 1
    column := (before.reverse.takeWhile (fun c ↦ decide (c ≠ CodePoint.ofChar '\n'))).length + 1
    position := before.length }

def read (t : Text) : Except ReadError Json :=
  match readFaulty t with
  | .ok result => .ok result
  | .error (.problem p rest) => .error (.malformed (Malformed.locate t p rest))
  | .error (.limit l) => .error (.limit l)

def Problem.message : Problem → Text
  | byteOrderMark => "Unexpected UTF-8 BOM (decode using utf-8-sig)"
  | noValue => "Expecting value"
  | trailingText => "Extra data"
  | noName => "Expecting property name enclosed in double quotes"
  | noColon => "Expecting ':' delimiter"
  | noComma => "Expecting ',' delimiter"
  | openString => "Unterminated string starting at"
  | controlCharacter => "Invalid control character at"
  | badEscape => "Invalid \\escape"
  | badUnicodeEscape => "Invalid \\uXXXX escape"

def Malformed.message (m : Malformed) : Text :=
  m.problem.message ++ ": line " ++ Text.ofNat m.line ++ " column " ++ Text.ofNat m.column
    ++ " (char " ++ Text.ofNat m.position ++ ")"

def Limit.message : Limit → Text
  | digits count =>
    "Exceeds the limit (" ++ Text.ofNat maxDigits
      ++ " digits) for integer string conversion: value has " ++ Text.ofNat count
      ++ " digits; use sys.set_int_max_str_digits() to increase the limit"
  | nesting .array =>
    "maximum recursion depth exceeded while decoding a JSON array from a unicode string"
  | nesting .object =>
    "maximum recursion depth exceeded while decoding a JSON object from a unicode string"

end PackageRollup.Json
