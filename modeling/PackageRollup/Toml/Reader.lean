import PackageRollup.Text.Utf8
import PackageRollup.Toml.Document

/-!
# Reading TOML

A document is read statement by statement. Each reader takes its item off the front of a text and
answers the item and the rest, or says what is wrong and where. Version 1.0 of the format is read,
where a line ends at a line feed, with or without a carriage return before it. A decimal integer may
have `maxDigits` digits.
-/

namespace PackageRollup.Toml

inductive Fault where
  /-- The text is not TOML, with what is left of it there. -/
  | malformed (message rest : Text)
  /-- A decimal integer has so many digits, which are too many. -/
  | digits (n : Nat)
  /-- Arrays or inline tables are nested too deep. -/
  | nesting
deriving DecidableEq

/-- The outcome of reading one item: the item and the text after it. -/
abbrev Read (α : Type) := Except Fault (α × Text)

/-- How deep values may be nested: every array on the way takes two units of this, and every inline
table three. A unit is a call within a call; the interpreter gives up at a thousand of them, and
some twenty are under way already. -/
def maxNesting : Nat := 980

def isSpace (c : CodePoint) : Bool := c.val = 32 || c.val = 9

/-- Control characters other than the tab. -/
def isControl (c : CodePoint) : Bool := (c.val < 32 && c.val ≠ 9) || c.val = 127

def isControlInLines (c : CodePoint) : Bool := isControl c && c.val ≠ 10

/-- The code points of names without quotes. -/
def isBare (c : CodePoint) : Bool :=
  c.isDigit || (65 ≤ c.val && c.val < 91) || (97 ≤ c.val && c.val < 123) || c.val = 45 || c.val = 95

def startsWith (front t : Text) : Bool := front.isPrefixOf t

def skipSpace (t : Text) : Text := t.dropWhile isSpace

def skipLines (t : Text) : Text := t.dropWhile fun c ↦ isSpace c || c.val = 10

/-- Refuse the first code point of a kind in a text, behind which there is more. -/
def refuseAny (kind : CodePoint → Bool) (t rest : Text) : Except Fault Unit :=
  match t.dropWhile (!kind ·) with
  | [] => .ok ()
  | c :: t' => .error (.malformed ("Found invalid character " ++ Text.quoted [c]) (c :: t' ++ rest))

/-- The text after a comment, from the line feed that ends it on. -/
def skipComment : Text → Except Fault Text
  | [] => .ok []
  | c :: t =>
    if c = '#' then do
      let (comment, rest) := t.span (fun d ↦ d.val ≠ 10)
      refuseAny isControl comment rest
      return rest
    else .ok (c :: t)

/-- The text after white space and comments between the items of an array. The number bounds the
comments; the length of the text is enough. -/
def skipGapsFrom : Nat → Text → Except Fault Text
  | 0, t => .ok t
  | bound + 1, t =>
    match skipLines t with
    | [] => .ok []
    | c :: t' =>
      if c = '#' then do skipGapsFrom bound (← skipComment (c :: t')) else .ok (c :: t')

def skipGaps (t : Text) : Except Fault Text := skipGapsFrom (t.length + 1) t

/-! ### Strings -/

/-- The code point with the given number of hexadecimal digits; surrogates are refused. -/
def hexCodePoint (digits : Nat) (t : Text) : Read CodePoint :=
  let front := t.take digits
  match front.mapM CodePoint.hexValue? with
  | none => .error (.malformed "Invalid hex value" t)
  | some values =>
    let n := values.foldl (fun n d ↦ 16 * n + d) 0
    if front.length ≠ digits then .error (.malformed "Invalid hex value" t)
    else if n < 0x110000 ∧ (CodePoint.ofNat n).isSurrogate = false then
      .ok (CodePoint.ofNat n, t.drop digits)
    else .error (.malformed "Escaped character is not a Unicode scalar value" (t.drop digits))

def letterEscape? (c : CodePoint) : Option CodePoint :=
  if c = '"' ∨ c = '\\' then some c
  else if c = 'b' then some (CodePoint.ofNat 8)
  else if c = 't' then some (CodePoint.ofNat 9)
  else if c = 'n' then some (CodePoint.ofNat 10)
  else if c = 'f' then some (CodePoint.ofNat 12)
  else if c = 'r' then some (CodePoint.ofNat 13)
  else none

def strayBackslash : Text := "Unescaped '\\' in a string"

/-- What a backslash and the text after it stand for. In a text of several lines a backslash at the
end of a line stands for nothing and takes all white space after it along. -/
def escape (multiline : Bool) : Text → Read Text
  | [] => .error (.malformed strayBackslash [])
  | c :: t =>
    if multiline && c.val = 10 then .ok ([], skipLines t)
    else if multiline && isSpace c then
      match skipSpace t with
      | [] => .ok ([], [])
      | d :: t' =>
        if d.val = 10 then .ok ([], skipLines t') else .error (.malformed strayBackslash (d :: t'))
    else if c = 'u' then (hexCodePoint 4 t).map fun (x, rest) ↦ ([x], rest)
    else if c = 'U' then (hexCodePoint 8 t).map fun (x, rest) ↦ ([x], rest)
    else match letterEscape? c with
      | some x => .ok ([x], t)
      | none => .error (.malformed strayBackslash t)

/-- Put text in front of the text that was read. -/
def appendRead (front : Text) : Read Text → Read Text
  | .ok (t, rest) => .ok (front ++ t, rest)
  | .error e => .error e

/-- A quoted string with escapes after its opening quotes, up to and without its closing ones. The
number bounds the parts of the string; the length of the text is enough. -/
def basicString (multiline : Bool) : Nat → Text → Read Text
  | 0, _ | _, [] => .error (.malformed "Unterminated string" [])
  | bound + 1, c :: t =>
    if c = '"' then
      if !multiline then .ok ([], t)
      else if startsWith "\"\"" t then .ok ([], t.drop 2)
      else appendRead [c] (basicString multiline bound t)
    else if c = '\\' then
      match escape multiline t with
      | .error e => .error e
      | .ok (x, rest) => appendRead x (basicString multiline bound rest)
    else if (if multiline then isControlInLines c else isControl c) then
      .error (.malformed ("Illegal character " ++ Text.quoted [c]) (c :: t))
    else appendRead [c] (basicString multiline bound t)

def unclosed (quotes : Text) : Fault := .malformed ("Expected " ++ Text.quoted quotes) []

def literalString (t : Text) : Except Fault (Text × Text) := do
  let (body, rest) := t.span (fun c ↦ decide (c ≠ CodePoint.ofChar '\''))
  if rest.isEmpty then .error (unclosed "'")
  refuseAny isControl body rest
  return (body, rest.drop 1)

/-- What stands before three closing quotes, and what stands behind them. -/
def cutAtQuotes : Text → Option (Text × Text)
  | [] => none
  | c :: t =>
    if startsWith "'''" (c :: t) then some ([], t.drop 2)
    else (cutAtQuotes t).map fun (body, rest) ↦ (c :: body, rest)

/-- A literal string of several lines after its opening quotes, up to and without its closing
ones. -/
def literalLines (t : Text) : Except Fault (Text × Text) :=
  match cutAtQuotes t with
  | none => .error (unclosed "'''")
  | some (body, rest) => do
    refuseAny isControlInLines body ("'''" ++ rest)
    return (body, rest)

/-- The text after the line feed that may follow the opening quotes of several lines. -/
def skipFirstLineFeed : Text → Text
  | [] => []
  | c :: t => if c.val = 10 then t else c :: t

/-- Up to two quotes before the closing ones belong to the text. -/
def closeLines (quote : CodePoint) (body rest : Text) : Text × Text :=
  let extra := min 2 (rest.takeWhile (fun c ↦ decide (c = quote))).length
  (body ++ List.replicate extra quote, rest.drop extra)

def notNamePart : Text := "Invalid initial character for a key part"

/-- A string in quotes; the first code point of the text is its first quote. -/
def quotedString (multilineAllowed : Bool) : Text → Read Text
  | [] => .error (.malformed notNamePart [])
  | c :: t =>
    if c = '"' then
      if multilineAllowed && startsWith "\"\"" t then
        let start := skipFirstLineFeed (t.drop 2)
        (basicString true (start.length + 1) start).map fun (body, rest) ↦ closeLines c body rest
      else basicString false (t.length + 1) t
    else if c = '\'' then
      if multilineAllowed && startsWith "''" t then
        (literalLines (skipFirstLineFeed (t.drop 2))).map fun (body, rest) ↦ closeLines c body rest
      else literalString t
    else .error (.malformed notNamePart (c :: t))

/-! ### Names -/

def namePart : Text → Read Text
  | [] => .error (.malformed notNamePart [])
  | c :: t => if isBare c then .ok ((c :: t).span isBare) else quotedString false (c :: t)

/-- The parts of a dotted name after the given ones, which are written backwards. -/
def nameParts : Nat → List Text → Text → Except Fault ((List Text × Text) × Text)
  | 0, _, _ => .error (.malformed notNamePart [])
  | bound + 1, parents, t => do
    let (part, rest) ← namePart t
    match skipSpace rest with
    | [] => .ok ((parents.reverse, part), [])
    | c :: t' =>
      if c = '.' then nameParts bound (part :: parents) (skipSpace t')
      else .ok ((parents.reverse, part), c :: t')

/-- A dotted name, as the parts before the last one and the last one, and the white space after
it. -/
def dottedName (t : Text) : Read (List Text × Text) := nameParts (t.length + 1) [] t

/-! ### Numbers and times -/

/-- Digits after a first one, each with at most one underscore before it. -/
def moreDigits (isDigit : CodePoint → Bool) : Text → Text × Text
  | [] => ([], [])
  | c :: t =>
    if isDigit c then
      let (ds, rest) := moreDigits isDigit t
      (c :: ds, rest)
    else if c = '_' then
      match t with
      | [] => ([], [c])
      | d :: t' =>
        if isDigit d then
          let (ds, rest) := moreDigits isDigit t'
          (d :: ds, rest)
        else ([], c :: t)
    else ([], c :: t)

/-- Digits, between which single underscores may stand. -/
def digits? (isDigit : CodePoint → Bool) : Text → Option (Text × Text)
  | [] => none
  | c :: t =>
    if isDigit c then
      let (ds, rest) := moreDigits isDigit t
      some (c :: ds, rest)
    else none

def valueIn (base : Nat) (ds : Text) : Nat :=
  ds.foldl (fun n d ↦ base * n + (d.hexValue?.getD 0)) 0

/-- An integer in base sixteen, two or eight, after its leading zero. -/
def based? : Text → Option (Int × Text)
  | [] => none
  | c :: t =>
    let inBase := fun (base : Nat) ↦
      (digits? (fun d ↦ d.hexValue?.any (· < base)) t).map fun (ds, rest) ↦
        ((valueIn base ds : Int), rest)
    if c = 'x' then inBase 16 else if c = 'b' then inBase 2 else if c = 'o' then inBase 8 else none

/-- The sign at the front of a text, and whether there is one. -/
def sign : Text → (Bool × Bool) × Text
  | [] => ((false, false), [])
  | c :: t =>
    if c = '-' then ((true, true), t)
    else if c = '+' then ((false, true), t)
    else ((false, false), c :: t)

/-- The whole digits of a decimal number; a leading zero stands alone. -/
def whole? : Text → Option (Text × Text)
  | [] => none
  | c :: t => if c = '0' then some ([c], t) else digits? CodePoint.isDigit (c :: t)

def fraction? : Text → Option (Text × Text)
  | [] => none
  | c :: t => if c = '.' then digits? CodePoint.isDigit t else none

def exponent? : Text → Option (Int × Text)
  | [] => none
  | c :: t =>
    if c = 'e' ∨ c = 'E' then
      let ((negative, _), t') := sign t
      (digits? CodePoint.isDigit t').map fun (ds, rest) ↦
        (if negative then -(Text.toNat ds : Int) else (Text.toNat ds : Int), rest)
    else none

def decimal (t : Text) : Read Value :=
  let ((negative, _), t') := sign t
  match whole? t' with
  | none => .error (.malformed "Invalid value" t)
  | some (ds, rest) =>
    let (fs, rest') := (fraction? rest).getD ([], rest)
    let (e, rest'') := (exponent? rest').getD (0, rest')
    if (fraction? rest).isNone && (exponent? rest').isNone then
      if maxDigits < ds.length then .error (.digits ds.length)
      else
        let n : Int := (Text.toNat ds : Int)
        .ok (.integer (if negative then -n else n), rest)
    else
      let d : Decimal := ⟨negative, Text.toNat (ds ++ fs), e - (fs.length : Int)⟩
      .ok (.float d.toBinary64, rest'')

/-- The given number of decimal digits, as a number between the bounds. -/
def field? (width low high : Nat) (t : Text) : Option (Nat × Text) :=
  let ds := t.take width
  let n := Text.toNat ds
  if ds.length = width ∧ ds.all CodePoint.isDigit ∧ low ≤ n ∧ n ≤ high then some (n, t.drop width)
  else none

def after? (c : Char) : Text → Option Text
  | [] => none
  | d :: t => if d = c then some t else none

/-- The microseconds after a point; digits beyond the sixth are dropped. -/
def microseconds (t : Text) : Nat × Text :=
  match after? '.' t with
  | none => (0, t)
  | some t' =>
    let (ds, rest) := t'.span CodePoint.isDigit
    if ds.isEmpty then (0, t)
    else
      let six := ds.take 6
      (Text.toNat six * Nat.pow 10 (6 - six.length), rest)

def time? (t : Text) : Option (Time × Text) := do
  let (hour, t) ← field? 2 0 23 t
  let t ← after? ':' t
  let (minute, t) ← field? 2 0 59 t
  let t ← after? ':' t
  let (second, t) ← field? 2 0 59 t
  let (microsecond, t) := microseconds t
  return (⟨hour, minute, second, microsecond⟩, t)

/-- A date with a month and a day that some month has. -/
def date? (t : Text) : Option (Date × Text) := do
  let (year, t) ← field? 4 0 9999 t
  let t ← after? '-' t
  let (month, t) ← field? 2 1 12 t
  let t ← after? '-' t
  let (day, t) ← field? 2 1 31 t
  return (⟨year, month, day⟩, t)

/-- An offset from universal time, in minutes. -/
def offset? (t : Text) : Option (Int × Text) :=
  match t with
  | [] => none
  | c :: t' =>
    if c = 'Z' ∨ c = 'z' then some (0, t')
    else
      match sign t with
      | ((_, false), _) => none
      | ((negative, true), t') => do
        let (hours, t') ← field? 2 0 23 t'
        let t' ← after? ':' t'
        let (minutes, t') ← field? 2 0 59 t'
        let n : Int := ((60 * hours + minutes : Nat) : Int)
        return (if negative then -n else n, t')

def isLeap (year : Nat) : Bool := year % 4 = 0 && (year % 100 ≠ 0 || year % 400 = 0)

def daysIn (year month : Nat) : Nat :=
  if month = 2 then (if isLeap year then 29 else 28)
  else if month = 4 ∨ month = 6 ∨ month = 9 ∨ month = 11 then 30
  else 31

def Date.isValid (d : Date) : Bool := 1 ≤ d.year && d.day ≤ daysIn d.year d.month

/-- The time after a date, if the text goes on with one. -/
def timeAfterDate? : Text → Option (Time × Text)
  | [] => none
  | c :: t => if c = 'T' ∨ c = 't' ∨ c = ' ' then time? t else none

/-- A date that was read off the front of a text, and what follows it. -/
def dated (d : Date) (whole t : Text) : Read Value :=
  if !d.isValid then .error (.malformed "Invalid date or datetime" whole)
  else match timeAfterDate? t with
    | none => .ok (.date d, t)
    | some (clock, rest) =>
      match offset? rest with
      | none => .ok (.dateTime d clock none, rest)
      | some (minutes, rest') => .ok (.dateTime d clock (some minutes), rest')

def words : List (Text × Value) := [
  ("true", .boolean true), ("false", .boolean false),
  ("inf", .float (.infinite false)), ("+inf", .float (.infinite false)),
  ("-inf", .float (.infinite true)),
  ("nan", .float .nan), ("+nan", .float .nan), ("-nan", .float .nan)]

def word? (t : Text) : Option (Value × Text) :=
  words.findSome? fun (w, value) ↦ if startsWith w t then some (value, t.drop w.length) else none

/-- A value that is neither quoted nor a container. -/
def plain (t : Text) : Read Value :=
  match word? t with
  | some found => .ok found
  | none =>
    match date? t with
    | some (d, rest) => dated d t rest
    | none =>
      match time? t with
      | some (clock, rest) => .ok (.time clock, rest)
      | none =>
        match (after? '0' t).bind based? with
        | some (n, rest) => .ok (.integer n, rest)
        | none => decimal t

/-! ### Containers -/

/-- The items of an array from an item on, up to its closing bracket. A comma may follow the last
item. -/
def items (item : Text → Read Value) : Nat → Text → Except Fault (List Value × Text)
  | 0, _ => .error (.malformed "Unclosed array" [])
  | bound + 1, t => do
    let (value, rest) ← item t
    match ← skipGaps rest with
    | [] => .error (.malformed "Unclosed array" [])
    | c :: t' =>
      if c = ']' then .ok ([value], t')
      else if c = ',' then
        let next ← skipGaps t'
        match after? ']' next with
        | some rest => .ok ([value], rest)
        | none => do
          let (values, rest) ← items item bound next
          .ok (value :: values, rest)
      else .error (.malformed "Unclosed array" (c :: t'))

def array (item : Text → Read Value) (t : Text) : Except Fault (Value × Text) := do
  let next ← skipGaps t
  match after? ']' next with
  | some rest => .ok (.array [], rest)
  | none => do
    let (values, rest) ← items item (next.length + 1) next
    .ok (.array values, rest)

/-- A dotted name, an equals sign, and a value. -/
def pair (item : Text → Read Value) (t : Text) :
    Except Fault (((List Text × Text) × Value) × Text) := do
  let (name, rest) ← dottedName t
  match after? '=' rest with
  | none => .error (.malformed "Expected '=' after a key in a key/value pair" rest)
  | some t' =>
    let (value, rest) ← item (skipSpace t')
    .ok ((name, value), rest)

/-- A path as it is shown in a message. -/
def shownPath (names : List Text) : Text :=
  "(" ++ Text.join ", " (names.map Text.quoted) ++ (if names.length = 1 then ",)" else ")")

def overwrites : Text := "Cannot overwrite a value"

def mutates (names : List Text) : Text := "Cannot mutate immutable namespace " ++ shownPath names

/-- What is wrong with a member of an inline table. -/
def inlineMessage (parents : List Text) (name : Text) : Clash → Text
  | .immutable | .taken true => mutates (parents ++ [name])
  | .taken false => "Duplicate inline table key " ++ Text.quoted name
  | _ => overwrites

/-- The members of an inline table from a name on, up to its closing bracket, added to the given
ones. No comma follows the last member. -/
def inlineMembers (item : Text → Read Value) :
    Nat → Document → Text → Except Fault (Document × Text)
  | 0, _, _ => .error (.malformed "Unclosed inline table" [])
  | bound + 1, doc, t => do
    let (((parents, name), value), rest) ← pair item t
    match doc.assign parents name value with
    | .error clash => .error (.malformed (inlineMessage parents name clash) rest)
    | .ok doc =>
      match skipSpace rest with
      | [] => .error (.malformed "Unclosed inline table" [])
      | c :: t' =>
        if c = '\x7d' then .ok (doc, t')
        else if c = ',' then inlineMembers item bound doc (skipSpace t')
        else .error (.malformed "Unclosed inline table" (c :: t'))

def inlineTable (item : Text → Read Value) (t : Text) : Read Value :=
  let next := skipSpace t
  match after? '\x7d' next with
  | some rest => .ok (.table [], rest)
  | none =>
    (inlineMembers item (next.length + 1) .empty next).map fun (doc, rest) ↦
      (.table doc.toTable, rest)

/-- A value, with the given units left for the containers in it. -/
def value : Nat → Text → Read Value
  | _, [] => .error (.malformed "Invalid value" [])
  | units, c :: t =>
    if c = '"' ∨ c = '\'' then
      (quotedString true (c :: t)).map fun (s, rest) ↦ (.text s, rest)
    else if c = '[' then
      match units with
      | units + 2 => array (value units) t
      | _ => .error .nesting
    else if c = '\x7b' then
      match units with
      | units + 3 => inlineTable (value units) t
      | _ => .error .nesting
    else plain (c :: t)

/-! ### Statements -/

/-- What is wrong with a header of a table. -/
def tableMessage (names : List Text) : Clash → Text
  | .overwritten => overwrites
  | _ => "Cannot declare " ++ shownPath names ++ " twice"

/-- What is wrong with a header of an item of an array of tables. -/
def itemMessage (names : List Text) : Clash → Text
  | .immutable => mutates names
  | _ => overwrites

/-- What is wrong with a member of a table, whose path begins with the given names. -/
def memberMessage (names : List Text) : Clash → Text
  | .immutable => mutates names
  | .closed path => "Cannot redefine namespace " ++ shownPath path
  | _ => overwrites

/-- A header that begins a table or an item, after its first brackets, up to its closing ones. -/
def headerWith (start : List Text → Text → Except Clash Document)
    (wrong : List Text → Clash → Text) (brackets missing : Text) (t : Text) :
    Except Fault (Document × Text) := do
  let ((parents, name), rest) ← dottedName (skipSpace t)
  match start parents name with
  | .error clash => .error (.malformed (wrong (parents ++ [name]) clash) rest)
  | .ok doc =>
    if startsWith brackets rest then .ok (doc, rest.drop brackets.length)
    else .error (.malformed missing rest)

/-- The header of a table or of an item of an array of tables, after its first bracket. -/
def header (doc : Document) (t : Text) : Except Fault (Document × Text) :=
  match after? '[' t with
  | some t' =>
    headerWith doc.beginItem itemMessage "]]" "Expected ']]' at the end of an array declaration" t'
  | none =>
    headerWith doc.beginTable tableMessage "]" "Expected ']' at the end of a table declaration" t

/-- A statement at the front of a text that does not begin with white space. An empty line and a
comment are statements that change nothing. -/
def statement (doc : Document) : Text → Except Fault (Document × Text)
  | [] => .ok (doc, [])
  | c :: t =>
    if c.val = 10 ∨ c = '#' then .ok (doc, c :: t)
    else if c = '[' then header doc t
    else if isBare c || c = '"' || c = '\'' then do
      let (((parents, name), v), rest) ← pair (value maxNesting) (c :: t)
      match doc.assign parents name v with
      | .ok doc => .ok (doc, rest)
      | .error clash => .error (.malformed (memberMessage (doc.header ++ parents) clash) rest)
    else .error (.malformed "Invalid statement" (c :: t))

def lineGoesOn : Text := "Expected newline or end of document after a statement"

/-- The statements of a text, each followed by the end of its line. The number bounds the lines; the
length of the text is enough. -/
def statements : Nat → Document → Text → Except Fault Document
  | 0, _, _ => .error (.malformed lineGoesOn [])
  | bound + 1, doc, t => do
    let (doc, rest) ← statement doc (skipSpace t)
    match ← skipComment (skipSpace rest) with
    | [] => .ok doc
    | c :: t' =>
      if c.val = 10 then statements bound doc t' else .error (.malformed lineGoesOn (c :: t'))

/-- A text in which every carriage return and line feed is a line feed alone. -/
def dropReturns : Text → Text
  | [] => []
  | [c] => [c]
  | c :: d :: t =>
    if c.val = 13 ∧ d.val = 10 then d :: dropReturns t else c :: dropReturns (d :: t)

/-- Why bytes are no document. -/
inductive ReadFailure where
  | malformed (reason : Text)
  | nesting
deriving DecidableEq

/-- Where a text goes on with the given rest. -/
def placeOf (whole rest : Text) : Text :=
  if rest.isEmpty then "end of document"
  else
    let front := whole.take (whole.length - rest.length)
    let line := front.countP (fun c ↦ c.val = 10) + 1
    let column := (front.reverse.takeWhile (fun c ↦ c.val ≠ 10)).length + 1
    "line " ++ Text.ofNat line ++ ", column " ++ Text.ofNat column

def Fault.failure (whole : Text) : Fault → ReadFailure
  | malformed message rest => .malformed (message ++ " (at " ++ placeOf whole rest ++ ")")
  | digits n => .malformed (tooManyDigits (": value has " ++ Text.ofNat n ++ " digits"))
  | nesting => .nesting

def readText (t : Text) : Except ReadFailure Table :=
  let t := dropReturns t
  match statements (t.length + 1) .empty t with
  | .ok doc => .ok doc.toTable
  | .error fault => .error (fault.failure t)

def read (bytes : Bytes) : Except ReadFailure Table :=
  match Utf8.decode? bytes with
  | none => .error (.malformed (Utf8.undecodable bytes))
  | some t => readText t

end PackageRollup.Toml
