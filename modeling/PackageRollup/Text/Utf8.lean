import PackageRollup.Text.Basic


/-!
# UTF-8 and lines

The decoder is a machine that takes one byte at a time. It answers a code point for every complete
sequence and a malformed piece for every maximal part that is none, so a byte that breaks a sequence
off is looked at afresh. Reading with replacement turns each malformed piece into U+FFFD, reading
with escapes keeps its bytes as surrogates, and strict reading refuses it. Surrogates have no
encoding, but escaped bytes can be written back as what they were.

A line ends at a line feed, at a carriage return, or at the two in this order; nothing else ends a
line. The text after the last terminator is a line unless it is empty.
-/

namespace PackageRollup

abbrev Bytes := List UInt8

namespace Utf8

/-- A part of a byte sequence: an encoded code point, or bytes that encode none. -/
inductive Piece where
  | point (c : CodePoint)
  | malformed (bytes : Bytes)
deriving DecidableEq

/-- Where the decoder stands: between sequences, or inside one with the bytes seen of it, their
payload, the bounds of the next byte, and the number of bytes to come after it. -/
inductive State where
  | between
  | inside (seen : Bytes) (value low high more : Nat)
deriving DecidableEq

/-- What a byte does to the decoder, and the pieces it completes. -/
abbrev Step := State × List Piece

/-- The first byte of a sequence. The bounds on the second byte keep out overlong forms, surrogates
and numbers beyond the last code point. -/
def start (b : UInt8) : Step :=
  let n := b.toNat
  if n < 0x80 then (.between, [.point (CodePoint.ofNat n)])
  else if n < 0xC2 then (.between, [.malformed [b]])
  else if n < 0xE0 then (.inside [b] (n - 0xC0) 0x80 0xBF 0, [])
  else if n < 0xF0 then
    (.inside [b] (n - 0xE0) (if n = 0xE0 then 0xA0 else 0x80) (if n = 0xED then 0x9F else 0xBF) 1,
      [])
  else if n < 0xF5 then
    (.inside [b] (n - 0xF0) (if n = 0xF0 then 0x90 else 0x80) (if n = 0xF4 then 0x8F else 0xBF) 2,
      [])
  else (.between, [.malformed [b]])

def step (s : State) (b : UInt8) : Step :=
  match s with
  | .between => start b
  | .inside seen value low high more =>
    if low ≤ b.toNat ∧ b.toNat ≤ high then
      let value := 64 * value + (b.toNat - 0x80)
      match more with
      | 0 => (.between, [.point (CodePoint.ofNat value)])
      | more + 1 => (.inside (seen ++ [b]) value 0x80 0xBF more, [])
    else
      let (next, found) := start b
      (next, .malformed seen :: found)

/-- What is left to say when the bytes end. -/
def finish : State → List Piece
  | .between => []
  | .inside seen .. => [.malformed seen]

/-- Everything the decoder says about the bytes from a state on. -/
def decodeFrom (s : State) : Bytes → List Piece
  | [] => finish s
  | b :: bs => (step s b).2 ++ decodeFrom (step s b).1 bs

def decode (bytes : Bytes) : List Piece := decodeFrom .between bytes

/-- U+FFFD, which stands for what could not be decoded. -/
def replacement : CodePoint := .ofNat 0xFFFD

/-- The code point of a piece, with a replacement character for malformed bytes. -/
def Piece.replaced : Piece → CodePoint
  | point c => c
  | malformed _ => replacement

/-- Decode, with a replacement character for each malformed piece. -/
def decodeReplacing (bytes : Bytes) : Text := (decode bytes).map Piece.replaced

/-- The surrogate that stands for a malformed byte. -/
def ofRawByte (b : UInt8) : CodePoint :=
  ⟨0xDC00 + b.toNat, by have := b.toNat_lt; omega⟩

/-- The byte from 0x80 on that a surrogate stands for. -/
def rawByte? (c : CodePoint) : Option UInt8 :=
  if 0xDC80 ≤ c.val ∧ c.val < 0xDD00 then some (UInt8.ofNat (c.val - 0xDC00)) else none

/-- The text of a piece, with a surrogate for each malformed byte. -/
def Piece.escaped : Piece → Text
  | point c => [c]
  | malformed bytes => bytes.map ofRawByte

/-- Decode, with a surrogate for each malformed byte. -/
def decodeEscaping (bytes : Bytes) : Text := (decode bytes).flatMap Piece.escaped

/-- All the code points, if nothing is malformed. -/
def allPoints? : List Piece → Option Text
  | [] => some []
  | .malformed _ :: _ => none
  | .point c :: rest => (allPoints? rest).map (c :: ·)

/-- Decode bytes that are well formed throughout. -/
def decode? (bytes : Bytes) : Option Text := allPoints? (decode bytes)

def encodeOne (c : CodePoint) : Bytes :=
  let n := c.val
  if n < 0x80 then [UInt8.ofNat n]
  else if n < 0x800 then [UInt8.ofNat (0xC0 + n / 64), UInt8.ofNat (0x80 + n % 64)]
  else if n < 0x10000 then
    [UInt8.ofNat (0xE0 + n / 4096), UInt8.ofNat (0x80 + n / 64 % 64), UInt8.ofNat (0x80 + n % 64)]
  else
    [UInt8.ofNat (0xF0 + n / 262144), UInt8.ofNat (0x80 + n / 4096 % 64),
      UInt8.ofNat (0x80 + n / 64 % 64), UInt8.ofNat (0x80 + n % 64)]

/-- Encode a text in which some surrogates stand for bytes. -/
def encodeEscaped (t : Text) : Bytes :=
  t.flatMap fun c ↦
    match rawByte? c with
    | some b => [b]
    | none => encodeOne c

/-- The first run of surrogates in a text: its first code point, where it starts, and how many
surrogates follow each other there. -/
structure SurrogateRun where
  first : CodePoint
  position : Nat
  length : Nat
deriving DecidableEq

/-- The run of surrogates from the first code point on that is refused. -/
def surrogateRunFrom (refused : CodePoint → Bool) (position : Nat) : Text → Option SurrogateRun
  | [] => none
  | c :: t =>
    if refused c then some ⟨c, position, ((c :: t).takeWhile CodePoint.isSurrogate).length⟩
    else surrogateRunFrom refused (position + 1) t

/-- Encode a text. A text that holds surrogates has no encoding. -/
def encode (t : Text) : Except SurrogateRun Bytes :=
  match surrogateRunFrom CodePoint.isSurrogate 0 t with
  | some run => .error run
  | none => .ok (t.flatMap encodeOne)

/-- The escape that shows a surrogate. -/
def surrogateEscape (c : CodePoint) : Text := "\\u" ++ Text.ofNatHex 4 c.val

/-- A text that can be encoded, with an escape in the place of each surrogate. -/
def escapeSurrogates (t : Text) : Text :=
  t.flatMap fun c ↦ if c.isSurrogate then surrogateEscape c else [c]

def SurrogateRun.message (run : SurrogateRun) : Text :=
  let reason : Text := ": surrogates not allowed"
  if run.length = 1 then
    "'utf-8' codec can't encode character '" ++ surrogateEscape run.first
      ++ "' in position " ++ Text.ofNat run.position ++ reason
  else
    "'utf-8' codec can't encode characters in position " ++ Text.ofNat run.position ++ "-"
      ++ Text.ofNat (run.position + run.length - 1) ++ reason

/-- The first malformed piece, where it starts, and whether it is what the bytes end with. -/
structure MalformedPart where
  bytes : Bytes
  position : Nat
  last : Bool

def firstMalformed? (position : Nat) : List Piece → Option MalformedPart
  | [] => none
  | .point c :: rest => firstMalformed? (position + (encodeOne c).length) rest
  | .malformed bytes :: rest => some ⟨bytes, position, rest.isEmpty⟩

def MalformedPart.message (part : MalformedPart) : Text :=
  let place : Text := match part.bytes with
    | [b] => "byte 0x" ++ Text.ofNatHex 2 b.toNat ++ " in position " ++ Text.ofNat part.position
    | bytes =>
      "bytes in position " ++ Text.ofNat part.position ++ "-"
        ++ Text.ofNat (part.position + bytes.length - 1)
  let reason : Text :=
    if part.bytes.any fun b ↦ (start b).1 ≠ .between then
      if part.last then "unexpected end of data" else "invalid continuation byte"
    else "invalid start byte"
  "'utf-8' codec can't decode " ++ place ++ ": " ++ reason

/-- Why bytes that are not well formed throughout cannot be decoded. -/
def undecodable (bytes : Bytes) : Text :=
  ((firstMalformed? 0 (decode bytes)).map MalformedPart.message).getD []

theorem decodeFrom_cons (s : State) (b : UInt8) (bs : Bytes) :
    decodeFrom s (b :: bs) = (step s b).2 ++ decodeFrom (step s b).1 bs := rfl

theorem surrogateRunFrom_eq_none_iff {refused : CodePoint → Bool} {n : Nat} {t : Text} :
    surrogateRunFrom refused n t = none ↔ ∀ c ∈ t, refused c = false := by
  induction t generalizing n with
  | nil => simp [surrogateRunFrom]
  | cons c t ih =>
    simp only [surrogateRunFrom]
    split
    next h => simp [h]
    next h => simp [ih, h]

end Utf8

namespace Text

/-- The two code points that line terminators are made of. -/
def isLineBreak (c : CodePoint) : Bool := c.val = 10 || c.val = 13

/-- Write every line terminator as one line feed. The flag says that a carriage return has just been
written so, and swallows the line feed that belongs to it. -/
def unifyLineBreaks (afterReturn : Bool) : Text → Text
  | [] => []
  | c :: t =>
    if c = '\n' then
      if afterReturn then unifyLineBreaks false t else c :: unifyLineBreaks false t
    else if c = '\r' then CodePoint.ofChar '\n' :: unifyLineBreaks true t
    else c :: unifyLineBreaks false t

/-- The pieces before the last one, and the last one unless it is empty. -/
def dropEmptyLast : List Text → List Text
  | [] => []
  | [piece] => if piece.isEmpty then [] else [piece]
  | piece :: pieces => piece :: dropEmptyLast pieces

/-- The lines of a text, without their terminators. -/
def lines (t : Text) : List Text := dropEmptyLast (splitOn '\n' (unifyLineBreaks false t))

/-- A line without the terminators at its end. -/
def withoutLineBreak (t : Text) : Text := dropTrailing isLineBreak t

/-- The lines of a byte sequence; what is not UTF-8 is replaced before lines are looked for. -/
def linesOfBytes (bytes : Bytes) : List Text := lines (Utf8.decodeReplacing bytes)

end Text

end PackageRollup
