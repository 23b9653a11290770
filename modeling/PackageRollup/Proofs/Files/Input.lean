import PackageRollup.Files.Input
import PackageRollup.Proofs.Text.Lines

/-!
# The lines of an input

An input is made of pieces without line breaks, with terminators between them. Reading it gives the
pieces, each decoded by itself: a sequence that is broken off at the end of a piece takes nothing of
the terminator with it, and nothing else than a terminator ends a line. Only the last piece is no
line if it is empty. Files and standard input do not differ in this.
-/

namespace PackageRollup

namespace Text

/-- What ends a line: a line feed, a carriage return, or the two in this order. -/
inductive Terminator where
  | feed
  | carriage
  | both
deriving DecidableEq

def Terminator.bytes : Terminator → Bytes
  | feed => [10]
  | carriage => [13]
  | both => [13, 10]

/-- Pieces, each with the terminator behind it, and a last piece. -/
def joined : List (Bytes × Terminator) → Bytes → Bytes
  | [], last => last
  | (piece, terminator) :: pieces, last => piece ++ (terminator.bytes ++ joined pieces last)

def Unbroken (bytes : Bytes) : Prop := ∀ b ∈ bytes, isBreakByte b = false

/-- The pieces hold no byte of a terminator, and a carriage return by itself stands before no line
feed. -/
def Separate : List (Bytes × Terminator) → Bytes → Prop
  | [], last => Unbroken last
  | (piece, terminator) :: pieces, last =>
    Unbroken piece ∧ (terminator = .carriage → (joined pieces last).head? ≠ some 10) ∧
      Separate pieces last

instance (bytes : Bytes) : Decidable (Unbroken bytes) :=
  inferInstanceAs (Decidable (∀ b ∈ bytes, isBreakByte b = false))

instance Separate.decide : ∀ pieces last, Decidable (Separate pieces last)
  | [], last => inferInstanceAs (Decidable (Unbroken last))
  | (piece, terminator) :: pieces, last =>
    have := Separate.decide pieces last
    inferInstanceAs (Decidable (Unbroken piece ∧
      (terminator = .carriage → (joined pieces last).head? ≠ some 10) ∧ Separate pieces last))

/-- The pieces as lines, each decoded by itself; the last one unless it is empty. -/
def decodedPieces (pieces : List (Bytes × Terminator)) (last : Bytes) : List Text :=
  pieces.map (fun p ↦ Utf8.decodeReplacing p.1) ++
    if last = [] then [] else [Utf8.decodeReplacing last]

variable {pieces : List (Bytes × Terminator)} {piece last rest : Bytes} {terminator : Terminator}
  {afterReturn : Bool}

/-! ## One piece -/

/-- A line break ends a line, unless it is the line feed that belongs to a carriage return. -/
theorem linesBehind_break {c : CodePoint} (hc : isLineBreak c)
    (hfeed : afterReturn = true → c ≠ '\n') (t : Text) :
    linesBehind afterReturn (c :: t) = [] :: linesBehind (c = '\r') t := by
  cases afterReturn with
  | false => exact linesBehind_false_cons hc t
  | true =>
      have hreturn : c = '\r' := (isLineBreak_iff.mp hc).resolve_left (hfeed rfl)
      subst hreturn
      exact linesBehind_false_cons hc t

/-- A terminator begins with a line break, and what is behind it goes on after a carriage return
just if it is one by itself. -/
theorem exists_decodeReplacing_terminator (terminator : Terminator) (rest : Bytes) :
    ∃ c t, Utf8.decodeReplacing (terminator.bytes ++ rest) = c :: t ∧ isLineBreak c ∧
      (c = '\n' → terminator = .feed) ∧
      linesBehind (c = '\r') t =
        linesBehind (terminator = .carriage) (Utf8.decodeReplacing rest) := by
  have hfeed : ∀ bytes, Utf8.decodeReplacing (10 :: bytes) =
      CodePoint.ofChar '\n' :: Utf8.decodeReplacing bytes :=
    fun bytes ↦ Utf8.decodeReplacing_cons (by decide)
  have hreturn : ∀ bytes, Utf8.decodeReplacing (13 :: bytes) =
      CodePoint.ofChar '\r' :: Utf8.decodeReplacing bytes :=
    fun bytes ↦ Utf8.decodeReplacing_cons (by decide)
  cases terminator with
  | feed => exact ⟨'\n', _, hfeed rest, rfl, fun _ ↦ rfl, rfl⟩
  | carriage => exact ⟨'\r', _, hreturn rest, rfl, by decide, rfl⟩
  | both =>
      refine ⟨'\r', _, hreturn (10 :: rest), rfl, by decide, ?_⟩
      rw [hfeed rest]
      rfl

theorem linesBehind_piece (hpiece : Unbroken piece)
    (hfeed : afterReturn = true → (piece ++ (terminator.bytes ++ rest)).head? ≠ some 10) :
    linesBehind afterReturn (Utf8.decodeReplacing (piece ++ (terminator.bytes ++ rest))) =
      Utf8.decodeReplacing piece ::
        linesBehind (terminator = .carriage) (Utf8.decodeReplacing rest) := by
  obtain ⟨c, t, htext, hc, hterminator, hbehind⟩ :=
    exists_decodeReplacing_terminator terminator rest
  have hascii : ∀ b ∈ (terminator.bytes ++ rest).head?, b.toNat < 0x80 := by
    cases terminator <;> simp [Terminator.bytes]
  rw [Utf8.decodeReplacing_append_right piece hascii, htext, ← hbehind]
  by_cases hnil : piece = []
  · subst hnil
    apply linesBehind_break hc
    intro hafter hbreak
    obtain rfl := hterminator hbreak
    exact hfeed hafter rfl
  · have hhead : ∀ d ∈ (c :: t).head?, isLineBreak d := by simpa using hc
    rw [linesBehind_append (unbroken_decodeReplacing hpiece)
      (mt Utf8.decodeReplacing_eq_nil_iff.mp hnil) hhead]
    simp

theorem linesBehind_last (hlast : Unbroken last) :
    linesBehind afterReturn (Utf8.decodeReplacing last) =
      if last = [] then [] else [Utf8.decodeReplacing last] := by
  split
  next hnil =>
    subst hnil
    exact linesBehind_nil afterReturn
  next hnil =>
    have hlines : linesBehind afterReturn (Utf8.decodeReplacing last ++ []) = _ :=
      linesBehind_append (unbroken_decodeReplacing hlast)
        (mt Utf8.decodeReplacing_eq_nil_iff.mp hnil) (by simp)
    rwa [List.append_nil] at hlines

/-! ## All pieces -/

/-- Behind a carriage return the pieces must not begin with a line feed, which would belong to
it. -/
theorem linesBehind_joined (h : Separate pieces last)
    (hfeed : afterReturn = true → (joined pieces last).head? ≠ some 10) :
    linesBehind afterReturn (Utf8.decodeReplacing (joined pieces last)) =
      decodedPieces pieces last := by
  induction pieces generalizing afterReturn with
  | nil => exact linesBehind_last h
  | cons p pieces ih =>
      obtain ⟨hpiece, hreturn, hpieces⟩ := h
      rw [joined, linesBehind_piece hpiece hfeed, ih hpieces (by simpa using hreturn)]
      rfl

theorem linesOfBytes_joined (h : Separate pieces last) :
    linesOfBytes (joined pieces last) = decodedPieces pieces last :=
  linesBehind_joined h (by simp)

theorem unbroken_of_mem_decodedPieces (h : Separate pieces last) {line : Text}
    (hline : line ∈ decodedPieces pieces last) : ∀ c ∈ line, isLineBreak c = false := by
  induction pieces with
  | nil =>
      rw [decodedPieces, List.map_nil, List.nil_append] at hline
      split at hline
      · cases hline
      · rw [List.mem_singleton.mp hline]
        exact unbroken_decodeReplacing h
  | cons p pieces ih =>
      obtain ⟨hpiece, -, hpieces⟩ := h
      rcases List.mem_cons.mp hline with rfl | hline
      · exact unbroken_decodeReplacing hpiece
      · exact ih hpieces hline

end Text

namespace Source

open Text

/-- A file and standard input with the same bytes give the same lines: the pieces between the
terminators, each decoded by itself, and the last one unless it is empty. None of them holds a line
break. -/
theorem lines_of_joined {pieces : List (Bytes × Terminator)} {last : Bytes}
    (h : Separate pieces last) :
    ∃ lines, lines = pieces.map (fun p ↦ Utf8.decodeReplacing p.1) ++
        (if last = [] then [] else [Utf8.decodeReplacing last]) ∧
      (∀ line ∈ lines, ∀ c ∈ line, c ≠ '\n' ∧ c ≠ '\r') ∧
      (∀ t, ofArgument t (.bytes (joined pieces last)) "-" = ⟨lines, none⟩) ∧
      ∀ t stdin argument, argument ≠ ("-" : Text) →
        t.entryIfAny (Path.ofText argument) = .ok (some (.file (joined pieces last))) →
        ofArgument t stdin argument = ⟨lines, none⟩ := by
  refine ⟨decodedPieces pieces last, rfl, ?_, ?_, ?_⟩
  · intro line hline c hc
    rw [← not_or, ← isLineBreak_iff, unbroken_of_mem_decodedPieces h hline c hc]
    exact Bool.false_ne_true
  · intro t
    rw [ofArgument, if_pos rfl, ofStandardInput, linesOfBytes_joined h]
  · intro t stdin argument hargument hfile
    rw [ofArgument, if_neg hargument, ofFile, hfile, ← linesOfBytes_joined h]

/-- Sequences that are broken off before a line feed and before a carriage return, separators that
end no line, and an empty line. -/
def awkwardPieces : List (Bytes × Terminator) :=
  [([0x61, 0xE2, 0x80], .feed), ([0x0B, 0xC2, 0x85, 0xE2, 0x80, 0xA8, 0x1C], .both),
    ([], .carriage), ([0xF0, 0x9F], .carriage)]

def awkwardBytes : Bytes :=
  [0x61, 0xE2, 0x80, 10, 0x0B, 0xC2, 0x85, 0xE2, 0x80, 0xA8, 0x1C, 13, 10, 13, 0xF0, 0x9F, 13, 0x62]

def awkwardLines : List Text :=
  [[CodePoint.ofChar 'a', Utf8.replacement], [0x0B, 0x85, 0x2028, 0x1C].map CodePoint.ofNat, [],
    [Utf8.replacement], [CodePoint.ofChar 'b']]

/-- The same lines come from standard input and from a file in the current directory. -/
theorem lines_of_joined_awkward :
    Separate awkwardPieces [0x62] ∧ joined awkwardPieces [0x62] = awkwardBytes ∧
      ofArgument .empty (.bytes awkwardBytes) "-" = ⟨awkwardLines, none⟩ ∧
      ofArgument (Tree.empty.add [Path.nameOf "in"] (.file awkwardBytes)) (.bytes []) "in" =
        ⟨awkwardLines, none⟩ := by
  have hseparate : Separate awkwardPieces [0x62] := by decide +kernel
  have hjoined : joined awkwardPieces [0x62] = awkwardBytes := by decide +kernel
  obtain ⟨lines, hlines, -, hstdin, hfile⟩ := lines_of_joined hseparate
  have hawkward : lines = awkwardLines := hlines.trans (by decide +kernel)
  rw [hjoined, hawkward] at hstdin hfile
  refine ⟨hseparate, hjoined, hstdin .empty, hfile _ (.bytes []) "in" (by decide) ?_⟩
  decide +kernel

end Source

end PackageRollup
