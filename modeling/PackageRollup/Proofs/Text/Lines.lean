import PackageRollup.Proofs.Text.Pieces
import PackageRollup.Proofs.Text.Utf8
import PackageRollup.Text.CharacterClass
import PackageRollup.Text.Utf8

/-!
# One line among others

Where a line begins and ends can be seen from the bytes: it ends at the first byte of a terminator,
and a terminator is never part of an encoded sequence. Replacing the bytes of a line leaves the
lines before it and the lines behind it as they are, except that an empty line between a carriage
return and a line feed is no line.
-/

namespace PackageRollup

namespace Text

variable {t u : Text} {c : CodePoint} {ts us : List Text}

/-! ## Pieces -/

theorem dropEmptyLast_append (hus : us ≠ []) :
    dropEmptyLast (ts ++ us) = ts ++ dropEmptyLast us := by
  induction ts with
  | nil => rfl
  | cons t ts ih =>
      rw [List.cons_append, List.cons_append, ← ih]
      cases htail : ts ++ us with
      | nil => exact absurd (List.append_eq_nil_iff.mp htail).2 hus
      | cons piece pieces => rfl

theorem dropEmptyLast_splitOn_append_cons {sep : CodePoint} (h : sep ∉ t) (u : Text) :
    dropEmptyLast (splitOn sep (t ++ sep :: u)) = t :: dropEmptyLast (splitOn sep u) := by
  rw [splitOn_append_cons, splitOn_eq_singleton h, dropEmptyLast_append (splitOn_ne_nil sep u),
    List.singleton_append]

/-! ## Lines before and behind -/

/-- The lines of a text behind another one, which ends in a carriage return or does not. -/
def linesBehind (afterReturn : Bool) (t : Text) : List Text :=
  dropEmptyLast (splitOn '\n' (unifyLineBreaks afterReturn t))

theorem linesBehind_nil (afterReturn : Bool) : linesBehind afterReturn [] = [] := rfl

theorem isLineBreak_iff : isLineBreak c ↔ c = '\n' ∨ c = '\r' := by
  simp only [isLineBreak, Bool.or_eq_true, decide_eq_true_eq, CodePoint.ext_iff]
  rfl

theorem unifyLineBreaks_return (afterReturn : Bool) (t : Text) :
    unifyLineBreaks afterReturn (CodePoint.ofChar '\r' :: t) =
      CodePoint.ofChar '\n' :: unifyLineBreaks true t := rfl

theorem unifyLineBreaks_break (hc : isLineBreak c) (t : Text) :
    unifyLineBreaks false (c :: t) = CodePoint.ofChar '\n' :: unifyLineBreaks (c = '\r') t := by
  rcases isLineBreak_iff.mp hc with rfl | rfl <;> rfl

theorem unifyLineBreaks_cons {afterReturn : Bool} (hc : isLineBreak c = false) (t : Text) :
    unifyLineBreaks afterReturn (c :: t) = c :: unifyLineBreaks false t := by
  have hne : ¬ (c = '\n' ∨ c = '\r') := by
    rw [← isLineBreak_iff, hc]
    exact Bool.false_ne_true
  rw [not_or] at hne
  rw [unifyLineBreaks, if_neg hne.1, if_neg hne.2]

theorem linesBehind_false_cons (hc : isLineBreak c) (t : Text) :
    linesBehind false (c :: t) = [] :: linesBehind (c = '\r') t := by
  have hpiece := dropEmptyLast_splitOn_append_cons (List.not_mem_nil (a := CodePoint.ofChar '\n'))
  rw [linesBehind, unifyLineBreaks_break hc]
  exact hpiece _

/-- The front of a text up to a line break becomes something that ends in a line feed. -/
theorem exists_unifyLineBreaks_append_cons (afterReturn : Bool) (t : Text) (hc : isLineBreak c) :
    ∃ v, ∀ u, (if afterReturn then [CodePoint.ofChar '\n'] else []) ++
        unifyLineBreaks afterReturn (t ++ c :: u) =
      v ++ CodePoint.ofChar '\n' :: unifyLineBreaks (c = '\r') u := by
  -- The line feed that is swallowed behind a carriage return has been written already, so what has
  -- been written is carried along; without it the text before the break could end in nothing.
  induction t generalizing afterReturn with
  | nil =>
      rcases isLineBreak_iff.mp hc with rfl | rfl
      · exact ⟨[], fun u ↦ by cases afterReturn <;> rfl⟩
      · cases afterReturn with
        | false => exact ⟨[], fun u ↦ rfl⟩
        | true => exact ⟨['\n'], fun u ↦ rfl⟩
  | cons d t ih =>
      obtain ⟨v, hv⟩ := ih false
      obtain ⟨w, hw⟩ := ih true
      simp only [Bool.false_eq_true, if_false, if_true, List.nil_append, List.singleton_append]
        at hv hw
      cases hd : isLineBreak d with
      | false =>
          refine ⟨(if afterReturn then [CodePoint.ofChar '\n'] else []) ++ d :: v, fun u ↦ ?_⟩
          rw [List.cons_append, unifyLineBreaks_cons hd, hv u, List.append_assoc, List.cons_append]
      | true =>
          rcases isLineBreak_iff.mp hd with rfl | rfl
          · refine ⟨CodePoint.ofChar '\n' :: v, fun u ↦ ?_⟩
            cases afterReturn <;> simp [unifyLineBreaks, hv]
          · refine ⟨(if afterReturn then [CodePoint.ofChar '\n'] else []) ++ w, fun u ↦ ?_⟩
            rw [List.cons_append, unifyLineBreaks_return, hw u, List.append_assoc]

theorem lines_append_cons (t : Text) (hc : isLineBreak c) (u : Text) :
    lines (t ++ c :: u) = lines (t ++ [c]) ++ linesBehind (c = '\r') u := by
  obtain ⟨v, hv⟩ := exists_unifyLineBreaks_append_cons false t hc
  have hlines : ∀ u, lines (t ++ c :: u) = splitOn '\n' v ++ linesBehind (c = '\r') u := by
    intro u
    have hu := hv u
    simp only [Bool.false_eq_true, if_false, List.nil_append] at hu
    rw [lines, hu, splitOn_append_cons, dropEmptyLast_append (splitOn_ne_nil _ _), linesBehind]
  rw [hlines u, hlines [], linesBehind_nil, List.append_nil]

theorem unifyLineBreaks_append {afterReturn : Bool} (ht : ∀ c ∈ t, isLineBreak c = false)
    (hne : t ≠ []) (u : Text) :
    unifyLineBreaks afterReturn (t ++ u) = t ++ unifyLineBreaks false u := by
  induction t generalizing afterReturn with
  | nil => exact absurd rfl hne
  | cons c t ih =>
      rw [List.forall_mem_cons] at ht
      rw [List.cons_append, unifyLineBreaks_cons ht.1, List.cons_append]
      cases t with
      | nil => rfl
      | cons d t => rw [ih ht.2 (List.cons_ne_nil d t)]

/-- A line that is not empty stands before the lines behind its terminator. -/
theorem linesBehind_append {afterReturn : Bool} (ht : ∀ c ∈ t, isLineBreak c = false)
    (hne : t ≠ []) (hu : ∀ c ∈ u.head?, isLineBreak c) :
    linesBehind afterReturn (t ++ u) =
      t :: linesBehind (u.head? = some (CodePoint.ofChar '\r')) u.tail := by
  have hfeed : CodePoint.ofChar '\n' ∉ t := by
    intro hmem
    have hbreak := ht _ hmem
    revert hbreak
    decide
  rw [linesBehind, unifyLineBreaks_append ht hne]
  cases u with
  | nil =>
      rw [unifyLineBreaks, List.append_nil, splitOn_eq_singleton hfeed]
      cases t with
      | nil => exact absurd rfl hne
      | cons c t => rfl
  | cons c u =>
      rw [unifyLineBreaks_break (hu c rfl), dropEmptyLast_splitOn_append_cons hfeed, linesBehind]
      simp

/-- Nothing in place of the line leaves an empty line, or no line if its terminators become one. -/
theorem linesBehind_nil_append (afterReturn : Bool) (hu : ∀ c ∈ u.head?, isLineBreak c) :
    linesBehind afterReturn u =
        [] :: linesBehind (u.head? = some (CodePoint.ofChar '\r')) u.tail ∨
      linesBehind afterReturn u =
        linesBehind (u.head? = some (CodePoint.ofChar '\r')) u.tail := by
  cases u with
  | nil => exact Or.inr rfl
  | cons c u =>
      have hc : isLineBreak c := hu c rfl
      cases afterReturn with
      | false =>
          rw [linesBehind_false_cons hc]
          simp
      | true =>
          rcases isLineBreak_iff.mp hc with rfl | rfl
          · exact Or.inr rfl
          · exact Or.inl (linesBehind_false_cons hc u)

/-- The lines of a text that ends with a line are those of the whole text. -/
theorem exists_lines_append (ht : ∀ c ∈ t.getLast?, isLineBreak c) :
    ∃ afterReturn, ∀ u, lines (t ++ u) = lines t ++ linesBehind afterReturn u := by
  rcases List.eq_nil_or_concat t with rfl | ⟨t, c, rfl⟩
  · exact ⟨false, fun u ↦ rfl⟩
  · rw [List.concat_eq_append] at ht ⊢
    have hc : isLineBreak c := ht c List.getLast?_concat
    refine ⟨c = '\r', fun u ↦ ?_⟩
    rw [List.append_assoc, List.singleton_append, lines_append_cons t hc u]

/-! ## Lines in a byte string -/

/-- The two bytes that line terminators are made of. -/
def isBreakByte (b : UInt8) : Bool := b.toNat = 10 || b.toNat = 13

/-- Where a line stands in a byte string: what is before it and what is behind it, with the
terminators. -/
structure LinePlace where
  before : Bytes
  behind : Bytes
  before_ends : ∀ b ∈ before.getLast?, isBreakByte b
  behind_begins : ∀ b ∈ behind.head?, isBreakByte b

namespace LinePlace

def fill (p : LinePlace) (bytes : Bytes) : Bytes := p.before ++ bytes ++ p.behind

def linesBefore (p : LinePlace) : List Text := linesOfBytes p.before

def linesAfter (p : LinePlace) : List Text :=
  linesBehind ((Utf8.decodeReplacing p.behind).head? = some (CodePoint.ofChar '\r'))
    (Utf8.decodeReplacing p.behind).tail

end LinePlace

theorem lt_of_isBreakByte {b : UInt8} (hb : isBreakByte b) : b.toNat < 0x80 := by
  simp only [isBreakByte, Bool.or_eq_true, decide_eq_true_eq] at hb
  omega

theorem isLineBreak_ofNat (b : UInt8) :
    isLineBreak (CodePoint.ofNat b.toNat) = isBreakByte b := by
  simp only [isLineBreak, isBreakByte, Utf8.val_ofNat_toNat]

theorem unbroken_decodeReplacing {bytes : Bytes} (h : ∀ b ∈ bytes, isBreakByte b = false) :
    ∀ c ∈ Utf8.decodeReplacing bytes, isLineBreak c = false := by
  intro c hc
  cases hbreak : isLineBreak c with
  | false => rfl
  | true =>
      have hval : c.val = 10 ∨ c.val = 13 := by simpa [isLineBreak] using hbreak
      obtain ⟨b, hb, hbc⟩ := Utf8.exists_of_mem_decodeReplacing hc (by omega)
      have hbyte := h b hb
      simp only [isBreakByte, hbc, Bool.or_eq_false_iff, decide_eq_false_iff_not] at hbyte
      omega

namespace LinePlace

variable (p : LinePlace)

theorem decodeReplacing_fill (bytes : Bytes) :
    Utf8.decodeReplacing (p.fill bytes) =
      Utf8.decodeReplacing p.before ++
        (Utf8.decodeReplacing bytes ++ Utf8.decodeReplacing p.behind) := by
  have hbefore : ∀ b ∈ p.before.getLast?, b.toNat < 0x80 :=
    fun b hb ↦ lt_of_isBreakByte (p.before_ends b hb)
  have hbehind : ∀ b ∈ p.behind.head?, b.toNat < 0x80 :=
    fun b hb ↦ lt_of_isBreakByte (p.behind_begins b hb)
  rw [fill, List.append_assoc, Utf8.decodeReplacing_append_left hbefore,
    Utf8.decodeReplacing_append_right bytes hbehind]

theorem getLast?_decodeReplacing_before :
    ∀ c ∈ (Utf8.decodeReplacing p.before).getLast?, isLineBreak c := by
  have hends := p.before_ends
  rcases List.eq_nil_or_concat p.before with hnil | ⟨xs, b, hb⟩
  · rw [hnil]
    intro c hc
    cases hc
  · rw [List.concat_eq_append] at hb
    rw [hb] at hends ⊢
    have hbreak : isBreakByte b := hends b List.getLast?_concat
    intro c hc
    rw [Utf8.decodeReplacing_concat (lt_of_isBreakByte hbreak), List.getLast?_concat,
      Option.mem_some_iff] at hc
    rw [← hc, isLineBreak_ofNat, hbreak]

theorem head?_decodeReplacing_behind :
    ∀ c ∈ (Utf8.decodeReplacing p.behind).head?, isLineBreak c := by
  have hbegins := p.behind_begins
  cases hbehind : p.behind with
  | nil =>
      intro c hc
      cases hc
  | cons b ys =>
      rw [hbehind] at hbegins
      have hbreak : isBreakByte b := hbegins b rfl
      intro c hc
      rw [Utf8.decodeReplacing_cons (lt_of_isBreakByte hbreak), List.head?_cons,
        Option.mem_some_iff] at hc
      rw [← hc, isLineBreak_ofNat, hbreak]

/-- The bytes in a place are a line by themselves, unless there are none. -/
theorem linesOfBytes_fill {bytes : Bytes} (h : ∀ b ∈ bytes, isBreakByte b = false) :
    linesOfBytes (p.fill bytes) =
        p.linesBefore ++ Utf8.decodeReplacing bytes :: p.linesAfter ∨
      Utf8.decodeReplacing bytes = [] ∧
        linesOfBytes (p.fill bytes) = p.linesBefore ++ p.linesAfter := by
  obtain ⟨afterReturn, hlines⟩ := exists_lines_append p.getLast?_decodeReplacing_before
  rw [linesOfBytes, decodeReplacing_fill, hlines]
  by_cases hnil : Utf8.decodeReplacing bytes = []
  · rw [hnil, List.nil_append]
    rcases linesBehind_nil_append afterReturn p.head?_decodeReplacing_behind with hempty | hnone
    · rw [hempty]
      exact Or.inl rfl
    · rw [hnone]
      exact Or.inr ⟨rfl, rfl⟩
  · rw [linesBehind_append (unbroken_decodeReplacing h) hnil p.head?_decodeReplacing_behind]
    exact Or.inl rfl

end LinePlace

end Text

end PackageRollup
