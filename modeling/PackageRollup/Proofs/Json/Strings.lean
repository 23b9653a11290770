import Mathlib.Data.List.Chain
import PackageRollup.Json.Basic
import PackageRollup.Proofs.Json.Outline
import PackageRollup.Proofs.Text.Digits

/-!
# Strings, printed and read

A printed string is read as elements again, one for each of its code points and two for a code point
beyond sixteen bits. Joining them undoes the printing, unless the text has a high surrogate directly
before a low one: these two print like the one code point that they make up.
-/

namespace PackageRollup.Json

variable {opening rest t : Text} {c : CodePoint} {n : Nat}

/-! ## Elements -/

/-- Whether a code point is printed by itself or with a letter, not with its number. -/
def isShort (c : CodePoint) : Bool :=
  (0x20 ≤ c.val && c.val ≤ 0x7E) || c.val ∈ [0x08, 0x09, 0x0A, 0x0C, 0x0D]

def highHalf (n : Nat) : Nat := 0xD800 + (n - 0x10000) / 0x400

def lowHalf (n : Nat) : Nat := 0xDC00 + (n - 0x10000) % 0x400

/-- The elements that a printed code point is read as. -/
def elementsOf (c : CodePoint) : List Element :=
  if isShort c then [.plain c]
  else if c.val < 0x10000 then [.numbered c.val]
  else [.numbered (highHalf c.val), .numbered (lowHalf c.val)]

theorem val_lt_of_isShort (hc : isShort c = true) : c.val < 128 := by
  simp only [isShort, Bool.or_eq_true, Bool.and_eq_true, decide_eq_true_eq, List.mem_cons,
    List.not_mem_nil, or_false] at hc
  omega

theorem isShort_eq_false (hc : 128 ≤ c.val) : isShort c = false := by
  cases hshort : isShort c with
  | false => rfl
  | true => exact absurd (val_lt_of_isShort hshort) (Nat.not_lt_of_le hc)

/-- A short code point is printed by itself, or as a backslash and its letter. -/
theorem escapeOne_of_isShort (hc : isShort c = true) :
    (escapeOne c = [c] ∧ 0x20 ≤ c.val ∧ c ≠ '"' ∧ c ≠ '\\') ∨
      ∃ e : CodePoint, escapeOne c = [CodePoint.ofChar '\\', e] ∧ letterEscape? e = some c ∧
        e ≠ 'u' := by
  have hall : ∀ m : Fin 128, isShort (CodePoint.ofNat m) = true →
      (escapeOne (CodePoint.ofNat m) = [CodePoint.ofNat m] ∧ 0x20 ≤ (CodePoint.ofNat m).val ∧
        CodePoint.ofNat m ≠ '"' ∧ CodePoint.ofNat m ≠ '\\') ∨
      ∃ e ∈ Text.ofString "\"\\bfnrt", escapeOne (CodePoint.ofNat m) = [CodePoint.ofChar '\\', e] ∧
        letterEscape? e = some (CodePoint.ofNat m) ∧ e ≠ 'u' := by
    decide +kernel
  have h := hall ⟨c.val, val_lt_of_isShort hc⟩
  rw [CodePoint.ofNat_val] at h
  rcases h hc with h | ⟨e, -, h⟩
  · exact Or.inl h
  · exact Or.inr ⟨e, h⟩

theorem escapeOne_of_not_isShort (hc : isShort c = false) (hn : c.val < 0x10000) :
    escapeOne c = unitEscape c.val := by
  simp only [isShort, Bool.or_eq_false_iff, Bool.and_eq_false_iff, decide_eq_false_iff_not,
    List.mem_cons, List.not_mem_nil] at hc
  grind [escapeOne]

theorem escapeOne_of_le (hn : 0x10000 ≤ c.val) :
    escapeOne c = unitEscape (highHalf c.val) ++ unitEscape (lowHalf c.val) := by
  grind [escapeOne, highHalf, lowHalf]

theorem highHalf_lt (hn : n < 0x110000) : highHalf n < 0xDC00 := by
  rw [highHalf]
  omega

theorem lowHalf_lt (n : Nat) : lowHalf n < 0xE000 := by
  rw [lowHalf]
  omega

/-! ## Only ASCII is printed -/

theorem isAscii_append {u : Text} : IsAscii (t ++ u) ↔ IsAscii t ∧ IsAscii u :=
  List.forall_mem_append

theorem isAscii_ofNat (n : Nat) : IsAscii (Text.ofNat n) := by
  intro c hc
  exact (bare_of_isDigit (Text.isDigit_of_mem_ofNat hc)).1

theorem isAscii_ofInt (n : Int) : IsAscii (Text.ofInt n) := by
  cases n with
  | ofNat n => exact isAscii_ofNat n
  | negSucc n => exact isAscii_cons.mpr ⟨by decide, isAscii_ofNat (n + 1)⟩

theorem val_hexDigit_lt (hn : n < 16) : (CodePoint.hexDigit n).val < 128 :=
  val_lt_of_hexValue? (CodePoint.hexValue?_hexDigit hn)

theorem isAscii_unitEscape (hn : n < 0x10000) : IsAscii (unitEscape n) := by
  rw [unitEscape, isAscii_append, Text.ofNatHex_four hn]
  refine ⟨by decide, ?_⟩
  simp only [isAscii_cons]
  exact ⟨val_hexDigit_lt (by omega), val_hexDigit_lt (by omega), val_hexDigit_lt (by omega),
    val_hexDigit_lt (by omega), List.forall_mem_nil _⟩

theorem isAscii_escapeOne (c : CodePoint) : IsAscii (escapeOne c) := by
  by_cases hlarge : 0x10000 ≤ c.val
  · rw [escapeOne_of_le hlarge, isAscii_append]
    have hhigh := highHalf_lt c.isLt
    have hlow := lowHalf_lt c.val
    exact ⟨isAscii_unitEscape (by omega), isAscii_unitEscape (by omega)⟩
  have hc : c.val < 0x10000 := Nat.lt_of_not_le hlarge
  cases hshort : isShort c with
  | false =>
      rw [escapeOne_of_not_isShort hshort hc]
      exact isAscii_unitEscape hc
  | true =>
      rcases escapeOne_of_isShort hshort with ⟨he, -, -, -⟩ | ⟨e, he, hletter, -⟩
      · rw [he]
        exact isAscii_cons.mpr ⟨val_lt_of_isShort hshort, List.forall_mem_nil _⟩
      · rw [he]
        have hval := val_lt_of_letterEscape? hletter
        exact isAscii_cons.mpr ⟨by decide, isAscii_cons.mpr ⟨hval, List.forall_mem_nil _⟩⟩

theorem isAscii_flatMap {α : Type} {f : α → Text} {xs : List α} (h : ∀ x ∈ xs, IsAscii (f x)) :
    IsAscii (xs.flatMap f) := by
  intro c hc
  obtain ⟨x, hx, hcx⟩ := List.mem_flatMap.mp hc
  exact h x hx c hcx

theorem isAscii_printString (t : Text) : IsAscii (printString t) := by
  rw [printString, isAscii_append, isAscii_append]
  exact ⟨⟨by decide, isAscii_flatMap fun c _ ↦ isAscii_escapeOne c⟩, by decide⟩

/-! ## Reading the elements -/

theorem hexUnit?_hexDigits (hn : n < 0x10000) :
    hexUnit? (CodePoint.hexDigit (n / 4096)) (CodePoint.hexDigit (n / 256 % 16))
      (CodePoint.hexDigit (n / 16 % 16)) (CodePoint.hexDigit (n % 16)) = some n := by
  simp only [hexUnit?, CodePoint.hexValue?_hexDigit (by omega : n / 4096 < 16),
    CodePoint.hexValue?_hexDigit (by omega : n / 256 % 16 < 16),
    CodePoint.hexValue?_hexDigit (by omega : n / 16 % 16 < 16),
    CodePoint.hexValue?_hexDigit (by omega : n % 16 < 16), Option.some.injEq]
  omega

theorem stringElements_unitEscape (hn : n < 0x10000) (hrest : rest ≠ []) :
    stringElements opening (unitEscape n ++ rest) =
      consElement (.numbered n) (stringElements opening rest) := by
  have hempty : rest.isEmpty = false := by
    cases rest with
    | nil => exact absurd rfl hrest
    | cons c rest => rfl
  have htext : unitEscape n ++ rest = CodePoint.ofChar '\\' :: CodePoint.ofChar 'u' ::
      (Text.ofNatHex 4 n ++ rest) := rfl
  have hquote : CodePoint.ofChar '\\' ≠ '"' := by decide
  rw [htext, Text.ofNatHex_four hn]
  simp [stringElements, hquote, hexUnit?_hexDigits hn, hempty]

theorem stringElements_letterEscape {e : CodePoint} (he : letterEscape? e = some c)
    (hu : e ≠ 'u') (rest : Text) :
    stringElements opening (CodePoint.ofChar '\\' :: e :: rest) =
      consElement (.plain c) (stringElements opening rest) := by
  have hquote : CodePoint.ofChar '\\' ≠ '"' := by decide
  rw [stringElements.eq_def]
  simp only [if_neg hquote, if_true, if_neg hu, he]

theorem stringElements_plain (hc : 0x20 ≤ c.val) (hquote : c ≠ '"') (hslash : c ≠ '\\')
    (rest : Text) :
    stringElements opening (c :: rest) = consElement (.plain c) (stringElements opening rest) := by
  rw [stringElements.eq_def]
  simp only [if_neg hquote, if_neg hslash, if_neg (Nat.not_lt_of_le hc)]

theorem stringElements_quote (rest : Text) :
    stringElements opening (CodePoint.ofChar '"' :: rest) = .ok ([], rest) := by
  rw [stringElements.eq_def]
  simp only [if_true]

/-- One code point is read as its elements, whatever is read after it. -/
theorem stringElements_escapeOne (c : CodePoint) (hrest : rest ≠ []) :
    stringElements opening (escapeOne c ++ rest) =
      (elementsOf c).foldr consElement (stringElements opening rest) := by
  by_cases hlarge : 0x10000 ≤ c.val
  · have hshort : isShort c = false := isShort_eq_false (by omega)
    have hhigh := highHalf_lt c.isLt
    have hlow := lowHalf_lt c.val
    have hne : unitEscape (lowHalf c.val) ++ rest ≠ [] := List.append_ne_nil_of_right_ne_nil _ hrest
    rw [escapeOne_of_le hlarge, List.append_assoc, stringElements_unitEscape (by omega) hne,
      stringElements_unitEscape (by omega) hrest]
    simp [elementsOf, hshort, Nat.not_lt_of_le hlarge]
  have hc : c.val < 0x10000 := Nat.lt_of_not_le hlarge
  cases hshort : isShort c with
  | false =>
      rw [escapeOne_of_not_isShort hshort hc, stringElements_unitEscape hc hrest]
      simp [elementsOf, hshort, hc]
  | true =>
      have helements : elementsOf c = [.plain c] := by simp [elementsOf, hshort]
      rw [helements]
      rcases escapeOne_of_isShort hshort with ⟨he, hge, hquote, hslash⟩ | ⟨e, he, hletter, hu⟩
      · rw [he]
        exact stringElements_plain hge hquote hslash rest
      · rw [he]
        exact stringElements_letterEscape hletter hu rest

theorem foldr_consElement (es fs : List Element) (rest : Text) :
    es.foldr consElement (.ok (fs, rest)) = .ok (es ++ fs, rest) := by
  induction es with
  | nil => rfl
  | cons e es ih =>
      rw [List.foldr_cons, ih]
      rfl

theorem stringElements_print (opening t rest : Text) :
    stringElements opening (t.flatMap escapeOne ++ CodePoint.ofChar '"' :: rest) =
      .ok (t.flatMap elementsOf, rest) := by
  induction t with
  | nil => exact stringElements_quote rest
  | cons c t ih =>
      have hne : t.flatMap escapeOne ++ CodePoint.ofChar '"' :: rest ≠ [] :=
        List.append_ne_nil_of_right_ne_nil _ (List.cons_ne_nil _ _)
      rw [List.flatMap_cons, List.append_assoc, stringElements_escapeOne c hne, ih,
        foldr_consElement, List.flatMap_cons]

/-! ## Joining the elements -/

/-- No high surrogate stands directly before a low one. -/
def Unpaired (t : Text) : Prop :=
  t.IsChain fun c d ↦ ¬ (c.isHighSurrogate ∧ d.isLowSurrogate)

instance : DecidablePred Unpaired := fun t ↦
  inferInstanceAs (Decidable (t.IsChain fun c d ↦ ¬ (c.isHighSurrogate ∧ d.isLowSurrogate)))

theorem joinElements_cons {e : Element} {es : List Element} (h : ∀ f ∈ es.head?, e.pair? f = none) :
    joinElements (e :: es) = e.alone :: joinElements es := by
  cases es with
  | nil => rfl
  | cons f es => simp [joinElements, h f rfl]

theorem joinElements_pair {e f : Element} {es : List Element} (h : e.pair? f = some c) :
    joinElements (e :: f :: es) = c :: joinElements es := by
  simp [joinElements, h]

theorem pair?_halves (hlarge : 0x10000 ≤ c.val) :
    Element.pair? (.numbered (highHalf c.val)) (.numbered (lowHalf c.val)) = some c := by
  have hc := c.isLt
  have hhigh : highHalf c.val < 0x110000 := Nat.lt_trans (highHalf_lt hc) (by decide)
  have hlow : lowHalf c.val < 0x110000 := Nat.lt_trans (lowHalf_lt c.val) (by decide)
  have hhigh' : (CodePoint.ofNat (highHalf c.val)).isHighSurrogate = true := by
    rw [CodePoint.isHighSurrogate, CodePoint.val_ofNat hhigh, highHalf, Bool.and_eq_true,
      decide_eq_true_eq, decide_eq_true_eq]
    omega
  have hlow' : (CodePoint.ofNat (lowHalf c.val)).isLowSurrogate = true := by
    rw [CodePoint.isLowSurrogate, CodePoint.val_ofNat hlow, lowHalf, Bool.and_eq_true,
      decide_eq_true_eq, decide_eq_true_eq]
    omega
  have hsum : 0x10000 + 0x400 * (highHalf c.val - 0xD800) + (lowHalf c.val - 0xDC00) = c.val := by
    rw [highHalf, lowHalf]
    omega
  simp only [Element.pair?, hhigh', hlow', Bool.and_self, if_true, joinSurrogates, hsum,
    CodePoint.ofNat_val]

/-- What is read for a text begins with a low surrogate only if the text does. -/
theorem isLowSurrogate_of_head? {m : Nat} (h : (t.flatMap elementsOf).head? = some (.numbered m))
    (hm : (CodePoint.ofNat m).isLowSurrogate = true) : ∃ d ∈ t.head?, d.isLowSurrogate = true := by
  cases t with
  | nil => cases h
  | cons d t =>
      refine ⟨d, rfl, ?_⟩
      rw [List.flatMap_cons, elementsOf] at h
      split at h
      · cases h
      · split at h
        · cases h
          rwa [CodePoint.ofNat_val] at hm
        · cases h
          have hlt := highHalf_lt d.isLt
          rw [CodePoint.isLowSurrogate, CodePoint.val_ofNat (Nat.lt_trans hlt (by decide)),
            Bool.and_eq_true, decide_eq_true_eq] at hm
          omega

theorem joinElements_elementsOf (hc : ∀ d ∈ t.head?, ¬ (c.isHighSurrogate ∧ d.isLowSurrogate)) :
    joinElements (elementsOf c ++ t.flatMap elementsOf) =
      c :: joinElements (t.flatMap elementsOf) := by
  rw [elementsOf]
  split
  · exact joinElements_cons fun f _ ↦ rfl
  split
  · have hpair : ∀ f ∈ (t.flatMap elementsOf).head?, Element.pair? (.numbered c.val) f = none := by
      intro f hf
      cases f with
      | plain d => rfl
      | numbered m =>
          by_contra hne
          simp only [Element.pair?, CodePoint.ofNat_val, ite_eq_right_iff, not_forall] at hne
          obtain ⟨hhigh, hlow⟩ := Bool.and_eq_true_iff.mp hne.1
          obtain ⟨d, hd, hdlow⟩ := isLowSurrogate_of_head? hf hlow
          exact hc d hd ⟨hhigh, hdlow⟩
    have hjoin := joinElements_cons hpair
    rwa [Element.alone, CodePoint.ofNat_val] at hjoin
  next hsmall => exact joinElements_pair (pair?_halves (Nat.le_of_not_lt hsmall))

theorem joinElements_flatMap (ht : Unpaired t) : joinElements (t.flatMap elementsOf) = t := by
  induction t with
  | nil => rfl
  | cons c t ih =>
      obtain ⟨hc, ht⟩ := List.isChain_cons.mp ht
      rw [List.flatMap_cons, joinElements_elementsOf hc, ih ht]

theorem stringBody_print (ht : Unpaired t) (opening rest : Text) :
    stringBody opening (t.flatMap escapeOne ++ CodePoint.ofChar '"' :: rest) = .ok (t, rest) := by
  rw [stringBody, stringElements_print]
  simp only [Except.map, joinElements_flatMap ht]

/-- A surrogate pair prints like the code point that it stands for. -/
theorem escapeOne_pair {high low : CodePoint} (hhigh : high.isHighSurrogate = true)
    (hlow : low.isLowSurrogate = true) :
    escapeOne high ++ escapeOne low = escapeOne (joinSurrogates high.val low.val) := by
  rw [CodePoint.isHighSurrogate, Bool.and_eq_true, decide_eq_true_eq, decide_eq_true_eq] at hhigh
  rw [CodePoint.isLowSurrogate, Bool.and_eq_true, decide_eq_true_eq, decide_eq_true_eq] at hlow
  have hjoin : (joinSurrogates high.val low.val).val =
      0x10000 + 0x400 * (high.val - 0xD800) + (low.val - 0xDC00) :=
    CodePoint.val_ofNat (by omega)
  have hhalves : highHalf (joinSurrogates high.val low.val).val = high.val ∧
      lowHalf (joinSurrogates high.val low.val).val = low.val := by
    rw [highHalf, lowHalf, hjoin]
    omega
  have hlarge : 0x10000 ≤ (joinSurrogates high.val low.val).val := by omega
  rw [escapeOne_of_not_isShort (isShort_eq_false (by omega)) (by omega),
    escapeOne_of_not_isShort (isShort_eq_false (by omega)) (by omega), escapeOne_of_le hlarge,
    hhalves.1, hhalves.2]

end PackageRollup.Json
