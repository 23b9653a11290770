import PackageRollup.Proofs.Json.Rest

/-!
# The outline of a text

Code points beyond ASCII stand nowhere in JSON but inside of strings, and there they stand for
themselves. Everything else that makes up a text is its outline: what is outside of strings, the
quotes around them, and the escapes in them. The outline of a text that can be read is ASCII.
-/

namespace PackageRollup.Json

variable {t u : Text}

/-- Where a code point stands: outside of strings, inside of one, behind the backslash of an escape,
or among its digits, with the number of digits that follow. -/
inductive Place where
  | outside
  | inside
  | escape
  | digits (more : Nat)
deriving DecidableEq

def Place.next : Place → CodePoint → Place
  | outside, c => if c = '"' then inside else outside
  | inside, c => if c = '"' then outside else if c = '\\' then escape else inside
  | escape, c => if c = 'u' then digits 3 else inside
  | digits 0, _ => inside
  | digits (more + 1), _ => digits more

/-- Whether a code point stands for itself inside of a string. -/
def Place.isPlain (p : Place) (c : CodePoint) : Bool := p = inside ∧ c ≠ '"' ∧ c ≠ '\\'

/-- A text from a place on, without the code points that stand for themselves inside of strings. -/
def outlineFrom (p : Place) : Text → Text
  | [] => []
  | c :: t => if p.isPlain c then outlineFrom (p.next c) t else c :: outlineFrom (p.next c) t

def outline (t : Text) : Text := outlineFrom .outside t

def IsAscii (t : Text) : Prop := ∀ c ∈ t, c.val < 128

instance : DecidablePred IsAscii := fun t ↦ inferInstanceAs (Decidable (∀ c ∈ t, c.val < 128))

theorem isAscii_cons {c : CodePoint} : IsAscii (c :: t) ↔ c.val < 128 ∧ IsAscii t :=
  List.forall_mem_cons

theorem outlineFrom_cons {p : Place} {c : CodePoint} (h : p.isPlain c = false) (t : Text) :
    outlineFrom p (c :: t) = c :: outlineFrom (p.next c) t := by
  simp [outlineFrom, h]

theorem outlineFrom_plain {c : CodePoint} (hquote : c ≠ '"') (hslash : c ≠ '\\') (t : Text) :
    outlineFrom .inside (c :: t) = outlineFrom .inside t := by
  simp [outlineFrom, Place.isPlain, Place.next, hquote, hslash]

theorem outline_cons {c : CodePoint} (hc : c ≠ '"') (t : Text) :
    outline (c :: t) = c :: outline t := by
  rw [outline, outlineFrom_cons rfl, Place.next, if_neg hc, outline]

/-! ## Strings -/

theorem val_lt_of_hexValue? {c : CodePoint} {n : Nat} (h : c.hexValue? = some n) :
    c.val < 128 := by
  simp only [CodePoint.hexValue?, Bool.and_eq_true, decide_eq_true_eq] at h
  split at h
  · omega
  · split at h
    · omega
    · split at h
      · omega
      · cases h

theorem isAscii_of_hexUnit? {w x y z : CodePoint} {n : Nat} (h : hexUnit? w x y z = some n) :
    IsAscii [w, x, y, z] := by
  simp only [hexUnit?] at h
  split at h
  next hw hx hy hz =>
    simp [IsAscii, val_lt_of_hexValue? hw, val_lt_of_hexValue? hx, val_lt_of_hexValue? hy,
      val_lt_of_hexValue? hz]
  next => cases h

theorem val_lt_of_letterEscape? {e c : CodePoint} (h : letterEscape? e = some c) :
    e.val < 128 := by
  by_contra hlarge
  have hne : ∀ d : Char, (CodePoint.ofChar d).val < 128 → e ≠ d := by
    rintro d hd rfl
    exact hlarge hd
  have hnone : letterEscape? e = none := by
    simp [letterEscape?, hne '"' (by decide), hne '\\' (by decide), hne '/' (by decide),
      hne 'b' (by decide), hne 'f' (by decide), hne 'n' (by decide), hne 'r' (by decide),
      hne 't' (by decide)]
  rw [hnone] at h
  cases h

theorem exists_of_consElement {r : Read (List Element)} {e : Element} {es : List Element}
    {rest : Text} (h : consElement e r = .ok (es, rest)) : ∃ es', r = .ok (es', rest) := by
  cases r with
  | error f => cases h
  | ok p =>
      cases h
      exact ⟨p.1, rfl⟩

/-- A string whose end is found has nothing beyond ASCII among its escapes. -/
theorem isAscii_outlineFrom_of_stringElements (opening : Text) {es : List Element} {rest : Text}
    (h : stringElements opening t = .ok (es, rest)) (hrest : IsAscii (outline rest)) :
    IsAscii (outlineFrom .inside t) := by
  fun_induction stringElements opening t generalizing es with
  | case2 t =>
      cases h
      exact isAscii_cons.mpr ⟨by decide, hrest⟩
  | case4 w x y z t n hhex _ _ ih =>
      obtain ⟨es', hes⟩ := exists_of_consElement h
      have hdigits := isAscii_of_hexUnit? hhex
      simp only [IsAscii, List.forall_mem_cons] at hdigits
      obtain ⟨hw, hx, hy, hz, -⟩ := hdigits
      have htail : IsAscii (outlineFrom .inside t) := ih hes
      refine isAscii_cons.mpr ⟨by decide, isAscii_cons.mpr ⟨by decide, ?_⟩⟩
      refine isAscii_cons.mpr ⟨hw, isAscii_cons.mpr ⟨hx, isAscii_cons.mpr ⟨hy, ?_⟩⟩⟩
      exact isAscii_cons.mpr ⟨hz, htail⟩
  | case8 e t hu x hx _ ih =>
      obtain ⟨es', hes⟩ := exists_of_consElement h
      have htail : IsAscii (outlineFrom (Place.next .escape e) t) := by
        rw [Place.next, if_neg hu]
        exact ih hes
      have he : e.val < 128 := val_lt_of_letterEscape? hx
      exact isAscii_cons.mpr ⟨by decide, isAscii_cons.mpr ⟨he, htail⟩⟩
  | case10 c t hquote hslash _ ih =>
      obtain ⟨es', hes⟩ := exists_of_consElement h
      rw [outlineFrom_plain hquote hslash]
      exact ih hes
  | _ => cases h

/-- What is left of a text decides whether its outline is ASCII. -/
theorem passing_outline : Passing fun t rest ↦ IsAscii (outline rest) → IsAscii (outline t) where
  refl _ h := h
  trans hu hv h := hu (hv h)
  point hc t h := by
    rw [outline_cons hc.2]
    exact isAscii_cons.mpr ⟨hc.1, h⟩
  string {opening t s rest} hs h := by
    obtain ⟨p, hp, hrest⟩ : ∃ p, stringElements opening t = .ok p ∧ p.2 = rest := by
      simp only [stringBody] at hs
      cases he : stringElements opening t with
      | error f =>
          rw [he] at hs
          cases hs
      | ok p =>
          rw [he] at hs
          cases hs
          exact ⟨p, rfl, rfl⟩
    subst hrest
    exact isAscii_cons.mpr ⟨by decide, isAscii_outlineFrom_of_stringElements opening hp h⟩

/-! ## Texts -/

theorem isAscii_outline_of_read {v : Json} (h : read t = .ok v) : IsAscii (outline t) := by
  simp only [read, readFaulty] at h
  by_cases hbom : t.head? = some byteOrderMark
  · simp [hbom] at h
  · rw [if_neg hbom] at h
    cases hv : value maxNesting (skipSpace t) with
    | error f => cases f <;> simp [hv] at h
    | ok p =>
        simp only [hv] at h
        cases hs : skipSpace p.2 with
        | cons c u => simp [hs] at h
        | nil =>
            have hrest : IsAscii (outline p.2) :=
              passing_skipSpace passing_outline p.2 (hs ▸ by decide)
            have hvalue := passes_value passing_outline maxNesting (skipSpace t) p.1 p.2 hv
            exact passing_skipSpace passing_outline t (hvalue hrest)

end PackageRollup.Json
