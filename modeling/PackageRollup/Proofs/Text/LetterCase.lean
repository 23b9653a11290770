import Mathlib.Data.List.DropRight
import PackageRollup.Text.CharacterClass
import PackageRollup.Text.LetterCase

/-!
# Lower case stays lower case

The lower-case forms in the table are their own lower-case forms, and none of them is blank. So
lower-casing a text a second time changes nothing, and lower-casing brings no white space to the
ends of a text. Nor does it make a code point that has no other case, such as a comma.
-/

namespace PackageRollup.Text

variable {r s : CaseRun} {n m : Nat} {c d : CodePoint} {t before : Text}

/-! ## The table -/

/-- No lower-case form of the first run belongs to the second: they are below it, above it, or
between its members. -/
def CaseRun.apart (r s : CaseRun) : Bool :=
  Nat.blt (r.target + (r.last - r.first)) s.first || Nat.blt s.last r.target ||
    (Nat.beq s.step 2 && (Nat.beq r.step 2 || Nat.beq r.first r.last) &&
      Nat.beq ((r.target + s.first) % 2) 1)

/-- No lower-case form of the run is in the range. -/
def CaseRun.avoids (r : CaseRun) (range : Nat × Nat) : Bool :=
  Nat.blt (r.target + (r.last - r.first)) range.1 || Nat.blt range.2 r.target

theorem CaseRun.image?_eq_some (h : r.image? n = some m) :
    r.first ≤ n ∧ n ≤ r.last ∧ (n - r.first) % r.step = 0 ∧ m = r.target + (n - r.first) := by
  rw [image?] at h
  split at h
  next hn => exact ⟨hn.1, hn.2.1, hn.2.2, (Option.some.inj h).symm⟩
  next => cases h

theorem CaseRun.image?_eq_none_of_apart (hs : r.apart s) (h : r.image? n = some m) :
    s.image? m = none := by
  obtain ⟨hfirst, hlast, hstep, rfl⟩ := image?_eq_some h
  rw [image?, if_neg]
  simp only [apart, Bool.or_eq_true, Bool.and_eq_true, Nat.blt_eq, Nat.beq_eq] at hs
  rintro ⟨hlow, hhigh, hmember⟩
  rcases hs with (hbelow | habove) | ⟨⟨hsteps, heven⟩, hodd⟩
  · omega
  · omega
  · rw [hsteps] at hmember
    have hrun : (n - r.first) % 2 = 0 := by
      rcases heven with heven | hone
      · rw [← heven, hstep]
      · have : n - r.first = 0 := by omega
        rw [this]
    omega

theorem CaseRun.not_mem_of_avoids {range : Nat × Nat} (hr : r.avoids range)
    (h : r.image? n = some m) : ¬ (range.1 ≤ m ∧ m ≤ range.2) := by
  obtain ⟨hfirst, hlast, -, rfl⟩ := image?_eq_some h
  simp only [avoids, Bool.or_eq_true, Nat.blt_eq] at hr
  omega

theorem apart_lowerRuns : (lowerRuns.all fun r ↦ lowerRuns.all r.apart) = true := by
  decide +kernel

/-- Every lower-case form is a code point that is not blank, and not one of the two letters that are
lower-cased in ways of their own. -/
theorem bounded_lowerRuns :
    (lowerRuns.all fun r ↦ Nat.blt (r.target + (r.last - r.first)) 0x110000 &&
      ((0x130, 0x130) :: (0x3A3, 0x3A3) :: blankRanges).all r.avoids) = true := by
  decide +kernel

theorem lowerVal_eq_self {rs : List CaseRun} (h : ∀ r ∈ rs, r.image? n = none) :
    lowerVal rs n = n := by
  induction rs with
  | nil => rfl
  | cons r rs ih =>
      rw [List.forall_mem_cons] at h
      simp [lowerVal, h.1, ih h.2]

/-- A number stays as it is or follows one of the runs. -/
theorem lowerVal_cases (rs : List CaseRun) (n : Nat) :
    lowerVal rs n = n ∨ ∃ r ∈ rs, r.image? n = some (lowerVal rs n) := by
  induction rs with
  | nil => exact Or.inl rfl
  | cons r rs ih =>
      rw [lowerVal]
      split
      · exact Or.inl rfl
      cases himage : r.image? n with
      | some m => exact Or.inr ⟨r, List.mem_cons_self, himage⟩
      | none =>
          rw [Option.getD_none]
          rcases ih with hsame | ⟨q, hq, himage⟩
          · exact Or.inl hsame
          · exact Or.inr ⟨q, List.mem_cons_of_mem r hq, himage⟩

theorem lowerVal_of_image (hr : r ∈ lowerRuns) (h : r.image? n = some m) :
    lowerVal lowerRuns m = m := by
  apply lowerVal_eq_self
  intro q hq
  have hapart := List.all_eq_true.mp apart_lowerRuns r hr
  exact CaseRun.image?_eq_none_of_apart (List.all_eq_true.mp hapart q hq) h

theorem bounds_of_image (hr : r ∈ lowerRuns) (h : r.image? n = some m) :
    m < 0x110000 ∧ m ≠ 0x130 ∧ m ≠ 0x3A3 ∧ inRanges blankRanges m = false := by
  have hbounded := List.all_eq_true.mp bounded_lowerRuns r hr
  rw [Bool.and_eq_true, Nat.blt_eq] at hbounded
  have hout : ∀ range ∈ (0x130, 0x130) :: (0x3A3, 0x3A3) :: blankRanges,
      ¬ (range.1 ≤ m ∧ m ≤ range.2) :=
    fun range hrange ↦ CaseRun.not_mem_of_avoids (List.all_eq_true.mp hbounded.2 range hrange) h
  rw [List.forall_mem_cons, List.forall_mem_cons] at hout
  obtain ⟨hdotted, hsigma, hblank⟩ := hout
  refine ⟨?_, fun heq ↦ hdotted ⟨heq.ge, heq.le⟩, fun heq ↦ hsigma ⟨heq.ge, heq.le⟩, ?_⟩
  · obtain ⟨hfirst, hlast, -, rfl⟩ := CaseRun.image?_eq_some h
    omega
  · rw [Bool.eq_false_iff]
    intro hm
    obtain ⟨range, hrange, hbounds⟩ := exists_of_inRanges hm
    exact hblank range hrange hbounds

/-! ## Code points -/

/-- The code point is its own lower-case form, wherever it stands. -/
structure IsLower (c : CodePoint) : Prop where
  alone : lowerAlone c = [c]
  ne_sigma : c ≠ capitalSigma

theorem lowerAlone_ne_nil (c : CodePoint) : lowerAlone c ≠ [] := by
  rw [lowerAlone]
  split <;> exact List.cons_ne_nil _ _

/-- The dotted capital I apart, a code point stays as it is or follows one of the runs. -/
theorem eq_or_image_of_mem_lowerAlone (hc : c.val ≠ 0x130) (hd : d ∈ lowerAlone c) :
    d = c ∧ lowerAlone c = [c] ∨ ∃ r ∈ lowerRuns, r.image? c.val = some d.val := by
  rw [lowerAlone, if_neg hc] at hd ⊢
  rw [List.mem_singleton] at hd
  subst hd
  rcases lowerVal_cases lowerRuns c.val with hsame | ⟨r, hr, himage⟩
  · rw [hsame, CodePoint.ofNat_val]
    exact Or.inl ⟨rfl, rfl⟩
  · rw [CodePoint.val_ofNat (bounds_of_image hr himage).1]
    exact Or.inr ⟨r, hr, himage⟩

theorem mem_lowerAlone_dotted (hc : c.val = 0x130) :
    d ∈ lowerAlone c ↔ d = CodePoint.ofChar 'i' ∨ d = CodePoint.ofNat 0x307 := by
  simp [lowerAlone, hc]

theorem isLower_of_mem_lowerAlone (hc : c ≠ capitalSigma) (hd : d ∈ lowerAlone c) : IsLower d := by
  by_cases hdotted : c.val = 0x130
  · rcases (mem_lowerAlone_dotted hdotted).mp hd with rfl | rfl
    · exact ⟨by decide +kernel, by decide⟩
    · exact ⟨by decide +kernel, by decide⟩
  rcases eq_or_image_of_mem_lowerAlone hdotted hd with ⟨rfl, halone⟩ | ⟨r, hr, himage⟩
  · exact ⟨halone, hc⟩
  · obtain ⟨-, hne, hsigma, -⟩ := bounds_of_image hr himage
    refine ⟨?_, fun heq ↦ hsigma (congrArg CodePoint.val heq)⟩
    rw [lowerAlone, if_neg hne, lowerVal_of_image hr himage, CodePoint.ofNat_val]

theorem isBlank_of_mem_lowerAlone (hc : isBlank c = false) (hd : d ∈ lowerAlone c) :
    isBlank d = false := by
  by_cases hdotted : c.val = 0x130
  · rcases (mem_lowerAlone_dotted hdotted).mp hd with rfl | rfl <;> decide
  rcases eq_or_image_of_mem_lowerAlone hdotted hd with ⟨rfl, -⟩ | ⟨r, hr, himage⟩
  · exact hc
  · exact (bounds_of_image hr himage).2.2.2

/-! ## Texts -/

/-- What a code point becomes between two texts, of which the first is written backwards. -/
def lowerBetween (before : Text) (c : CodePoint) (after : Text) : Text :=
  if c = capitalSigma then
    [if startsCased before && !startsCased after then CodePoint.ofChar 'ς'
      else CodePoint.ofChar 'σ']
  else lowerAlone c

theorem lowerAfter_cons (before : Text) (c : CodePoint) (t : Text) :
    lowerAfter before (c :: t) = lowerBetween before c t ++ lowerAfter (c :: before) t := rfl

theorem lowerBetween_ne_nil (before : Text) (c : CodePoint) (t : Text) :
    lowerBetween before c t ≠ [] := by
  rw [lowerBetween]
  split
  · exact List.cons_ne_nil _ _
  · exact lowerAlone_ne_nil c

theorem isLower_of_mem_lowerBetween (hd : d ∈ lowerBetween before c t) : IsLower d := by
  rw [lowerBetween] at hd
  split at hd
  · rw [List.mem_singleton] at hd
    split at hd
    · exact hd ▸ ⟨by decide +kernel, by decide⟩
    · exact hd ▸ ⟨by decide +kernel, by decide⟩
  next hsigma => exact isLower_of_mem_lowerAlone hsigma hd

theorem isBlank_of_mem_lowerBetween (hc : isBlank c = false) (hd : d ∈ lowerBetween before c t) :
    isBlank d = false := by
  rw [lowerBetween] at hd
  split at hd
  · rw [List.mem_singleton] at hd
    split at hd
    · exact hd ▸ by decide
    · exact hd ▸ by decide
  · exact isBlank_of_mem_lowerAlone hc hd

theorem isLower_of_mem_lowerAfter (hd : d ∈ lowerAfter before t) : IsLower d := by
  induction t generalizing before with
  | nil => cases hd
  | cons c t ih =>
      rw [lowerAfter_cons, List.mem_append] at hd
      rcases hd with hd | hd
      · exact isLower_of_mem_lowerBetween hd
      · exact ih hd

theorem lowerAfter_eq_self (h : ∀ c ∈ t, IsLower c) : lowerAfter before t = t := by
  induction t generalizing before with
  | nil => rfl
  | cons c t ih =>
      rw [List.forall_mem_cons] at h
      rw [lowerAfter_cons, lowerBetween, if_neg h.1.ne_sigma, h.1.alone, ih h.2,
        List.singleton_append]

theorem lower_lower (t : Text) : lower (lower t) = lower t :=
  lowerAfter_eq_self fun _ ↦ isLower_of_mem_lowerAfter

theorem lower_eq_nil_iff : lower t = [] ↔ t = [] := by
  cases t with
  | nil => exact iff_of_true rfl rfl
  | cons c t =>
      rw [lower, lowerAfter_cons]
      exact iff_of_false (List.append_ne_nil_of_left_ne_nil (lowerBetween_ne_nil _ c t) _)
        (List.cons_ne_nil c t)

/-! ## Code points without another case -/

/-- The code point is the lower-case form of nothing but itself. -/
structure IsCaseless (d : CodePoint) : Prop where
  avoided : (lowerRuns.all fun r ↦ r.avoids (d.val, d.val)) = true
  ne : d ∉ [CodePoint.ofChar 'i', CodePoint.ofNat 0x307, CodePoint.ofChar 'σ', CodePoint.ofChar 'ς']

theorem isCaseless_comma : IsCaseless ',' := ⟨by decide +kernel, by decide⟩

theorem IsCaseless.eq_of_mem_lowerAlone (h : IsCaseless d) (hd : d ∈ lowerAlone c) : d = c := by
  by_cases hdotted : c.val = 0x130
  · rcases (mem_lowerAlone_dotted hdotted).mp hd with rfl | rfl
    · exact absurd (by simp) h.ne
    · exact absurd (by simp) h.ne
  rcases eq_or_image_of_mem_lowerAlone hdotted hd with ⟨heq, -⟩ | ⟨r, hr, himage⟩
  · exact heq
  · have hout := CaseRun.not_mem_of_avoids (List.all_eq_true.mp h.avoided r hr) himage
    exact absurd ⟨le_refl d.val, le_refl d.val⟩ hout

theorem IsCaseless.eq_of_mem_lowerBetween (h : IsCaseless d) (hd : d ∈ lowerBetween before c t) :
    d = c := by
  rw [lowerBetween] at hd
  split at hd
  · rw [List.mem_singleton] at hd
    split at hd
    · exact absurd (by simp [hd]) h.ne
    · exact absurd (by simp [hd]) h.ne
  · exact h.eq_of_mem_lowerAlone hd

theorem IsCaseless.mem_of_mem_lowerAfter (h : IsCaseless d) (hd : d ∈ lowerAfter before t) :
    d ∈ t := by
  induction t generalizing before with
  | nil => cases hd
  | cons c t ih =>
      rw [lowerAfter_cons, List.mem_append] at hd
      rcases hd with hd | hd
      · exact List.mem_cons.mpr (Or.inl (h.eq_of_mem_lowerBetween hd))
      · exact List.mem_cons_of_mem c (ih hd)

/-! ## White space at the ends -/

theorem trim_eq_nil_iff : trim t = [] ↔ isBlankText t = true := by
  refine ⟨fun h ↦ ?_, trim_eq_nil_of_isBlankText⟩
  -- the first code point that is not blank would still be there
  have htrim : (t.dropWhile isBlank).rdropWhile isBlank = [] := h
  rw [List.rdropWhile_eq_nil_iff] at htrim
  rw [isBlankText, List.all_eq_true]
  intro c hc
  rw [← List.takeWhile_append_dropWhile (p := isBlank) (l := t), List.mem_append] at hc
  rcases hc with hc | hc
  · exact List.mem_takeWhile_imp hc
  · exact htrim c hc

theorem mem_of_mem_trim (hc : c ∈ trim t) : c ∈ t := by
  have hfront : c ∈ t.dropWhile isBlank :=
    (List.rdropWhile_prefix isBlank (t.dropWhile isBlank)).subset hc
  exact (List.dropWhile_suffix isBlank).subset hfront

/-- A text that neither begins nor ends with white space. -/
structure IsTrim (t : Text) : Prop where
  head : ∀ c ∈ t.head?, isBlank c = false
  last : ∀ c ∈ t.getLast?, isBlank c = false

theorem IsTrim.trim_eq (h : IsTrim t) : trim t = t := by
  have hhead : t.dropWhile isBlank = t := by
    rw [List.dropWhile_eq_self_iff]
    intro hlength
    simp [h.head t[0] (List.head?_eq_getElem?.trans (List.getElem?_eq_getElem hlength))]
  have hlast : t.rdropWhile isBlank = t := by
    rw [List.rdropWhile_eq_self_iff]
    intro hne
    simp [h.last (t.getLast hne) (List.getLast?_eq_some_getLast hne)]
  have htrim : trim t = (t.dropWhile isBlank).rdropWhile isBlank := rfl
  rw [htrim, hhead, hlast]

theorem isTrim_trim (t : Text) : IsTrim (trim t) where
  head := by
    intro c hc
    have hfront := List.head?_dropWhile_not isBlank t
    obtain ⟨rest, hrest⟩ := List.rdropWhile_prefix isBlank (t.dropWhile isBlank)
    have hhead : (t.dropWhile isBlank).head? = some c := by
      rw [← hrest, List.head?_append]
      exact (congrArg (Option.or · _) hc).trans rfl
    rw [hhead] at hfront
    exact hfront
  last := by
    intro c hc
    have hne : trim t ≠ [] := by
      rintro hnil
      rw [hnil] at hc
      cases hc
    have hlast := List.rdropWhile_last_not isBlank (t.dropWhile isBlank) hne
    rw [Option.mem_def, List.getLast?_eq_some_getLast hne, Option.some.injEq] at hc
    rw [← hc]
    exact Bool.eq_false_iff.mpr hlast

theorem isBlank_of_head?_lowerAfter (ht : ∀ c ∈ t.head?, isBlank c = false)
    (hd : d ∈ (lowerAfter before t).head?) : isBlank d = false := by
  cases t with
  | nil => cases hd
  | cons c t =>
      rw [lowerAfter_cons, List.head?_append_of_ne_nil _ (lowerBetween_ne_nil before c t)] at hd
      exact isBlank_of_mem_lowerBetween (ht c rfl) (List.mem_of_mem_head? hd)

theorem isBlank_of_getLast?_lowerAfter (ht : ∀ c ∈ t.getLast?, isBlank c = false)
    (hd : d ∈ (lowerAfter before t).getLast?) : isBlank d = false := by
  induction t generalizing before with
  | nil => cases hd
  | cons c t ih =>
      rw [lowerAfter_cons] at hd
      cases t with
      | nil =>
          rw [lowerAfter, List.append_nil] at hd
          exact isBlank_of_mem_lowerBetween (ht c rfl) (List.mem_of_mem_getLast? hd)
      | cons e t =>
          have hne : lowerAfter (c :: before) (e :: t) ≠ [] := by
            rw [lowerAfter_cons]
            exact List.append_ne_nil_of_left_ne_nil (lowerBetween_ne_nil _ e t) _
          rw [List.getLast?_append_of_ne_nil _ hne] at hd
          exact ih (fun x hx ↦ ht x (by rwa [List.getLast?_cons_cons])) hd

theorem IsTrim.lower (h : IsTrim t) : IsTrim (lower t) where
  head _ := isBlank_of_head?_lowerAfter h.head
  last _ := isBlank_of_getLast?_lowerAfter h.last

end PackageRollup.Text
