import PackageRollup.Proofs.Text.LetterCase

/-!
# Lower case within a longer text

A part of a text has the same lower-case form in its place as on its own, unless it is exposed at a
capital sigma: the sigma is a final one only where the part ends, or could become a final one behind
a letter. Then there is a text around the part whose lower-case form does not have that of the part
in it at all.
-/

namespace PackageRollup.Text

variable {t x y before before' after after' : Text}

/-! ## Words across two texts -/

theorem startsCased_append (x y : Text) :
    startsCased (x ++ y) = if x.all isCaseIgnorable then startsCased y else startsCased x := by
  induction x with
  | nil => rfl
  | cons c x ih =>
      rw [List.cons_append, startsCased, startsCased, List.all_cons, ih]
      cases isCaseIgnorable c <;> rfl

theorem startsCased_eq_false (h : x.all isCaseIgnorable) : startsCased x = false := by
  have hx := startsCased_append x []
  rw [List.append_nil, if_pos h] at hx
  exact hx

theorem isCaseIgnorable_capitalSigma : isCaseIgnorable capitalSigma = false := by decide +kernel

theorem capitalSigma_not_mem (h : x.all isCaseIgnorable) : capitalSigma ∉ x := by
  intro hmem
  have hsigma := List.all_eq_true.mp h capitalSigma hmem
  rw [isCaseIgnorable_capitalSigma] at hsigma
  cases hsigma

/-- What stands behind a capital sigma does not matter to what stands before it. -/
theorem startsCased_append_capitalSigma (x y after : Text) :
    startsCased (x ++ capitalSigma :: y ++ after) = startsCased (x ++ capitalSigma :: y) := by
  rw [startsCased_append, if_neg]
  intro h
  exact capitalSigma_not_mem h (List.mem_append_right x List.mem_cons_self)

/-- Whether a capital sigma between two texts, of which the first is written backwards, ends a cased
word. -/
def endsWord (before after : Text) : Bool := startsCased before && !startsCased after

/-- Whether more text around a capital sigma between two texts can change that. -/
def isExposed (before after : Text) : Bool :=
  startsCased before && after.all isCaseIgnorable ||
    before.all isCaseIgnorable && !startsCased after

theorem endsWord_append (h : isExposed before after = false) (x y : Text) :
    endsWord (before ++ x) (after ++ y) = endsWord before after := by
  rw [endsWord, endsWord, startsCased_append, startsCased_append]
  rw [isExposed] at h
  by_cases hbefore : before.all isCaseIgnorable
  · rw [startsCased_eq_false hbefore, hbefore] at h
    have hafter : startsCased after = true := by simpa using h
    by_cases hall : after.all isCaseIgnorable
    · rw [startsCased_eq_false hall] at hafter
      cases hafter
    · simp [hall, hafter]
  · by_cases hall : after.all isCaseIgnorable
    · have hcased : startsCased before = false := by simpa [hbefore, hall] using h
      simp [hbefore, hcased]
    · simp [hbefore, hall]

/-! ## The lower-case form of a part -/

/-- The lower-case form of a text between two others, of which the first is written backwards. -/
def lowerWithin (before after : Text) : Text → Text
  | [] => []
  | c :: t => lowerBetween before c (t ++ after) ++ lowerWithin (c :: before) after t

theorem lowerAfter_append (before t after : Text) :
    lowerAfter before (t ++ after) =
      lowerWithin before after t ++ lowerAfter (t.reverse ++ before) after := by
  induction t generalizing before with
  | nil => rfl
  | cons c t ih =>
      rw [List.cons_append, lowerAfter_cons, ih, lowerWithin, List.append_assoc,
        List.reverse_cons, List.append_assoc, List.singleton_append]

theorem lowerWithin_nil (before t : Text) : lowerWithin before [] t = lowerAfter before t := by
  have happend := lowerAfter_append before t []
  rwa [List.append_nil, lowerAfter, List.append_nil, eq_comm] at happend

theorem lower_append_append (x t y : Text) :
    lower (x ++ t ++ y) = lowerWithin [] (t ++ y) x ++ lowerWithin x.reverse y t ++
      lowerAfter (t.reverse ++ x.reverse) y := by
  rw [lower, List.append_assoc, lowerAfter_append, lowerAfter_append, List.append_nil,
    List.append_assoc]

theorem lowerWithin_append (before after x y : Text) :
    lowerWithin before after (x ++ y) =
      lowerWithin before (y ++ after) x ++ lowerWithin (x.reverse ++ before) after y := by
  induction x generalizing before with
  | nil => rfl
  | cons c x ih =>
      rw [List.cons_append, lowerWithin, ih, lowerWithin, List.append_assoc, List.append_assoc,
        List.reverse_cons, List.append_assoc, List.singleton_append]

/-- Only the capital sigmas look around. -/
theorem lowerWithin_congr
    (h : ∀ x y, t = x ++ capitalSigma :: y →
      endsWord (x.reverse ++ before) (y ++ after) = endsWord (x.reverse ++ before') (y ++ after')) :
    lowerWithin before after t = lowerWithin before' after' t := by
  induction t generalizing before before' with
  | nil => rfl
  | cons c t ih =>
      have hhere : lowerBetween before c (t ++ after) = lowerBetween before' c (t ++ after') := by
        rw [lowerBetween, lowerBetween]
        by_cases hc : c = capitalSigma
        · have hends := h [] t (by rw [hc, List.nil_append])
          simp only [endsWord, List.reverse_nil, List.nil_append] at hends
          rw [hends]
        · rw [if_neg hc, if_neg hc]
      have hthere : lowerWithin (c :: before) after t = lowerWithin (c :: before') after' t := by
        apply ih
        intro x y ht
        have hends := h (c :: x) y (by rw [ht, List.cons_append])
        rwa [List.reverse_cons, List.append_assoc, List.append_assoc] at hends
      rw [lowerWithin, lowerWithin, hhere, hthere]

theorem lowerWithin_of_not_mem (h : capitalSigma ∉ t) :
    lowerWithin before after t = lowerWithin before' after' t := by
  apply lowerWithin_congr
  rintro x y rfl
  exact absurd (List.mem_append_right x List.mem_cons_self) h

/-! ## Texts that are exposed at a capital sigma -/

/-- The text has a capital sigma, and more text around can change whether it ends a cased word. -/
def ExposesSigma (t : Text) : Prop :=
  ∃ x y, t = x ++ capitalSigma :: y ∧ isExposed x.reverse y = true

theorem exposesSigma_iff_exists_index :
    ExposesSigma t ↔ ∃ i, i < t.length ∧ t[i]? = some capitalSigma ∧
      isExposed (t.take i).reverse (t.drop (i + 1)) = true := by
  constructor
  · rintro ⟨x, y, rfl, hexposed⟩
    exact ⟨x.length, by simp, by simp, by simpa using hexposed⟩
  · rintro ⟨i, hi, hsigma, hexposed⟩
    refine ⟨t.take i, t.drop (i + 1), ?_, hexposed⟩
    have hget : t[i] = capitalSigma := (List.getElem?_eq_some_iff.mp hsigma).2
    rw [← hget, ← List.drop_eq_getElem_cons hi, List.take_append_drop]

instance : Decidable (ExposesSigma t) := decidable_of_iff _ exposesSigma_iff_exists_index.symm

theorem lowerWithin_eq_lower (h : ¬ ExposesSigma t) (before after : Text) :
    lowerWithin before after t = lower t := by
  rw [lower, ← lowerWithin_nil]
  apply lowerWithin_congr
  intro x y ht
  rw [List.append_nil, List.append_nil]
  exact endsWord_append (Bool.eq_false_iff.mpr fun hexposed ↦ h ⟨x, y, ht, hexposed⟩) before after

/-! ## Surroundings that change the sigma -/

/-- A text is not part of another one in which a code point of it has been replaced. -/
theorem not_infix_of_replaced {front back : Text} {c d : CodePoint} (pre post : Text)
    (hcd : d ≠ c) (hpre : c ∉ pre) (hpost : c ∉ post) :
    ¬ front ++ c :: back <:+: pre ++ (front ++ d :: back) ++ post := by
  intro h
  have hcount := h.sublist.count_le c
  simp only [List.count_append, List.count_cons_self, List.count_cons_of_ne hcd,
    List.count_eq_zero_of_not_mem hpre, List.count_eq_zero_of_not_mem hpost] at hcount
  omega

/-- The lower-case form of a capital sigma that ends a cased word, or does not. -/
def sigmaForm (final : Bool) : CodePoint := if final then 'ς' else 'σ'

theorem lowerBetween_capitalSigma (before after : Text) :
    lowerBetween before capitalSigma after = [sigmaForm (endsWord before after)] :=
  if_pos rfl

/-- A capital sigma parts what stands before it from what stands behind it. -/
theorem lowerWithin_capitalSigma (before after x y : Text) :
    lowerWithin before after (x ++ capitalSigma :: y) =
      lowerWithin before (capitalSigma :: y) x ++
        sigmaForm (endsWord (x.reverse ++ before) (y ++ after)) ::
          lowerWithin [capitalSigma] after y := by
  have hfront : lowerWithin before (capitalSigma :: y ++ after) x =
      lowerWithin before (capitalSigma :: y) x := by
    apply lowerWithin_congr
    intro z w _
    rw [endsWord, endsWord, ← List.append_assoc, startsCased_append_capitalSigma]
  have hback : lowerWithin (capitalSigma :: (x.reverse ++ before)) after y =
      lowerWithin [capitalSigma] after y := by
    apply lowerWithin_congr
    intro z w _
    have hword := startsCased_append_capitalSigma z.reverse [] (x.reverse ++ before)
    rw [List.append_assoc, List.singleton_append] at hword
    rw [endsWord, endsWord, hword]
  rw [lowerWithin_append, hfront, lowerWithin, lowerBetween_capitalSigma, hback,
    List.singleton_append]

/-- A letter that is in lower case. -/
def letter : Text := "a"

theorem startsCased_letter : startsCased letter = true := by decide +kernel

theorem sigmaForm_not_mem_letter (final : Bool) : sigmaForm final ∉ letter := by
  cases final <;> decide

theorem lowerWithin_letter (before after : Text) : lowerWithin before after letter = letter := by
  have hsigma : capitalSigma ∉ letter := by decide
  have halone : lowerWithin [] [] letter = letter := by decide +kernel
  exact (lowerWithin_of_not_mem hsigma).trans halone

theorem lowerAfter_letter (before : Text) : lowerAfter before letter = letter := by
  rw [← lowerWithin_nil, lowerWithin_letter]

/-- An exposed text can be put between others so that its lower-case form is gone. -/
theorem exists_not_infix (h : ExposesSigma t) :
    ∃ before after, ¬ lower t <:+: lower (before ++ t ++ after) := by
  obtain ⟨x, y, rfl, hexposed⟩ := h
  have halone : lower (x ++ capitalSigma :: y) = lowerWithin [] (capitalSigma :: y) x ++
      sigmaForm (endsWord x.reverse y) :: lowerWithin [capitalSigma] [] y := by
    rw [lower, ← lowerWithin_nil, lowerWithin_capitalSigma, List.append_nil, List.append_nil]
  rw [isExposed, Bool.or_eq_true, Bool.and_eq_true, Bool.and_eq_true, Bool.not_eq_true',
    List.all_reverse] at hexposed
  rcases hexposed with ⟨hbefore, hafter⟩ | ⟨hbefore, hafter⟩
  · -- the sigma ends a word until a letter follows
    have hends : endsWord x.reverse y = true := by
      rw [endsWord, hbefore, startsCased_eq_false hafter]
      rfl
    have hends' : endsWord x.reverse (y ++ letter) = false := by
      rw [endsWord, startsCased_append, if_pos hafter, startsCased_letter, hbefore]
      rfl
    have hback : lowerWithin [capitalSigma] letter y = lowerWithin [capitalSigma] [] y :=
      lowerWithin_of_not_mem (capitalSigma_not_mem hafter)
    refine ⟨[], letter, ?_⟩
    rw [halone, hends, lower_append_append, lowerWithin_capitalSigma, List.reverse_nil,
      List.append_nil x.reverse, hends', hback, lowerAfter_letter]
    exact not_infix_of_replaced [] letter (by decide) List.not_mem_nil
      (sigmaForm_not_mem_letter true)
  · -- the sigma begins a word until a letter comes before it
    have hends : endsWord x.reverse y = false := by
      rw [endsWord, startsCased_eq_false (List.all_reverse.trans hbefore)]
      rfl
    have hends' : endsWord (x.reverse ++ letter) y = true := by
      rw [endsWord, startsCased_append, if_pos (List.all_reverse.trans hbefore),
        startsCased_letter, hafter]
      rfl
    have hfront : lowerWithin letter (capitalSigma :: y) x =
        lowerWithin [] (capitalSigma :: y) x :=
      lowerWithin_of_not_mem (capitalSigma_not_mem hbefore)
    have hreverse : letter.reverse = letter := rfl
    refine ⟨letter, [], ?_⟩
    rw [halone, hends, lower_append_append, lowerWithin_capitalSigma, hreverse,
      List.append_nil y, hends', hfront, lowerWithin_letter]
    exact not_infix_of_replaced letter [] (by decide) (sigmaForm_not_mem_letter false)
      List.not_mem_nil

/-- Between any texts, a text keeps its lower-case form unless it is exposed at a capital sigma. -/
theorem forall_lower_infix_iff :
    (∀ before after, lower t <:+: lower (before ++ t ++ after)) ↔ ¬ ExposesSigma t := by
  constructor
  · intro h hexposed
    obtain ⟨before, after, hnot⟩ := exists_not_infix hexposed
    exact hnot (h before after)
  · intro h before after
    rw [lower_append_append, lowerWithin_eq_lower h]
    exact List.infix_append ..

end PackageRollup.Text
