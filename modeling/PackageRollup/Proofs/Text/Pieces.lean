import Mathlib.Data.List.Basic
import PackageRollup.Text.Basic

/-!
# The pieces of a text

A joined text has the code points of its pieces, and those of the separator if there are at least
two pieces. A text that is cut has at least two pieces just when the separator occurs in it, and no
piece holds the separator; such pieces are found again when they are joined and cut.
-/

namespace PackageRollup.Text

variable {c sep : CodePoint} {t : Text}

theorem mem_join_iff {sep : Text} {pieces : List Text} :
    c ∈ join sep pieces ↔ (∃ piece ∈ pieces, c ∈ piece) ∨ c ∈ sep ∧ 2 ≤ pieces.length := by
  induction pieces with
  | nil => simp [join]
  | cons piece pieces ih =>
      cases pieces with
      | nil => simp [join]
      | cons next pieces =>
          have htwo : 2 ≤ (piece :: next :: pieces).length := by simp
          rw [join, List.mem_append, List.mem_append, ih,
            List.exists_mem_cons_iff _ piece (next :: pieces)]
          constructor
          · rintro (hc | hc | hc | ⟨hc, -⟩)
            · exact Or.inl (Or.inl hc)
            · exact Or.inr ⟨hc, htwo⟩
            · exact Or.inl (Or.inr hc)
            · exact Or.inr ⟨hc, htwo⟩
          · rintro ((hc | hc) | ⟨hc, -⟩)
            · exact Or.inl hc
            · exact Or.inr (Or.inr (Or.inl hc))
            · exact Or.inr (Or.inl hc)

theorem exists_mem_flatMap_iff {α : Type} {xs : List α} {f : α → List Text} :
    (∃ t ∈ xs.flatMap f, c ∈ t) ↔ ∃ x ∈ xs, ∃ t ∈ f x, c ∈ t := by
  constructor
  · rintro ⟨t, ht, hc⟩
    obtain ⟨x, hx, ht⟩ := List.mem_flatMap.mp ht
    exact ⟨x, hx, t, ht, hc⟩
  · rintro ⟨x, hx, t, ht, hc⟩
    exact ⟨t, List.mem_flatMap.mpr ⟨x, hx, ht⟩, hc⟩

theorem two_le_length_splitOn_iff : 2 ≤ (splitOn sep t).length ↔ sep ∈ t := by
  induction t with
  | nil => simp [splitOn]
  | cons c t ih =>
      obtain ⟨piece, pieces, hpieces⟩ := List.exists_cons_of_ne_nil (splitOn_ne_nil sep t)
      rw [hpieces, List.length_cons] at ih
      by_cases hc : c = sep
      · simp [splitOn, hc, hpieces]
      · simp only [splitOn, if_neg hc, hpieces, List.length_cons, List.mem_cons, Ne.symm hc,
          false_or]
        exact ih

theorem splitOn_append_cons (sep : CodePoint) (t u : Text) :
    splitOn sep (t ++ sep :: u) = splitOn sep t ++ splitOn sep u := by
  induction t with
  | nil => simp [splitOn]
  | cons c t ih =>
      rw [List.cons_append, splitOn, splitOn]
      split
      · rw [ih, List.cons_append]
      · rw [ih]
        cases hs : splitOn sep t with
        | nil => exact absurd hs (splitOn_ne_nil sep t)
        | cons piece pieces => rfl

theorem splitOn_eq_singleton {sep : CodePoint} (h : sep ∉ t) : splitOn sep t = [t] := by
  induction t with
  | nil => rfl
  | cons c t ih =>
      rw [List.mem_cons, not_or] at h
      rw [splitOn, if_neg (Ne.symm h.1), ih h.2]

theorem not_mem_of_mem_splitOn {piece : Text} (h : piece ∈ splitOn sep t) : sep ∉ piece := by
  induction t generalizing piece with
  | nil =>
      obtain rfl := List.mem_singleton.mp h
      exact List.not_mem_nil
  | cons c t ih =>
      obtain ⟨next, pieces, hpieces⟩ := List.exists_cons_of_ne_nil (splitOn_ne_nil sep t)
      rw [hpieces] at ih
      by_cases hc : c = sep
      · rw [splitOn, if_pos hc, hpieces] at h
        rcases List.mem_cons.mp h with rfl | h
        · exact List.not_mem_nil
        · exact ih h
      · simp only [splitOn, if_neg hc, hpieces] at h
        rcases List.mem_cons.mp h with rfl | h
        · rw [List.mem_cons, not_or]
          exact ⟨Ne.symm hc, ih List.mem_cons_self⟩
        · exact ih (List.mem_cons_of_mem next h)

theorem splitOn_join {pieces : List Text} (hne : pieces ≠ []) (h : ∀ piece ∈ pieces, sep ∉ piece) :
    splitOn sep (join [sep] pieces) = pieces := by
  induction pieces with
  | nil => exact absurd rfl hne
  | cons piece pieces ih =>
      obtain ⟨hpiece, hpieces⟩ := List.forall_mem_cons.mp h
      cases pieces with
      | nil => exact splitOn_eq_singleton hpiece
      | cons next pieces =>
          rw [join, List.singleton_append, splitOn_append_cons, splitOn_eq_singleton hpiece,
            ih (List.cons_ne_nil next pieces) hpieces, List.singleton_append]

/-! ## Occurrences -/

theorem occursIn_iff {needle : Text} : occursIn needle t = true ↔ needle <:+: t := by
  induction t with
  | nil => simp [occursIn]
  | cons c t ih =>
      rw [occursIn, Bool.or_eq_true, ih, List.isPrefixOf_iff_prefix, List.infix_cons_iff]

end PackageRollup.Text
