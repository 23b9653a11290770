import PackageRollup.Report.Basic

/-!
# Sorting texts

Sorting keeps the texts and puts them in order. An ascending list is therefore what sorting makes of
any of its rearrangements.
-/

namespace PackageRollup.Text

theorem placeInOrder_perm (t : Text) (us : List Text) : (placeInOrder t us).Perm (t :: us) := by
  induction us with
  | nil => exact List.Perm.refl [t]
  | cons u us ih =>
      simp only [placeInOrder]
      split
      · exact (ih.cons u).trans (List.Perm.swap t u us)
      · exact List.Perm.refl _

theorem sort_perm (ts : List Text) : (sort ts).Perm ts := by
  induction ts with
  | nil => exact List.Perm.refl []
  | cons t ts ih => exact (placeInOrder_perm t (sort ts)).trans (ih.cons t)

/-- No text stands behind a greater one. -/
def InOrder (ts : List Text) : Prop := ts.Pairwise fun a b ↦ ¬ b < a

theorem InOrder.placeInOrder {us : List Text} (h : InOrder us) (t : Text) :
    InOrder (placeInOrder t us) := by
  induction us with
  | nil => exact List.pairwise_singleton _ t
  | cons u us ih =>
      obtain ⟨hu, hus⟩ := List.pairwise_cons.mp h
      simp only [Text.placeInOrder]
      split
      next hlt =>
        refine List.pairwise_cons.mpr ⟨?_, ih hus⟩
        intro v hv
        rcases List.mem_cons.mp ((placeInOrder_perm t us).mem_iff.mp hv) with rfl | hv
        · exact fun hvu ↦ lt_irrefl v (lt_trans hvu hlt)
        · exact hu v hv
      next hge =>
        refine List.pairwise_cons.mpr ⟨?_, h⟩
        intro v hv hvt
        rcases List.mem_cons.mp hv with rfl | hv
        · exact hge hvt
        · -- otherwise `t` would be between `v` and `u`
          by_cases hut : u = t
          · exact hu v hv (hut ▸ hvt)
          · exact hu v hv (lt_trans hvt (lt_of_not_lt_of_ne hge hut))

theorem inOrder_sort (ts : List Text) : InOrder (sort ts) := by
  induction ts with
  | nil => exact List.Pairwise.nil
  | cons t ts ih => exact ih.placeInOrder t

theorem Ascending.inOrder {ts : List Text} (h : Ascending ts) : InOrder ts :=
  h.imp fun hab hba ↦ lt_irrefl _ (lt_trans hab hba)

theorem Ascending.sort_eq_of_perm {ts us : List Text} (hus : Ascending us) (h : ts.Perm us) :
    sort ts = us := by
  apply List.Perm.eq_of_pairwise _ (inOrder_sort ts) hus.inOrder ((sort_perm ts).trans h)
  intro a b _ _ hba hab
  by_cases heq : a = b
  · exact heq
  · exact absurd (lt_of_not_lt_of_ne hba (Ne.symm heq)) hab

end PackageRollup.Text
