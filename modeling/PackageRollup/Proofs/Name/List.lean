import PackageRollup.Name.List
import PackageRollup.Proofs.Text.LetterCase

/-!
# Names in normal form

A list of names that has been normalised holds every name once. None of them is empty, and each is
in normal form already: trimming it or lower-casing it changes nothing.
-/

namespace PackageRollup.NameList

structure Clean (names : List Text) : Prop where
  nodup : names.Nodup
  nonempty : ∀ name ∈ names, name ≠ []
  trimmed : ∀ name ∈ names, Text.trim name = name
  lower : ∀ name ∈ names, Text.lower name = name

theorem trim_normal (name : Text) : Text.trim (normal name) = normal name :=
  (Text.isTrim_trim name).lower.trim_eq

theorem lower_normal (name : Text) : Text.lower (normal name) = normal name :=
  Text.lower_lower (Text.trim name)

theorem clean_normalize (names : List Text) : Clean (normalize names) where
  nodup := nodup_normalize names
  nonempty _ hname := (mem_normalize.mp hname).1
  trimmed := by
    intro name hname
    obtain ⟨-, given, -, rfl⟩ := mem_normalize.mp hname
    exact trim_normal given
  lower := by
    intro name hname
    obtain ⟨-, given, -, rfl⟩ := mem_normalize.mp hname
    exact lower_normal given

/-! ## Order -/

/-- The names that are given and not empty, each once, where it is given first. -/
structure FirstOccurrences (given names : List Text) : Prop where
  nodup : names.Nodup
  mem_iff : ∀ name, name ∈ names ↔ name ∈ given ∧ name ≠ []
  ordered : names.Pairwise fun a b ↦ given.idxOf a < given.idxOf b

theorem pairwise_idxOf_eraseDups_filter (names : List Text) (p : Text → Bool) :
    (names.filter p).eraseDups.Pairwise fun a b ↦ names.idxOf a < names.idxOf b := by
  -- what is erased behind a name becomes part of the filter
  induction names generalizing p with
  | nil => simp
  | cons name names ih =>
      have hshift : ∀ {q : Text → Bool}, q name = false →
          (names.filter q).eraseDups.Pairwise fun a b ↦
            (name :: names).idxOf a < (name :: names).idxOf b := by
        intro q hq
        apply (ih q).imp_of_mem
        intro a b ha hb hab
        have hne : ∀ c ∈ (names.filter q).eraseDups, name ≠ c := by
          rintro c hc rfl
          rw [mem_eraseDups, List.mem_filter, hq] at hc
          exact Bool.false_ne_true hc.2
        rw [List.idxOf_cons_ne _ (hne a ha), List.idxOf_cons_ne _ (hne b hb)]
        exact Nat.succ_lt_succ hab
      cases hname : p name with
      | false =>
          rw [List.filter_cons_of_neg (by simp [hname])]
          exact hshift hname
      | true =>
          rw [List.filter_cons_of_pos hname, List.eraseDups_cons, List.filter_filter]
          refine List.pairwise_cons.mpr ⟨?_, hshift (by simp)⟩
          intro b hb
          have hne : name ≠ b := by
            rintro rfl
            simp at hb
          rw [List.idxOf_cons_self, List.idxOf_cons_ne _ hne]
          exact Nat.succ_pos _

theorem firstOccurrences_normalize (names : List Text) :
    FirstOccurrences (names.map normal) (normalize names) where
  nodup := nodup_normalize names
  mem_iff := by
    intro name
    rw [mem_normalize, List.mem_map, and_comm]
  ordered := pairwise_idxOf_eraseDups_filter (names.map normal) fun name ↦ decide (name ≠ [])

end PackageRollup.NameList
