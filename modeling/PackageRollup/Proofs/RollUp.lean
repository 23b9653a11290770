import Mathlib.Data.List.Forall2
import Mathlib.Data.List.Pairwise
import PackageRollup.Proofs.BasePackage

/-!
# Rolling up along any groups

Dependencies can be rolled up along groups that overlap, are empty or leave packages out. What
counts is the last group of each package: between these groups the result has the dependencies that
the packages have, and no others. Hence it does not matter in which order dependencies and members
are given, nor the order of groups that do not overlap.
-/

namespace PackageRollup.BasePackage

variable {groups groups' dependencies dependencies' : List (Text × List Text)} {p a b : Text}

/-! ## The last group -/

/-- The group has the package, and no later one has it. -/
def IsLastGroup (groups : List (Text × List Text)) (p b : Text) : Prop :=
  ∃ earlier members later, groups = earlier ++ (b, members) :: later ∧ p ∈ members ∧
    ∀ g ∈ later, p ∉ g.2

theorem isLastGroup_cons_iff {g : Text × List Text} :
    IsLastGroup (g :: groups) p b ↔
      IsLastGroup groups p b ∨ g.1 = b ∧ p ∈ g.2 ∧ ∀ h ∈ groups, p ∉ h.2 := by
  constructor
  · rintro ⟨earlier, members, later, hgroups, hp, hlater⟩
    cases earlier with
    | nil =>
        cases hgroups
        exact Or.inr ⟨rfl, hp, hlater⟩
    | cons first earlier =>
        cases hgroups
        exact Or.inl ⟨earlier, members, later, rfl, hp, hlater⟩
  · rintro (⟨earlier, members, later, rfl, hp, hlater⟩ | ⟨rfl, hp, hlater⟩)
    · exact ⟨g :: earlier, members, later, rfl, hp, hlater⟩
    · exact ⟨[], g.2, groups, rfl, hp, hlater⟩

theorem lastGroup_eq_none_iff : lastGroup p groups = none ↔ ∀ g ∈ groups, p ∉ g.2 := by
  induction groups with
  | nil => simp [lastGroup]
  | cons g gs ih =>
      rw [lastGroup, Option.or_eq_none_iff, ih, List.forall_mem_cons, and_comm]
      simp

theorem lastGroup_eq_some_iff_isLastGroup :
    lastGroup p groups = some b ↔ IsLastGroup groups p b := by
  induction groups with
  | nil => simp [lastGroup, IsLastGroup]
  | cons g gs ih =>
      rw [lastGroup, Option.or_eq_some_iff, ih, lastGroup_eq_none_iff, isLastGroup_cons_iff]
      have hhere : (if p ∈ g.2 then some g.1 else none) = some b ↔ g.1 = b ∧ p ∈ g.2 := by
        split <;> simp [*]
      rw [hhere]
      tauto

/-! ## Rearranging -/

/-- The same names in the same order, and each with the same members. -/
def SameMembers : List (Text × List Text) → List (Text × List Text) → Prop :=
  List.Forall₂ fun e f ↦ e.1 = f.1 ∧ ∀ p, p ∈ e.2 ↔ p ∈ f.2

/-- The same names in some order, and each with the same members. -/
def Rearranged (es fs : List (Text × List Text)) : Prop := ∃ gs, es.Perm gs ∧ SameMembers gs fs

/-- No package is in two groups. -/
def NoOverlap (groups : List (Text × List Text)) : Prop :=
  groups.Pairwise fun g h ↦ ∀ p ∈ g.2, p ∉ h.2

theorem SameMembers.exists_mem_iff {es fs : List (Text × List Text)} (h : SameMembers es fs) :
    (∃ names, (a, names) ∈ es ∧ b ∈ names) ↔ ∃ names, (a, names) ∈ fs ∧ b ∈ names := by
  induction h with
  | nil => simp
  | @cons e f es fs hef _ ih =>
      obtain ⟨c, ms⟩ := e
      obtain ⟨d, ns⟩ := f
      obtain ⟨rfl, hmembers⟩ := hef
      simp only [List.mem_cons, Prod.mk.injEq, or_and_right, exists_or, ih]
      simp only [and_assoc, exists_and_left, exists_eq_left, hmembers b]

theorem Rearranged.exists_mem_iff {es fs : List (Text × List Text)} (h : Rearranged es fs) :
    (∃ names, (a, names) ∈ es ∧ b ∈ names) ↔ ∃ names, (a, names) ∈ fs ∧ b ∈ names := by
  obtain ⟨gs, hperm, hsame⟩ := h
  simp only [hperm.mem_iff, hsame.exists_mem_iff]

theorem SameMembers.lastGroup_eq (h : SameMembers groups groups') :
    lastGroup p groups = lastGroup p groups' := by
  induction h with
  | nil => rfl
  | cons hef _ ih => simp only [lastGroup, ih, hef.1, hef.2]

theorem NoOverlap.eq_of_mem (h : NoOverlap groups)
    (ha : ∃ members, (a, members) ∈ groups ∧ p ∈ members)
    (hb : ∃ members, (b, members) ∈ groups ∧ p ∈ members) : a = b := by
  obtain ⟨ms, hms, hpms⟩ := ha
  obtain ⟨ns, hns, hpns⟩ := hb
  by_contra hne
  have hsymm : Std.Symm fun g h : Text × List Text ↦ ∀ p ∈ g.2, p ∉ h.2 :=
    ⟨fun _ _ hgh p hh hg ↦ hgh p hg hh⟩
  exact List.Pairwise.forall h hms hns (fun heq ↦ hne (congrArg Prod.fst heq)) p hpms hpns

/-- Groups that do not overlap can change places. -/
theorem NoOverlap.lastGroup_eq (h : NoOverlap groups) (hgroups : Rearranged groups groups') :
    lastGroup p groups = lastGroup p groups' := by
  apply Option.ext
  intro b
  rw [lastGroup_eq_some_iff fun c d ↦ h.eq_of_mem, lastGroup_eq_some_iff,
    hgroups.exists_mem_iff]
  intro c d
  rw [← hgroups.exists_mem_iff, ← hgroups.exists_mem_iff]
  exact h.eq_of_mem

/-- The result depends on no more than the single dependencies and the last groups. -/
theorem rollUp_congr
    (hedges : ∀ s t, (∃ targets, (s, targets) ∈ dependencies ∧ t ∈ targets) ↔
      ∃ targets, (s, targets) ∈ dependencies' ∧ t ∈ targets)
    (hgroups : ∀ p, lastGroup p groups = lastGroup p groups') :
    rollUp dependencies groups = rollUp dependencies' groups' := by
  apply noEmptyImage_rollUp.eq_of_mem_image_iff noEmptyImage_rollUp
  intro a b
  simp only [mem_image_rollUp, hedges, hgroups]

/-- Rolling up takes the quotient by the last group, whatever the dependencies and the groups. -/
theorem rollUp_quotient (dependencies groups : List (Text × List Text)) :
    (∀ a b, b ∈ (rollUp dependencies groups).image a ↔
      ∃ s t, (∃ targets, (s, targets) ∈ dependencies ∧ t ∈ targets) ∧
        IsLastGroup groups s a ∧ IsLastGroup groups t b ∧ a ≠ b) ∧
      (rollUp dependencies groups).NoEmptyImage ∧
      ∀ dependencies' groups', Rearranged dependencies dependencies' →
        SameMembers groups groups' ∨ NoOverlap groups ∧ Rearranged groups groups' →
        rollUp dependencies' groups' = rollUp dependencies groups := by
  refine ⟨fun a b ↦ ?_, noEmptyImage_rollUp, fun dependencies' groups' hedges hgroups ↦ ?_⟩
  · simp only [mem_image_rollUp, lastGroup_eq_some_iff_isLastGroup]
    constructor
    · rintro ⟨hne, s, t, hedge, hs, ht⟩
      exact ⟨s, t, hedge, hs, ht, hne⟩
    · rintro ⟨s, t, hedge, hs, ht, hne⟩
      exact ⟨hne, s, t, hedge, hs, ht⟩
  · have hlast : ∀ p, lastGroup p groups = lastGroup p groups' := by
      intro p
      rcases hgroups with hsame | ⟨hapart, hrearranged⟩
      · exact hsame.lastGroup_eq
      · exact hapart.lastGroup_eq hrearranged
    exact (rollUp_congr (fun _ _ ↦ hedges.exists_mem_iff) hlast).symm

/-- Where groups overlap, their order counts. -/
example : (rollUp [("s", ["t"])] [("a", ["s"]), ("b", ["s", "t"])]).keys = [] ∧
    (rollUp [("s", ["t"])] [("b", ["s", "t"]), ("a", ["s"])]).keys = ["a"] := by
  decide

end PackageRollup.BasePackage
