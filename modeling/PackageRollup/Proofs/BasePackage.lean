import PackageRollup.BasePackage
import PackageRollup.Proofs.Name.Relation
import PackageRollup.Proofs.Text.Pieces

/-!
# Grouping and rolling up

A package has a base package if it has a dot, and the base package is a beginning of it. Rolling up
takes the quotient of the dependencies by the last group of each package, without the loops. Where
the groups are those of `group`, the last group of a package is its base package, so that the
quotient can be read off the packages alone.
-/

namespace PackageRollup.BasePackage

variable {roots : NameSet} {packages : List Text} {groups dependencies : List (Text × List Text)}

/-! ## The base package of a package -/

/-- The packages with a base package are those with a dot. -/
theorem exists_ofPackage_iff {p : Text} :
    (∃ b, ofPackage roots p = some b) ↔ CodePoint.ofChar '.' ∈ p := by
  rw [← Text.two_le_length_splitOn_iff, ofPackage]
  split
  next first second more hpieces =>
    have hbase : ∃ b, (if first ∈ roots then some (Text.join "." [first, second])
        else some (Text.join "." ((first :: second :: more).take 3))) = some b := by
      split
      · exact ⟨_, rfl⟩
      · exact ⟨_, rfl⟩
    rw [hpieces]
    exact iff_of_true hbase (by simp)
  next hpieces =>
    refine iff_of_false (by simp) ?_
    match h : Text.splitOn (CodePoint.ofChar '.') p with
    | [] => simp
    | [_] => simp
    | first :: second :: more => exact absurd h (hpieces first second more)

/-- A base package is the beginning of the package, cut at a dot. -/
theorem exists_take_of_ofPackage {p b : Text} (h : ofPackage roots p = some b) :
    ∃ k, b = Text.join "." ((Text.splitOn '.' p).take k) := by
  rw [ofPackage] at h
  split at h
  next first second more hpieces =>
    rw [hpieces]
    split at h
    · exact ⟨2, (Option.some.inj h).symm⟩
    · exact ⟨3, (Option.some.inj h).symm⟩
  next => cases h

theorem mem_of_mem_ofPackage {p b : Text} (h : ofPackage roots p = some b) {c : CodePoint}
    (hc : c ∈ b) : c ∈ p := by
  obtain ⟨k, rfl⟩ := exists_take_of_ofPackage h
  rw [← Text.join_splitOn '.' p]
  rcases Text.mem_join_iff.mp hc with ⟨piece, hpiece, hc⟩ | ⟨hc, hlen⟩
  · exact Text.mem_join_iff.mpr (Or.inl ⟨piece, List.mem_of_mem_take hpiece, hc⟩)
  · exact Text.mem_join_iff.mpr (Or.inr ⟨hc, Nat.le_trans hlen (List.length_take_le' k _)⟩)

/-! ## Groups -/

theorem mem_memberships {b p : Text} :
    (b, p) ∈ memberships roots packages ↔ p ∈ packages ∧ ofPackage roots p = some b := by
  simp only [memberships, List.mem_filterMap, Option.map_eq_some_iff, Prod.mk.injEq]
  constructor
  · rintro ⟨q, hq, c, hc, rfl, rfl⟩
    exact ⟨hq, hc⟩
  · rintro ⟨hp, hb⟩
    exact ⟨p, hp, b, hb, rfl, rfl⟩

/-- The members of a group are the given packages with its name as base package. -/
theorem mem_image_group {b p : Text} :
    p ∈ (group roots packages).image b ↔ p ∈ packages ∧ ofPackage roots p = some b := by
  rw [group, NameRelation.mem_image_ofPairs, mem_memberships]

theorem noEmptyImage_group : (group roots packages).NoEmptyImage :=
  NameRelation.noEmptyImage_ofPairs _

theorem mem_keys_group {b : Text} :
    b ∈ (group roots packages).keys ↔ ∃ p ∈ packages, ofPackage roots p = some b := by
  simp [noEmptyImage_group.mem_keys_iff, mem_image_group]

/-! ## The last group of a package -/

theorem exists_mem_of_lastGroup {p b : Text} (h : lastGroup p groups = some b) :
    ∃ members, (b, members) ∈ groups ∧ p ∈ members := by
  induction groups with
  | nil => simp [lastGroup] at h
  | cons g gs ih =>
      obtain ⟨base, members⟩ := g
      rw [lastGroup, Option.or_eq_some_iff] at h
      rcases h with hlater | ⟨_, hhere⟩
      · obtain ⟨ms, hms, hp⟩ := ih hlater
        exact ⟨ms, List.mem_cons_of_mem _ hms, hp⟩
      · split at hhere
        next hp =>
          obtain rfl := Option.some.inj hhere
          exact ⟨members, List.mem_cons_self, hp⟩
        next => simp at hhere

theorem exists_lastGroup_of_mem {p b : Text} {members : List Text} (h : (b, members) ∈ groups)
    (hp : p ∈ members) : ∃ c, lastGroup p groups = some c := by
  induction groups with
  | nil => simp at h
  | cons g gs ih =>
      rw [lastGroup]
      rcases List.mem_cons.mp h with rfl | hlater
      · cases lastGroup p gs <;> simp [hp]
      · obtain ⟨c, hc⟩ := ih hlater
        exact ⟨c, by simp [hc]⟩

/-- Where groups do not overlap at a package, the last one that it is in is the only one. -/
theorem lastGroup_eq_some_iff {p b : Text}
    (h : ∀ c d, (∃ members, (c, members) ∈ groups ∧ p ∈ members) →
      (∃ members, (d, members) ∈ groups ∧ p ∈ members) → c = d) :
    lastGroup p groups = some b ↔ ∃ members, (b, members) ∈ groups ∧ p ∈ members := by
  constructor
  · exact exists_mem_of_lastGroup
  · rintro ⟨members, hgroup, hp⟩
    obtain ⟨c, hc⟩ := exists_lastGroup_of_mem hgroup hp
    rw [hc, h c b (exists_mem_of_lastGroup hc) ⟨members, hgroup, hp⟩]

/-- In any list of the groups that `group` makes, the last group of a package is its base
package. -/
theorem lastGroup_eq_some_iff_ofPackage {p b : Text}
    (h : ∀ c q, (∃ members, (c, members) ∈ groups ∧ q ∈ members) ↔
      q ∈ (group roots packages).image c) :
    lastGroup p groups = some b ↔ p ∈ packages ∧ ofPackage roots p = some b := by
  rw [lastGroup_eq_some_iff, h, mem_image_group]
  intro c d hc hd
  rw [h, mem_image_group] at hc hd
  exact Option.some.inj (hc.2.symm.trans hd.2)

theorem lastGroup_group {p b : Text} :
    lastGroup p (group roots packages).toLists = some b ↔
      p ∈ packages ∧ ofPackage roots p = some b :=
  lastGroup_eq_some_iff_ofPackage fun _ _ ↦ NameRelation.exists_mem_toLists_iff

/-! ## Rolling up -/

theorem noEmptyImage_rollUp : (rollUp dependencies groups).NoEmptyImage :=
  NameRelation.noEmptyImage_ofPairs _

/-- A group depends on another one exactly when a package whose last group is the former depends
on a package whose last group is the latter. -/
theorem mem_image_rollUp {a b : Text} :
    b ∈ (rollUp dependencies groups).image a ↔
      a ≠ b ∧ ∃ s t, (∃ targets, (s, targets) ∈ dependencies ∧ t ∈ targets) ∧
        lastGroup s groups = some a ∧ lastGroup t groups = some b := by
  simp only [rollUp, NameRelation.mem_image_ofPairs, List.mem_filterMap, Prod.exists, mem_edges,
    liftEdge_index_eq_some_iff]
  constructor
  · rintro ⟨s, t, hedge, hs, ht, hne⟩
    exact ⟨hne, s, t, hedge, hs, ht⟩
  · rintro ⟨hne, s, t, hedge, hs, ht⟩
    exact ⟨s, t, hedge, hs, ht, hne⟩

theorem mem_image_rollUp_group {d : NameRelation} {a b : Text} :
    b ∈ (rollUp d.toLists (group roots packages).toLists).image a ↔
      a ≠ b ∧ ∃ s t, t ∈ d.image s ∧ (s ∈ packages ∧ ofPackage roots s = some a) ∧
        t ∈ packages ∧ ofPackage roots t = some b := by
  simp only [mem_image_rollUp, NameRelation.exists_mem_toLists_iff, lastGroup_group]

end PackageRollup.BasePackage
