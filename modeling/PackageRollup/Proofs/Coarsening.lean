import PackageRollup.Proofs.BasePackage
import PackageRollup.Proofs.Report.Traversal

/-!
# More roots, coarser groups

With more roots, base packages are shorter. The base package under more roots can be found from the
base package under fewer, so every coarse group is made of fine ones, and nothing is lost when
dependencies are rolled up to the fine groups first: a dependency that disappears within a fine
group would have disappeared within a coarse one.
-/

namespace PackageRollup.BasePackage

variable {roots more : NameSet} {packages : List Text} {dependencies : List (Text × List Text)}

/-! ## The base package of a base package -/

/-- The number of segments that a base package has at most, given the first segment. -/
def depth (roots : NameSet) (first : Text) : Nat := if first ∈ roots then 2 else 3

theorem two_le_depth (roots : NameSet) (first : Text) : 2 ≤ depth roots first := by
  rw [depth]
  split <;> omega

theorem depth_le_of_subset (h : ∀ r ∈ roots, r ∈ more) (first : Text) :
    depth more first ≤ depth roots first := by
  by_cases hfirst : first ∈ roots
  · have hmore : first ∈ more := h first hfirst
    simp [depth, hfirst, hmore]
  · rw [depth, depth, if_neg hfirst]
    split <;> omega

theorem ofPackage_of_splitOn {p first second : Text} {rest : List Text}
    (h : Text.splitOn '.' p = first :: second :: rest) :
    ofPackage roots p =
      some (Text.join "." ((first :: second :: rest).take (depth roots first))) := by
  simp only [ofPackage, h, depth]
  split <;> rfl

theorem exists_splitOn_of_ofPackage {p b : Text} (h : ofPackage roots p = some b) :
    ∃ first second rest, Text.splitOn '.' p = first :: second :: rest := by
  rw [ofPackage] at h
  split at h
  next first second rest hpieces => exact ⟨first, second, rest, hpieces⟩
  next => cases h

/-- The segments of a base package are segments of the package. -/
theorem splitOn_join_take {p first second : Text} {rest : List Text}
    (h : Text.splitOn '.' p = first :: second :: rest) (n : Nat) :
    Text.splitOn '.' (Text.join "." ((first :: second :: rest).take (n + 2))) =
      first :: second :: rest.take n := by
  have hdots : ∀ piece ∈ (first :: second :: rest).take (n + 2), CodePoint.ofChar '.' ∉ piece := by
    intro piece hpiece
    apply Text.not_mem_of_mem_splitOn (t := p)
    rw [h]
    exact List.mem_of_mem_take hpiece
  exact Text.splitOn_join (List.cons_ne_nil _ _) hdots

theorem ofPackage_ofPackage (h : ∀ r ∈ roots, r ∈ more) {p b : Text}
    (hb : ofPackage roots p = some b) : ofPackage more b = ofPackage more p := by
  obtain ⟨first, second, rest, hpieces⟩ := exists_splitOn_of_ofPackage hb
  obtain ⟨n, hn⟩ := Nat.exists_eq_add_of_le' (two_le_depth roots first)
  obtain ⟨m, hm⟩ := Nat.exists_eq_add_of_le' (two_le_depth more first)
  have hle : m ≤ n := by
    have hdepth := depth_le_of_subset h first
    omega
  rw [ofPackage_of_splitOn hpieces, hn] at hb
  obtain rfl := Option.some.inj hb
  rw [ofPackage_of_splitOn (splitOn_join_take hpieces n), ofPackage_of_splitOn hpieces, hm,
    List.take_succ_cons, List.take_succ_cons, List.take_take, Nat.min_eq_left hle,
    List.take_succ_cons, List.take_succ_cons]

/-! ## Groups of groups -/

theorem mem_image_group_iff_exists (h : ∀ r ∈ roots, r ∈ more) {c p : Text} :
    p ∈ (group more packages).image c ↔
      ∃ b ∈ (group roots packages).keys, ofPackage more b = some c ∧
        p ∈ (group roots packages).image b := by
  rw [mem_image_group]
  constructor
  · rintro ⟨hp, hc⟩
    have hdot : CodePoint.ofChar '.' ∈ p := exists_ofPackage_iff.mp ⟨c, hc⟩
    obtain ⟨b, hb⟩ := exists_ofPackage_iff.mpr hdot
    refine ⟨b, mem_keys_group.mpr ⟨p, hp, hb⟩, ?_, mem_image_group.mpr ⟨hp, hb⟩⟩
    rw [ofPackage_ofPackage h hb, hc]
  · rintro ⟨b, -, hc, hp⟩
    obtain ⟨hp, hb⟩ := mem_image_group.mp hp
    rw [← ofPackage_ofPackage h hb]
    exact ⟨hp, hc⟩

theorem ofPackage_eq_self_of_mem_keys {b : Text} (h : b ∈ (group roots packages).keys) :
    ofPackage roots b = some b := by
  obtain ⟨p, -, hb⟩ := mem_keys_group.mp h
  rw [ofPackage_ofPackage (fun _ ↦ id) hb, hb]

/-- Grouped again, every base package is in a group of its own. -/
theorem mem_image_group_keys {b q : Text} :
    q ∈ (group roots (group roots packages).keys).image b ↔
      q = b ∧ b ∈ (group roots packages).keys := by
  rw [mem_image_group]
  constructor
  · rintro ⟨hq, hb⟩
    rw [ofPackage_eq_self_of_mem_keys hq] at hb
    obtain rfl := Option.some.inj hb
    exact ⟨rfl, hq⟩
  · rintro ⟨rfl, hq⟩
    exact ⟨hq, ofPackage_eq_self_of_mem_keys hq⟩

/-! ## Rolling up what has been rolled up -/

theorem lastGroup_listing (l : (group roots packages).Listing) {p b : Text} :
    lastGroup p l.entries = some b ↔ p ∈ packages ∧ ofPackage roots p = some b :=
  lastGroup_eq_some_iff_ofPackage fun _ _ ↦ l.exists_mem_entries_iff

theorem mem_image_rollUp_listing (l : (group roots packages).Listing) {a b : Text} :
    b ∈ (rollUp dependencies l.entries).image a ↔
      a ≠ b ∧ ∃ s t, (∃ targets, (s, targets) ∈ dependencies ∧ t ∈ targets) ∧
        (s ∈ packages ∧ ofPackage roots s = some a) ∧
          t ∈ packages ∧ ofPackage roots t = some b := by
  simp only [mem_image_rollUp, lastGroup_listing]

/-- The groups and what was rolled up to them may be gone through in any order. -/
theorem rollUp_rollUp (h : ∀ r ∈ roots, r ∈ more) (fine : (group roots packages).Listing)
    (rolled : (rollUp dependencies fine.entries).Listing)
    (coarse : (group more (fine.entries.map Prod.fst)).Listing)
    (direct : (group more packages).Listing) :
    rollUp rolled.entries coarse.entries = rollUp dependencies direct.entries := by
  apply noEmptyImage_rollUp.eq_of_mem_image_iff noEmptyImage_rollUp
  intro a b
  simp only [mem_image_rollUp_listing, rolled.exists_mem_entries_iff, fine.mem_keys_iff,
    mem_keys_group]
  constructor
  · rintro ⟨hne, u, v, ⟨-, s, t, hedge, ⟨hs, hu⟩, ht, hv⟩, ⟨-, ha⟩, -, hb⟩
    rw [ofPackage_ofPackage h hu] at ha
    rw [ofPackage_ofPackage h hv] at hb
    exact ⟨hne, s, t, hedge, ⟨hs, ha⟩, ht, hb⟩
  · rintro ⟨hne, s, t, hedge, ⟨hs, ha⟩, ht, hb⟩
    obtain ⟨u, hu⟩ := exists_ofPackage_iff.mpr (exists_ofPackage_iff.mp ⟨a, ha⟩)
    obtain ⟨v, hv⟩ := exists_ofPackage_iff.mpr (exists_ofPackage_iff.mp ⟨b, hb⟩)
    rw [← ofPackage_ofPackage h hu] at ha
    rw [← ofPackage_ofPackage h hv] at hb
    -- different coarse groups hold no package of one fine group
    have huv : u ≠ v := by
      rintro rfl
      exact hne (Option.some.inj (ha.symm.trans hb))
    exact ⟨hne, u, v, ⟨huv, s, t, hedge, ⟨hs, hu⟩, ht, hv⟩, ⟨⟨s, hs, hu⟩, ha⟩, ⟨t, ht, hv⟩, hb⟩

/-- Under more roots, base packages, groups and dependencies can be made from those under fewer. The
last part is about the same roots twice. -/
theorem coarsening_law (h : ∀ r ∈ roots, r ∈ more) (packages : List Text)
    (dependencies : List (Text × List Text)) :
    (∀ p, 2 ≤ (Text.splitOn '.' p).length →
      ∃ b c, ofPackage roots p = some b ∧ ofPackage more b = some c ∧ ofPackage more p = some c) ∧
    (∀ c p, p ∈ (group more packages).image c ↔
      ∃ b ∈ (group roots packages).keys, ofPackage more b = some c ∧
        p ∈ (group roots packages).image b) ∧
    (∀ (fine : (group roots packages).Listing)
      (rolled : (rollUp dependencies fine.entries).Listing)
      (coarse : (group more (fine.entries.map Prod.fst)).Listing)
      (direct : (group more packages).Listing),
      rollUp rolled.entries coarse.entries = rollUp dependencies direct.entries) ∧
    (∀ b ∈ (group roots packages).keys, ofPackage roots b = some b) ∧
    (∀ b q, q ∈ (group roots (group roots packages).keys).image b ↔
      q = b ∧ b ∈ (group roots packages).keys) ∧
    ∀ (fine : (group roots packages).Listing)
      (rolled : (rollUp dependencies fine.entries).Listing)
      (again : (group roots (fine.entries.map Prod.fst)).Listing),
      rollUp rolled.entries again.entries = rollUp dependencies fine.entries := by
  refine ⟨?_, fun _ _ ↦ mem_image_group_iff_exists h, rollUp_rollUp h,
    fun _ ↦ ofPackage_eq_self_of_mem_keys, fun _ _ ↦ mem_image_group_keys,
    fun fine rolled again ↦ rollUp_rollUp (fun _ ↦ id) fine rolled again fine⟩
  intro p hp
  have hdot : CodePoint.ofChar '.' ∈ p := Text.two_le_length_splitOn_iff.mp hp
  obtain ⟨b, hb⟩ := exists_ofPackage_iff.mpr hdot
  obtain ⟨c, hc⟩ := exists_ofPackage_iff.mpr hdot
  exact ⟨b, c, hb, (ofPackage_ofPackage h hb).trans hc, hc⟩

/-- Packages, some of them with empty segments, and one without a base package. -/
def oddPackages : List Text := ["..x.y", "org.a.b.c", "org.a.d.e", ".z", "x"]

def oddDependencies : List (Text × List Text) :=
  [("org.a.b.c", ["org.a.d.e", ".z", "x"]), ("..x.y", ["org.a.d.e"])]

/-- The dependencies between the base packages of the packages above, where Java alone is a root. -/
def oddFine : List (Text × List Text) := [("..x", ["org.a.d"]), ("org.a.b", [".z", "org.a.d"])]

/-- The same where the empty name and `org` are roots, too. -/
def oddCoarse : List (Text × List Text) := [(".", ["org.a"]), ("org.a", [".z"])]

theorem coarsening_law_odd_packages :
    (∀ r ∈ NameSet.ofList ["java"], r ∈ NameSet.ofList [[], "java", "org"]) ∧
      ∃ fine rolled : NameRelation,
        fine = group (NameSet.ofList ["java"]) oddPackages ∧
        rolled = rollUp oddDependencies fine.toLists ∧
        rolled.toLists = oddFine ∧
        (rollUp rolled.toLists (group (NameSet.ofList [[], "java", "org"])
          (fine.toLists.map Prod.fst)).toLists).toLists = oddCoarse := by
  have hroots : ∀ r ∈ NameSet.ofList ["java"], r ∈ NameSet.ofList [[], "java", "org"] := by
    simp
  have hdirect : (rollUp oddDependencies
      (group (NameSet.ofList [[], "java", "org"]) oddPackages).toLists).toLists = oddCoarse := by
    decide +kernel
  refine ⟨hroots, _, _, rfl, rfl, by decide +kernel, ?_⟩
  rw [← hdirect]
  exact congrArg NameRelation.toLists
    ((coarsening_law hroots oddPackages oddDependencies).2.2.1 (.ascending _) (.ascending _)
      (.ascending _) (.ascending _))

end PackageRollup.BasePackage
