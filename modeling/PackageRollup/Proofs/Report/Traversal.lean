import PackageRollup.Proofs.Report.Summary

/-!
# The order in which a report is made

Sets and maps of names are kept in ascending order here, but nothing hangs on it. A traversal goes
through the packages, the dependencies, the base packages and the artifacts of a session in any
orders; the report that is made along it sorts where the order would show. It is the same report for
every traversal.
-/

namespace PackageRollup

namespace NameRelation

/-- A way to go through a relation: the names that have an entry in some order, each with the names
it is related to in some order. -/
structure Listing (r : NameRelation) where
  entries : List (Text × List Text)
  keys_perm : (entries.map Prod.fst).Perm r.keys
  names_perm : ∀ e ∈ entries, e.2.Perm (r.image e.1).toList

namespace Listing

variable {r : NameRelation}

/-- The names that a name is related to, in the order of the listing. -/
def namesOf (l : r.Listing) (a : Text) : List Text := (NameMap.findIn a l.entries).getD []

def sorted (l : r.Listing) : List (Text × List Text) :=
  (Text.sort (l.entries.map Prod.fst)).map fun a ↦ (a, Text.sort (l.namesOf a))

/-- The listing in ascending order. -/
def ascending (r : NameRelation) : r.Listing where
  entries := r.toLists
  keys_perm := by rw [map_fst_toLists]
  names_perm := by
    intro e he
    rw [(mem_toLists_iff.mp he).2]

instance : Inhabited r.Listing := ⟨ascending r⟩

theorem mem_keys_iff (l : r.Listing) {a : Text} : a ∈ l.entries.map Prod.fst ↔ a ∈ r.keys :=
  l.keys_perm.mem_iff

theorem exists_mem_entries_iff (l : r.Listing) {a b : Text} :
    (∃ ts, (a, ts) ∈ l.entries ∧ b ∈ ts) ↔ b ∈ r.image a := by
  constructor
  · rintro ⟨ts, hts, hb⟩
    exact (l.names_perm _ hts).mem_iff.mp hb
  · intro hb
    obtain ⟨s, hs, _⟩ := mem_image_iff.mp hb
    have hkey : a ∈ l.entries.map Prod.fst := l.mem_keys_iff.mpr (NameMap.mem_keys_iff.mpr ⟨s, hs⟩)
    obtain ⟨e, he, rfl⟩ := List.mem_map.mp hkey
    exact ⟨e.2, he, (l.names_perm e he).mem_iff.mpr hb⟩

theorem namesOf_perm (l : r.Listing) (a : Text) : (l.namesOf a).Perm (r.image a).toList := by
  cases hfind : NameMap.findIn a l.entries with
  | some ts =>
      have hnodup : (l.entries.map Prod.fst).Nodup :=
        l.keys_perm.nodup_iff.mpr (NameMap.keys_ascending r).nodup
      have hts : (a, ts) ∈ l.entries := (NameMap.findIn_eq_some_iff hnodup).mp hfind
      rw [namesOf, hfind]
      exact l.names_perm _ hts
  | none =>
      have hkey : a ∉ r.keys := by
        rw [← l.mem_keys_iff, ← NameMap.findIn_isSome_iff, hfind]
        simp
      have hnone : r.find? a = none := by
        rw [← NameMap.mem_def, NameMap.mem_iff_find?_isSome] at hkey
        simpa using hkey
      simp [namesOf, hfind, image, hnone, NameSet.empty]

theorem sort_namesOf (l : r.Listing) (a : Text) :
    Text.sort (l.namesOf a) = (r.image a).toList :=
  (r.image a).ascending.sort_eq_of_perm (l.namesOf_perm a)

theorem sort_keys (l : r.Listing) : Text.sort (l.entries.map Prod.fst) = r.keys :=
  (NameMap.keys_ascending r).sort_eq_of_perm l.keys_perm

theorem sorted_eq (l : r.Listing) : l.sorted = r.toLists := by
  rw [sorted, sort_keys, NameMap.keys, toLists, List.map_map]
  apply List.map_congr_left
  rintro ⟨a, s⟩ hmem
  have himage := image_eq_of_find? (NameMap.mem_entries_iff.mp hmem)
  simp [sort_namesOf, himage]

end Listing

end NameRelation

namespace Session

/-- The orders in which a report on a session goes through what the session holds, and through what
is made of it on the way. -/
structure Traversal (s : Session) where
  packages : List Text
  packages_perm : packages.Perm s.packages.keys
  dependencies : s.dependencies.Listing
  groups : (BasePackage.group s.roots packages).Listing
  edges : (BasePackage.rollUp dependencies.entries groups.entries).Listing
  artifacts : s.artifacts.Listing

instance (s : Session) : Inhabited (Traversal s) :=
  ⟨⟨s.packages.keys, List.Perm.refl _, default, default, default, default⟩⟩

variable {s : Session}

/-- What there is to say of a base package, with its members in the order of the traversal. -/
def detailAlong (s : Session) (τ : Traversal s) (base : Text) : BaseDetail where
  name := base
  external := isExternalBase (τ.groups.namesOf base) s.externalFlags
  subPackageCount := (τ.groups.namesOf base).length
  classCount := (((τ.groups.namesOf base).map s.classCount).foldr (· + ·) 0 : Nat)
  dependencies := Text.sort (τ.edges.namesOf base)
  subPackages := Text.sort (τ.groups.namesOf base)

/-- The report that is made along a traversal. -/
def reportAlong (s : Session) (τ : Traversal s) : Report :=
  let details := (Text.sort (τ.groups.entries.map Prod.fst)).map (s.detailAlong τ)
  { libraryUsage := s.libraryUsage.map fun (keyword, count) ↦ ⟨keyword, count⟩
    externalPackages := (details.filter (·.external)).map (·.name)
    internalPackages := (details.filter (!·.external)).map (·.name)
    dependencies := τ.edges.sorted.filter fun e ↦ !e.2.isEmpty
    details := details
    artifactPackages := τ.artifacts.sorted }

/-! ## The traversal does not matter -/

theorem group_eq_bases (τ : Traversal s) :
    BasePackage.group s.roots τ.packages = s.build.bases := by
  apply BasePackage.noEmptyImage_group.eq_of_mem_image_iff BasePackage.noEmptyImage_group
  intro b p
  rw [BasePackage.mem_image_group, BasePackage.mem_image_group, τ.packages_perm.mem_iff]

theorem rollUp_eq_baseDependencies (τ : Traversal s) :
    BasePackage.rollUp τ.dependencies.entries τ.groups.entries = s.build.baseDependencies := by
  have hgroups : ∀ p b, BasePackage.lastGroup p τ.groups.entries = some b ↔
      p ∈ τ.packages ∧ BasePackage.ofPackage s.roots p = some b := fun p b ↦
    BasePackage.lastGroup_eq_some_iff_ofPackage fun _ _ ↦ τ.groups.exists_mem_entries_iff
  apply BasePackage.noEmptyImage_rollUp.eq_of_mem_image_iff noEmptyImage_baseDependencies_build
  intro a b
  rw [mem_image_baseDependencies_build]
  simp only [BasePackage.mem_image_rollUp, τ.dependencies.exists_mem_entries_iff, hgroups,
    τ.packages_perm.mem_iff, NameMap.mem_def]

theorem detailAlong_eq (τ : Traversal s) (b : Text) :
    s.detailAlong τ b = s.build.detail s.build.externalFlags b (s.build.bases.image b) := by
  have hmembers : (τ.groups.namesOf b).Perm (s.build.bases.image b).toList := by
    rw [← group_eq_bases τ]
    exact τ.groups.namesOf_perm b
  have hsort : Text.sort (τ.groups.namesOf b) = (s.build.bases.image b).toList :=
    (NameSet.ascending _).sort_eq_of_perm hmembers
  have hedges : Text.sort (τ.edges.namesOf b) = (s.build.baseDependencies.image b).toList := by
    rw [τ.edges.sort_namesOf, rollUp_eq_baseDependencies]
  have hexternal : isExternalBase (τ.groups.namesOf b) s.externalFlags =
      isExternalBase (s.build.bases.image b).toList s.externalFlags := hmembers.any_eq
  have hclasses : ((τ.groups.namesOf b).map s.classCount).foldr (· + ·) 0 =
      ((s.build.bases.image b).toList.map s.classCount).foldr (· + ·) 0 :=
    (hmembers.map s.classCount).sum_nat
  rw [detailAlong, hexternal, hclasses, hedges, hsort, hmembers.length_eq]
  rfl

/-- Every traversal gives the report on the session. -/
theorem reportAlong_eq (τ : Traversal s) : s.reportAlong τ = s.build.summarize := by
  have hkeys : Text.sort (τ.groups.entries.map Prod.fst) = s.build.bases.keys := by
    rw [τ.groups.sort_keys, group_eq_bases]
  have hdetails : (Text.sort (τ.groups.entries.map Prod.fst)).map (s.detailAlong τ) =
      s.build.summarize.details := by
    rw [hkeys, NameMap.keys, List.map_map]
    apply List.map_congr_left
    rintro ⟨b, members⟩ hmem
    have himage := NameRelation.image_eq_of_find? (NameMap.mem_entries_iff.mp hmem)
    rw [Function.comp_apply, detailAlong_eq, himage]
  have hedges : τ.edges.sorted = s.build.baseDependencies.toLists := by
    rw [τ.edges.sorted_eq, rollUp_eq_baseDependencies]
  rw [reportAlong, hdetails, hedges, τ.artifacts.sorted_eq]
  rfl

end Session

end PackageRollup
