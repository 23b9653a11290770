import Mathlib.Algebra.BigOperators.Group.Finset.Basic
import PackageRollup.Proofs.Report.Summary

/-!
# The details of a report

Every base package has one detail, with all its packages and the number of its classes. The number
is a sum over the packages. It counts distinct class names because a class name can be put together
again from its package and its simple name, and because every package has one base package only.
-/

namespace PackageRollup

namespace Record

/-- The names without array signs of the classes whose package has the given base package. -/
def distinctClasses (roots : NameSet) (rs : List Record) (b : Text) : Finset Text :=
  (((allClassNames rs).filter fun name ↦
    BasePackage.ofPackage roots (ClassName.ofText name).package = some b).map
      ClassName.unwrap).toFinset

theorem mem_distinctClasses {roots : NameSet} {rs : List Record} {b u : Text} :
    u ∈ distinctClasses roots rs b ↔
      (∃ name ∈ allClassNames rs, ClassName.unwrap name = u) ∧
        BasePackage.ofPackage roots (ClassName.ofUnwrapped u).package = some b := by
  simp only [distinctClasses, List.mem_toFinset, List.mem_map, List.mem_filter, decide_eq_true_eq]
  constructor
  · rintro ⟨name, ⟨hname, hb⟩, rfl⟩
    exact ⟨⟨name, hname, rfl⟩, hb⟩
  · rintro ⟨⟨name, hname, rfl⟩, hb⟩
    exact ⟨name, ⟨hname, hb⟩, rfl⟩

theorem mem_allPackages_iff {rs : List Record} {p : Text} :
    p ∈ allPackages rs ↔ ∃ name ∈ allClassNames rs, (ClassName.ofText name).package = p := by
  simp only [allPackages, allClassNames, List.mem_flatMap, mem_packages_iff]
  constructor
  · rintro ⟨r, hr, name, hname, hp⟩
    exact ⟨name, ⟨r, hr, hname⟩, hp⟩
  · rintro ⟨name, ⟨r, hr, hname⟩, hp⟩
    exact ⟨r, hr, name, hname, hp⟩

end Record

namespace Session

variable {libraries : List Text} {roots : NameSet} {rs : List Record}

theorem classCount_eq (s : Session) (p : Text) : s.classCount p = (s.classesOf p).size := by
  cases h : s.packages.find? p <;> simp [classCount, classesOf, h, NameSet.size, NameSet.empty]

/-- The classes of one package, counted by their full names. -/
theorem card_filter_package {b p : Text} (hp : BasePackage.ofPackage roots p = some b) :
    ((Record.distinctClasses roots rs b).filter fun u ↦ (ClassName.ofUnwrapped u).package = p).card
      = ((start libraries roots).absorbAll rs).classCount p := by
  have hsimple : ((Record.distinctClasses roots rs b).filter fun u ↦
      (ClassName.ofUnwrapped u).package = p).image (fun u ↦ (ClassName.ofUnwrapped u).simple) =
        (((start libraries roots).absorbAll rs).classesOf p).toList.toFinset := by
    ext c
    simp only [Finset.mem_image, Finset.mem_filter, Record.mem_distinctClasses, List.mem_toFinset,
      ← NameSet.mem_def, mem_classesOf_start]
    constructor
    · rintro ⟨_, ⟨⟨⟨name, hname, rfl⟩, _⟩, hpackage⟩, hc⟩
      exact ⟨name, hname, ClassName.eq_mk_iff.mpr ⟨hpackage, hc⟩⟩
    · rintro ⟨name, hname, hparts⟩
      obtain ⟨hpackage, hc⟩ := ClassName.eq_mk_iff.mp hparts
      refine ⟨ClassName.unwrap name, ⟨⟨⟨name, hname, rfl⟩, ?_⟩, hpackage⟩, hc⟩
      rw [← hp, ← hpackage]
      rfl
  have hinjective : Set.InjOn (fun u ↦ (ClassName.ofUnwrapped u).simple)
      ((Record.distinctClasses roots rs b).filter fun u ↦
        (ClassName.ofUnwrapped u).package = p) := by
    intro u hu v hv huv
    have hup := (Finset.mem_filter.mp hu).2
    have hvp := (Finset.mem_filter.mp hv).2
    apply ClassName.ofUnwrapped_injective
    rw [ClassName.eq_mk_iff.mpr ⟨hup, rfl⟩, ClassName.eq_mk_iff.mpr ⟨hvp, rfl⟩]
    exact congrArg (ClassName.mk p) huv
  rw [← Finset.card_image_of_injOn hinjective, hsimple, classCount_eq,
    List.toFinset_card_of_nodup (NameSet.nodup_toList _)]
  rfl

/-- Adding up the classes of the packages of a base package counts every class name once. -/
theorem sum_classCount_eq_card {b : Text} {members : NameSet}
    (hmembers : ∀ p, p ∈ members ↔
      p ∈ Record.allPackages rs ∧ BasePackage.ofPackage roots p = some b) :
    (members.toList.map ((start libraries roots).absorbAll rs).classCount).foldr (· + ·) 0 =
      (Record.distinctClasses roots rs b).card := by
  have hmaps : Set.MapsTo (fun u ↦ (ClassName.ofUnwrapped u).package)
      (Record.distinctClasses roots rs b : Set Text) members.toList.toFinset := by
    intro u hu
    obtain ⟨⟨name, hname, rfl⟩, hb⟩ := Record.mem_distinctClasses.mp hu
    have hmem : (ClassName.ofText name).package ∈ members :=
      (hmembers _).mpr ⟨Record.mem_allPackages_iff.mpr ⟨name, hname, rfl⟩, hb⟩
    exact List.mem_toFinset.mpr hmem
  calc
    _ = ∑ p ∈ members.toList.toFinset, ((start libraries roots).absorbAll rs).classCount p :=
      (List.sum_toFinset _ members.nodup_toList).symm
    _ = ∑ p ∈ members.toList.toFinset, ((Record.distinctClasses roots rs b).filter fun u ↦
        (ClassName.ofUnwrapped u).package = p).card := by
      apply Finset.sum_congr rfl
      intro p hp
      exact (card_filter_package ((hmembers p).mp (List.mem_toFinset.mp hp)).2).symm
    _ = (Record.distinctClasses roots rs b).card :=
      (Finset.card_eq_sum_card_fiberwise hmaps).symm

theorem mem_keys_artifacts_start {a : Text} :
    a ∈ ((start libraries roots).absorbAll rs).artifacts.keys ↔ ∃ r ∈ rs, r.artifactId = a := by
  simp only [noEmptyImage_artifacts_start.mem_keys_iff, mem_image_artifacts_start]
  constructor
  · rintro ⟨_, r, hr, ha, _⟩
    exact ⟨r, hr, ha⟩
  · rintro ⟨r, hr, ha⟩
    exact ⟨r.sourcePackage, r, hr, ha, by simp [Record.packages]⟩

/-- From records to report, no package and no class is lost, merged or counted twice. -/
theorem details_artifactPackages_report (libraries : List Text) (roots : NameSet)
    (rs : List Record) :
    ∃ s, (start libraries roots).ingestAll rs = .ok s ∧
      Text.Ascending (s.report.report.details.map (·.name)) ∧
      (∀ b, b ∈ s.report.report.details.map (·.name) ↔
        ∃ p ∈ Record.allPackages rs, BasePackage.ofPackage roots p = some b) ∧
      (∀ d ∈ s.report.report.details,
        Text.Ascending d.subPackages ∧
        (∀ p, p ∈ d.subPackages ↔
          p ∈ Record.allPackages rs ∧ BasePackage.ofPackage roots p = some d.name) ∧
        d.subPackageCount = d.subPackages.length ∧
        d.classCount = (Record.distinctClasses roots rs d.name).card) ∧
      Text.Ascending (s.report.report.artifactPackages.map Prod.fst) ∧
      (∀ a, a ∈ s.report.report.artifactPackages.map Prod.fst ↔ ∃ r ∈ rs, r.artifactId = a) ∧
      (∀ e ∈ s.report.report.artifactPackages,
        Text.Ascending e.2 ∧
        ∀ p, p ∈ e.2 ↔ ∃ r ∈ rs, r.artifactId = e.1 ∧ p ∈ r.packages) := by
  refine ⟨_, ingestAll_start, ?_⟩
  have hartifacts : ((start libraries roots).absorbAll rs).build.summarize.artifactPackages =
      ((start libraries roots).absorbAll rs).artifacts.toLists := rfl
  rw [report_eq finished_start, map_name_details_summarize, hartifacts,
    NameRelation.map_fst_toLists]
  refine ⟨NameMap.keys_ascending _, ?_, ?_, NameMap.keys_ascending _, ?_, ?_⟩
  · intro b
    exact mem_keys_bases_start
  · intro d hd
    obtain ⟨b, _, rfl⟩ := mem_details_summarize.mp hd
    refine ⟨NameSet.ascending _, fun p ↦ mem_image_bases_start, rfl, ?_⟩
    exact congrArg Nat.cast (sum_classCount_eq_card fun p ↦ mem_image_bases_start)
  · intro a
    exact mem_keys_artifacts_start
  · intro e he
    obtain ⟨_, hts⟩ := NameRelation.mem_toLists_iff.mp he
    rw [hts]
    exact ⟨NameSet.ascending _, fun p ↦ mem_image_artifacts_start⟩

end Session

end PackageRollup
