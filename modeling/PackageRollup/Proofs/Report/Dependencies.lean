import PackageRollup.Proofs.Report.Summary

/-!
# The dependencies of a report

A report lists one base package among the dependencies of another exactly when they differ and some
record calls from the one into the other. The edges pass through four stages on the way from the
records to the report. They meet again because both ends of a dependency are registered packages and
because the last group of a registered package is its base package.
-/

namespace PackageRollup.Session

variable {libraries : List Text} {roots : NameSet} {rs : List Record}

theorem mem_allPackages_of_mem {r : Record} (hr : r ∈ rs) :
    r.sourcePackage ∈ Record.allPackages rs ∧ r.targetPackage ∈ Record.allPackages rs :=
  ⟨List.mem_flatMap.mpr ⟨r, hr, by simp [Record.packages]⟩,
    List.mem_flatMap.mpr ⟨r, hr, by simp [Record.packages]⟩⟩

theorem mem_image_baseDependencies_start {a b : Text} :
    b ∈ ((start libraries roots).absorbAll rs).build.baseDependencies.image a ↔
      a ≠ b ∧ ∃ r ∈ rs, BasePackage.ofPackage roots r.sourcePackage = some a ∧
        BasePackage.ofPackage roots r.targetPackage = some b := by
  simp only [mem_image_baseDependencies_build, roots_start, mem_packages_start,
    mem_image_dependencies_start]
  constructor
  · rintro ⟨hne, p, q, ⟨_, r, hr, rfl, rfl⟩, ⟨_, hp⟩, _, hq⟩
    exact ⟨hne, r, hr, hp, hq⟩
  · rintro ⟨hne, r, hr, hp, hq⟩
    obtain ⟨hsource, htarget⟩ := mem_allPackages_of_mem hr
    -- the packages differ since their base packages do
    have hpq : r.sourcePackage ≠ r.targetPackage := by
      intro heq
      rw [heq, hq] at hp
      exact hne (Option.some.inj hp).symm
    exact ⟨hne, r.sourcePackage, r.targetPackage, ⟨hpq, r, hr, rfl, rfl⟩,
      ⟨hsource, hp⟩, htarget, hq⟩

/-- From records to report, dependencies between base packages are neither lost nor made up. -/
theorem mem_dependencies_report_iff (libraries : List Text) (roots : NameSet) (rs : List Record) :
    ∃ s, (start libraries roots).ingestAll rs = .ok s ∧
      (∀ a b, (∃ targets, (a, targets) ∈ s.report.report.dependencies ∧ b ∈ targets) ↔
        a ≠ b ∧ ∃ r ∈ rs, BasePackage.ofPackage roots r.sourcePackage = some a ∧
          BasePackage.ofPackage roots r.targetPackage = some b) ∧
      (∀ e ∈ s.report.report.dependencies, e.2 ≠ [] ∧ Text.Ascending e.2) ∧
      Text.Ascending (s.report.report.dependencies.map Prod.fst) := by
  refine ⟨_, ingestAll_start, ?_⟩
  rw [report_eq finished_start, dependencies_summarize noEmptyImage_baseDependencies_build]
  refine ⟨?_, ?_, ?_⟩
  · intro a b
    rw [NameRelation.exists_mem_toLists_iff, mem_image_baseDependencies_start]
  · intro e he
    exact ⟨noEmptyImage_baseDependencies_build.ne_nil_of_mem_toLists he,
      NameRelation.ascending_of_mem_toLists he⟩
  · rw [NameRelation.map_fst_toLists]
    exact NameMap.keys_ascending _

end PackageRollup.Session
