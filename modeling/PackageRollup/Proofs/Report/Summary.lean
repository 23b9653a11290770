import PackageRollup.Proofs.BasePackage
import PackageRollup.Proofs.Report.Sort
import PackageRollup.Proofs.Session.Records

/-!
# What a report says of a session

The parts of a report on a session that is not finished, in terms of the packages, dependencies and
artifacts that the session holds. Making the report groups the packages first.
-/

namespace PackageRollup

namespace Session

variable {s : Session}

theorem report_eq (h : s.finished = false) : s.report.report = s.build.summarize := by
  simp [report, h]

theorem mem_image_bases_build {b p : Text} :
    p ∈ s.build.bases.image b ↔ p ∈ s.packages ∧ BasePackage.ofPackage s.roots p = some b :=
  BasePackage.mem_image_group

theorem mem_keys_bases_build {b : Text} :
    b ∈ s.build.bases.keys ↔ ∃ p ∈ s.packages, BasePackage.ofPackage s.roots p = some b :=
  BasePackage.mem_keys_group

theorem mem_image_baseDependencies_build {a b : Text} :
    b ∈ s.build.baseDependencies.image a ↔
      a ≠ b ∧ ∃ p q, q ∈ s.dependencies.image p ∧
        (p ∈ s.packages ∧ BasePackage.ofPackage s.roots p = some a) ∧
        q ∈ s.packages ∧ BasePackage.ofPackage s.roots q = some b :=
  BasePackage.mem_image_rollUp_group

theorem noEmptyImage_baseDependencies_build : s.build.baseDependencies.NoEmptyImage :=
  BasePackage.noEmptyImage_rollUp

/-! ## The parts of a summary -/

/-- Without empty entries the summary keeps all lists of base packages. -/
theorem dependencies_summarize (h : s.baseDependencies.NoEmptyImage) :
    s.summarize.dependencies = s.baseDependencies.toLists := by
  apply List.filter_eq_self.mpr
  intro e he
  simpa using h.ne_nil_of_mem_toLists he

theorem map_name_details_summarize : s.summarize.details.map (·.name) = s.bases.keys := by
  simp [summarize, detail, NameMap.keys]

/-- Every base package has its detail, made from its members. -/
theorem mem_details_summarize {d : BaseDetail} :
    d ∈ s.summarize.details ↔
      ∃ b ∈ s.bases.keys, s.detail s.externalFlags b (s.bases.image b) = d := by
  simp only [summarize, List.mem_map, Prod.exists, NameMap.mem_keys_iff]
  constructor
  · rintro ⟨b, members, hmem, rfl⟩
    have hb := NameMap.mem_entries_iff.mp hmem
    exact ⟨b, ⟨members, hb⟩, by rw [NameRelation.image_eq_of_find? hb]⟩
  · rintro ⟨b, ⟨members, hb⟩, rfl⟩
    exact ⟨b, members, NameMap.mem_entries_iff.mpr hb, by rw [NameRelation.image_eq_of_find? hb]⟩

/-- A base package is external if some member was external when it was first seen. -/
theorem external_detail_iff {b : Text} {members : NameSet} :
    (s.detail s.externalFlags b members).external = true ↔
      ∃ p ∈ members, s.flag? p = some true := by
  simp only [detail, isExternalBase, externalFlags, NameMap.find?_map, List.any_eq_true,
    Option.getD_eq_iff, flag?]
  simp [NameSet.mem_def]

/-- The external and the internal packages together are all base packages, each once. -/
theorem perm_basePackages_summarize :
    (s.summarize.externalPackages ++ s.summarize.internalPackages).Perm s.bases.keys := by
  rw [← map_name_details_summarize]
  have hsplit := List.filter_append_perm (fun d : BaseDetail ↦ d.external) s.summarize.details
  simpa [summarize] using hsplit.map (·.name)

theorem basePackages_summarize : s.summarize.basePackages = s.bases.keys :=
  (NameMap.keys_ascending _).sort_eq_of_perm perm_basePackages_summarize

theorem mem_map_name_filter_details {q : BaseDetail → Bool} {b : Text} :
    b ∈ (s.summarize.details.filter q).map (·.name) ↔
      b ∈ s.bases.keys ∧ q (s.detail s.externalFlags b (s.bases.image b)) = true := by
  simp only [List.mem_map, List.mem_filter, mem_details_summarize]
  constructor
  · rintro ⟨_, ⟨⟨c, hc, rfl⟩, hq⟩, rfl⟩
    exact ⟨hc, hq⟩
  · rintro ⟨hb, hq⟩
    exact ⟨_, ⟨⟨b, hb, rfl⟩, hq⟩, rfl⟩

theorem mem_externalPackages_summarize {b : Text} :
    b ∈ s.summarize.externalPackages ↔
      b ∈ s.bases.keys ∧ ∃ p ∈ s.bases.image b, s.flag? p = some true := by
  rw [← external_detail_iff (b := b)]
  exact mem_map_name_filter_details

theorem mem_internalPackages_summarize {b : Text} :
    b ∈ s.summarize.internalPackages ↔
      b ∈ s.bases.keys ∧ ¬ ∃ p ∈ s.bases.image b, s.flag? p = some true := by
  rw [← external_detail_iff (b := b), Bool.not_eq_true, ← Bool.not_eq_true']
  exact mem_map_name_filter_details

/-- The flag of a detail says on which of the two lists its base package is. -/
theorem external_mem_details_summarize {d : BaseDetail} (hd : d ∈ s.summarize.details) :
    (d.external = true ↔ d.name ∈ s.summarize.externalPackages) ∧
      (d.external = false ↔ d.name ∈ s.summarize.internalPackages) := by
  obtain ⟨b, hb, rfl⟩ := mem_details_summarize.mp hd
  rw [← Bool.not_eq_true, external_detail_iff, mem_externalPackages_summarize,
    mem_internalPackages_summarize]
  exact ⟨(and_iff_right hb).symm, (and_iff_right hb).symm⟩

/-! ## The base packages of records -/

section Fresh

variable {libraries : List Text} {roots : NameSet} {rs : List Record}

theorem mem_image_bases_start {b p : Text} :
    p ∈ ((start libraries roots).absorbAll rs).build.bases.image b ↔
      p ∈ Record.allPackages rs ∧ BasePackage.ofPackage roots p = some b := by
  rw [mem_image_bases_build, mem_packages_start, roots_start]

theorem mem_keys_bases_start {b : Text} :
    b ∈ ((start libraries roots).absorbAll rs).build.bases.keys ↔
      ∃ p ∈ Record.allPackages rs, BasePackage.ofPackage roots p = some b := by
  simp only [mem_keys_bases_build, mem_packages_start, roots_start]

end Fresh

end Session

end PackageRollup
