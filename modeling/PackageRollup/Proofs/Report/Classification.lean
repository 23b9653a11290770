import Mathlib.Data.List.Nodup
import PackageRollup.Proofs.Report.Summary

/-!
# External and internal packages

Whether a package is external is settled by the first record that mentions it, and by nothing that
comes later. A base package is external if one of its members is, and every base package is on
exactly one of the two lists.
-/

namespace PackageRollup

namespace Record

/-- The first of the records that mentions a package. -/
def firstMention? (rs : List Record) (p : Text) : Option Record :=
  rs.find? fun r ↦ decide (p ∈ r.packages)

/-- The first record that mentions a package has it as target only, and the class that is called,
as it is written, does not begin with the group of the artifact. -/
def FirstSeenExternal (rs : List Record) (p : Text) : Prop :=
  ∃ r, firstMention? rs p = some r ∧ p ≠ r.sourcePackage ∧ ¬ r.artifactGroup <+: r.targetClass

theorem flag?_eq_none_iff {r : Record} {p : Text} : r.flag? p = none ↔ p ∉ r.packages := by
  rw [← flag?_isSome_iff]
  simp

theorem flag?_eq_some_true_iff {r : Record} {p : Text} (hp : p ∈ r.packages) :
    r.flag? p = some true ↔ p ≠ r.sourcePackage ∧ ¬ r.artifactGroup <+: r.targetClass := by
  by_cases hsource : p = r.sourcePackage
  · simp [flag?, hsource]
  · have htarget : p = r.targetPackage := by simpa [packages, hsource] using hp
    rw [flag?, if_neg hsource, if_pos htarget, Session.isExternalTarget]
    simp [hsource, Bool.eq_false_iff]

theorem findSome?_flag? (rs : List Record) (p : Text) :
    (rs.findSome? fun r ↦ r.flag? p) = (firstMention? rs p).bind fun r ↦ r.flag? p := by
  induction rs with
  | nil => rfl
  | cons r rs ih =>
      rw [List.findSome?_cons, firstMention?, List.find?_cons]
      by_cases hp : p ∈ r.packages
      · obtain ⟨flag, hflag⟩ := Option.isSome_iff_exists.mp (flag?_isSome_iff.mpr hp)
        simp [hp, hflag]
      · rw [flag?_eq_none_iff.mpr hp, ih]
        simp [hp, firstMention?]

theorem findSome?_flag?_eq_some_true_iff {rs : List Record} {p : Text} :
    (rs.findSome? fun r ↦ r.flag? p) = some true ↔ FirstSeenExternal rs p := by
  rw [findSome?_flag?, Option.bind_eq_some_iff, FirstSeenExternal]
  apply exists_congr
  intro r
  apply and_congr_right
  intro hfirst
  have hp : p ∈ r.packages := by simpa using List.find?_some hfirst
  exact flag?_eq_some_true_iff hp

end Record

namespace Session

variable {libraries : List Text} {roots : NameSet} {rs : List Record}

theorem flag?_start_eq_some_true_iff {p : Text} :
    ((start libraries roots).absorbAll rs).flag? p = some true ↔ Record.FirstSeenExternal rs p := by
  rw [flag?_start, Record.findSome?_flag?_eq_some_true_iff]

theorem exists_mem_image_bases_start {b : Text} :
    (∃ p ∈ ((start libraries roots).absorbAll rs).build.bases.image b,
      ((start libraries roots).absorbAll rs).build.flag? p = some true) ↔
      ∃ p ∈ Record.allPackages rs,
        BasePackage.ofPackage roots p = some b ∧ Record.FirstSeenExternal rs p := by
  apply exists_congr
  intro p
  have hflag : ((start libraries roots).absorbAll rs).build.flag? p = some true ↔
      Record.FirstSeenExternal rs p := flag?_start_eq_some_true_iff
  rw [mem_image_bases_start, hflag, and_assoc]

/-- The flags, the two lists and the details of a report all follow the first mentions. -/
theorem external_iff_firstSeenExternal (libraries : List Text) (roots : NameSet)
    (rs : List Record) :
    ∃ s, (start libraries roots).ingestAll rs = .ok s ∧
      (∀ p, p ∈ s.packages ↔ ∃ r ∈ rs, p ∈ r.packages) ∧
      (∀ p info, s.packages.find? p = some info →
        (info.external = true ↔ Record.FirstSeenExternal rs p)) ∧
      (∀ b, b ∈ s.report.report.externalPackages ↔
        ∃ p ∈ s.packages, BasePackage.ofPackage roots p = some b ∧
          Record.FirstSeenExternal rs p) ∧
      (∀ b, b ∈ s.report.report.internalPackages ↔
        (∃ p ∈ s.packages, BasePackage.ofPackage roots p = some b) ∧
          ¬ ∃ p ∈ s.packages, BasePackage.ofPackage roots p = some b ∧
            Record.FirstSeenExternal rs p) ∧
      (∀ p ∈ s.packages, ∀ b, BasePackage.ofPackage roots p = some b →
        (s.report.report.externalPackages ++ s.report.report.internalPackages).count b = 1 ∧
          ∃ d ∈ s.report.report.details, d.name = b) ∧
      (∀ d ∈ s.report.report.details,
        (d.external = true ↔ d.name ∈ s.report.report.externalPackages) ∧
          (d.external = false ↔ d.name ∈ s.report.report.internalPackages)) := by
  refine ⟨_, ingestAll_start, ?_⟩
  rw [report_eq finished_start]
  simp only [mem_packages_start]
  refine ⟨?_, ?_, ?_, ?_, ?_, ?_⟩
  · intro p
    rw [Record.allPackages, List.mem_flatMap]
  · intro p info hinfo
    have hflag : ((start libraries roots).absorbAll rs).flag? p = some true ↔
        Record.FirstSeenExternal rs p := flag?_start_eq_some_true_iff
    rw [flag?, hinfo] at hflag
    simpa using hflag
  · intro b
    rw [mem_externalPackages_summarize, exists_mem_image_bases_start]
    constructor
    · rintro ⟨_, hexternal⟩
      exact hexternal
    · rintro ⟨p, hp, hb, hfirst⟩
      exact ⟨mem_keys_bases_start.mpr ⟨p, hp, hb⟩, p, hp, hb, hfirst⟩
  · intro b
    rw [mem_internalPackages_summarize, exists_mem_image_bases_start, mem_keys_bases_start]
  · intro p hp b hb
    have hkey : b ∈ ((start libraries roots).absorbAll rs).build.bases.keys :=
      mem_keys_bases_start.mpr ⟨p, hp, hb⟩
    constructor
    · rw [perm_basePackages_summarize.count_eq]
      exact List.count_eq_one_of_mem (NameMap.keys_ascending _).nodup hkey
    · rw [← map_name_details_summarize] at hkey
      exact List.mem_map.mp hkey
  · intro d hd
    exact external_mem_details_summarize hd

end Session

end PackageRollup
