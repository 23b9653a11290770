import PackageRollup.Proofs.Json.Strings
import PackageRollup.Proofs.Report.Summary
import PackageRollup.Proofs.Text.Template
import PackageRollup.Report.Rendering

/-!
# What the Markdown of a report shows

The document is made of its sections, with the headings of the template between them. Headings,
numbers and marks are ASCII, so a code point beyond ASCII comes from a name. Which names are shown
can be said of the session that the report was made on: its library keywords, and the packages that
have a base package.
-/

namespace PackageRollup

namespace Report

open Json

/-- The sections stand in the document as they are, whatever the names in them look like. -/
theorem markdownText_eq (r : Report) :
    r.markdownText = "# Project Package Dependencies\n\n"
      ++ ("This document lists all base packages that the project depends on.\n\n"
      ++ (librarySection r.libraryUsage
      ++ ("## Base Packages\n\n" ++ (packagesSection r.externalPackages r.internalPackages
      ++ ("## Dependency Relationships\n\n" ++ (relationshipsSection r.dependencies
      ++ ("## Package Details\n\n" ++ (r.details.flatMap detailBlock ++ "\n")))))))) := by
  have hlibrary : r.sectionAt? "LIBRARY_USAGE" = some (librarySection r.libraryUsage) := rfl
  have hpackages : r.sectionAt? "BASE_PACKAGES" =
      some (packagesSection r.externalPackages r.internalPackages) := rfl
  have hrelationships : r.sectionAt? "RELATIONSHIPS" =
      some (relationshipsSection r.dependencies) := rfl
  have hdetails : r.sectionAt? "DETAILS" = some (r.details.flatMap detailBlock) := rfl
  have hend : Template.fill r.sectionAt? "\n" = Text.ofString "\n" := rfl
  simp only [markdownText, template, List.append_assoc]
  rw [Template.fill_append (by decide), Template.fill_append (by decide),
    Template.fill_place_append (by decide) hlibrary, Template.fill_append (by decide),
    Template.fill_place_append (by decide) hpackages, Template.fill_append (by decide),
    Template.fill_place_append (by decide) hrelationships, Template.fill_append (by decide),
    Template.fill_place_append (by decide) hdetails, hend]

def kindText (external : Bool) : Text :=
  if external then "External Dependency" else "Internal Package"

def dependencyText (names : List Text) : Text :=
  if names.isEmpty then "None" else Text.join ", " (names.map code)

theorem detailBlock_eq (d : BaseDetail) :
    detailBlock d = "### " ++ (code d.name
      ++ ("\n\n- **Type**: " ++ (kindText d.external
      ++ ("\n- **Sub-packages**: " ++ (Text.ofInt d.subPackageCount
      ++ ("\n- **Classes**: " ++ (Text.ofInt d.classCount
      ++ ("\n- **Dependencies**: " ++ (dependencyText d.dependencies
      ++ ("\n\n" ++ namesUnder "Includes these sub-packages:" d.subPackages)))))))))) := by
  simp only [detailBlock, kindText, dependencyText, List.append_assoc]

def entryTexts (es : List (Text × List Text)) : List Text := es.flatMap fun e ↦ e.1 :: e.2

/-- The texts that the Markdown of a report shows. -/
def shownTexts (r : Report) : List Text :=
  r.libraryUsage.map (·.keyword) ++ r.externalPackages ++ r.internalPackages
    ++ entryTexts r.dependencies
    ++ r.details.flatMap fun d ↦ d.name :: (d.dependencies ++ d.subPackages)

section BeyondAscii

variable {c : CodePoint} (hc : 128 ≤ c.val)
include hc

theorem mem_iff_false {t : Text} (ht : IsAscii t) : c ∈ t ↔ False :=
  iff_false_intro fun hmem ↦ absurd (ht c hmem) (Nat.not_lt_of_le hc)

theorem mem_ofString_iff {s : String} (hs : IsAscii (Text.ofString s)) :
    c ∈ Text.ofString s ↔ False :=
  mem_iff_false hc hs

theorem mem_code_iff {name : Text} : c ∈ code name ↔ c ∈ name := by
  simp (disch := decide) only [code, List.mem_append, mem_ofString_iff hc, false_or, or_false]

theorem mem_bullets_iff {indent : Text} (hindent : IsAscii indent) {names : List Text} :
    c ∈ bullets indent names ↔ ∃ t ∈ names, c ∈ t := by
  simp (disch := decide) only [bullets, List.mem_flatMap, bullet, List.mem_append,
    mem_iff_false hc hindent, mem_ofString_iff hc, mem_code_iff hc, false_or, or_false]

theorem mem_namesUnder_iff {heading : Text} (hheading : IsAscii heading) {names : List Text} :
    c ∈ namesUnder heading names ↔ ∃ t ∈ names, c ∈ t := by
  have hbullets : c ∈ bullets [] names ↔ ∃ t ∈ names, c ∈ t := mem_bullets_iff hc (by decide)
  rw [namesUnder]
  split
  next hempty => simp [List.isEmpty_iff.mp hempty]
  next =>
    simp (disch := decide) only [List.mem_append, mem_iff_false hc hheading, hbullets,
      mem_ofString_iff hc, false_or, or_false]

theorem mem_librarySection_iff {usage : List LibraryUsage} :
    c ∈ librarySection usage ↔ ∃ u ∈ usage, c ∈ u.keyword := by
  rw [librarySection]
  split
  next hempty => simp [List.isEmpty_iff.mp hempty]
  next =>
    simp (disch := decide) only [List.mem_append, List.mem_flatMap, usageRow, mem_code_iff hc,
      mem_iff_false hc (isAscii_ofInt _), mem_ofString_iff hc, false_or, or_false]

theorem mem_relationshipsSection_iff {es : List (Text × List Text)} :
    c ∈ relationshipsSection es ↔ ∃ t ∈ entryTexts es, c ∈ t := by
  have hbullets : ∀ names, c ∈ bullets "  " names ↔ ∃ t ∈ names, c ∈ t := fun _ ↦
    mem_bullets_iff hc (by decide)
  have hrow : ∀ e, c ∈ relationship e ↔ ∃ t ∈ e.1 :: e.2, c ∈ t := by
    intro e
    simp (disch := decide) only [relationship, List.mem_append, mem_code_iff hc, hbullets,
      mem_ofString_iff hc, false_or, or_false, List.exists_mem_cons_iff]
  rw [relationshipsSection]
  split
  next hempty =>
    rw [List.isEmpty_iff.mp hempty]
    simp (disch := decide) [entryTexts, mem_ofString_iff hc]
  next =>
    rw [entryTexts, Text.exists_mem_flatMap_iff, List.mem_flatMap]
    simp only [hrow]

theorem mem_kindText_iff {external : Bool} : c ∈ kindText external ↔ False := by
  cases external
  case false => exact mem_ofString_iff hc (by decide)
  case true => exact mem_ofString_iff hc (by decide)

theorem mem_dependencyText_iff {names : List Text} :
    c ∈ dependencyText names ↔ ∃ t ∈ names, c ∈ t := by
  rw [dependencyText]
  split
  next hempty =>
    rw [List.isEmpty_iff.mp hempty]
    simp (disch := decide) [mem_ofString_iff hc]
  next =>
    simp (disch := decide) only [Text.mem_join_iff, List.mem_map, exists_exists_and_eq_and,
      mem_code_iff hc, mem_ofString_iff hc, false_and, or_false]

theorem mem_detailBlock_iff {d : BaseDetail} :
    c ∈ detailBlock d ↔ ∃ t ∈ d.name :: (d.dependencies ++ d.subPackages), c ∈ t := by
  have hsub : c ∈ namesUnder "Includes these sub-packages:" d.subPackages ↔
      ∃ t ∈ d.subPackages, c ∈ t := mem_namesUnder_iff hc (by decide)
  simp (disch := decide) only [detailBlock_eq, List.mem_append, mem_code_iff hc,
    mem_kindText_iff hc, mem_dependencyText_iff hc, hsub, mem_iff_false hc (isAscii_ofInt _),
    mem_ofString_iff hc, false_or, List.exists_mem_cons_iff, or_and_right, exists_or]

theorem mem_markdownText_iff {r : Report} : c ∈ r.markdownText ↔ ∃ t ∈ r.shownTexts, c ∈ t := by
  have hexternal : c ∈ namesUnder "### External Dependencies" r.externalPackages ↔
      ∃ t ∈ r.externalPackages, c ∈ t := mem_namesUnder_iff hc (by decide)
  have hinternal : c ∈ namesUnder "### Internal Packages" r.internalPackages ↔
      ∃ t ∈ r.internalPackages, c ∈ t := mem_namesUnder_iff hc (by decide)
  have hdetails : c ∈ r.details.flatMap detailBlock ↔
      ∃ t ∈ r.details.flatMap fun d ↦ d.name :: (d.dependencies ++ d.subPackages), c ∈ t := by
    rw [Text.exists_mem_flatMap_iff, List.mem_flatMap]
    simp only [mem_detailBlock_iff hc]
  simp (disch := decide) only [markdownText_eq, packagesSection, List.mem_append,
    mem_librarySection_iff hc, hexternal, hinternal, mem_relationshipsSection_iff hc, hdetails,
    mem_ofString_iff hc, false_or, or_false, shownTexts, List.mem_map, or_and_right, exists_or,
    exists_exists_and_eq_and, or_assoc]

end BeyondAscii

end Report

namespace Session

variable {s : Session} {c : CodePoint}

/-- Every code point of a base package comes from a package that has it. -/
theorem exists_package_of_mem_bases {b : Text} (hb : b ∈ s.build.bases.keys) (hc : c ∈ b) :
    ∃ p ∈ s.packages, CodePoint.ofChar '.' ∈ p ∧ c ∈ p := by
  obtain ⟨p, hp, hbase⟩ := mem_keys_bases_build.mp hb
  exact ⟨p, hp, BasePackage.exists_ofPackage_iff.mp ⟨b, hbase⟩,
    BasePackage.mem_of_mem_ofPackage hbase hc⟩

theorem mem_bases_of_mem_image {a b : Text} (hb : b ∈ s.build.baseDependencies.image a) :
    a ∈ s.build.bases.keys ∧ b ∈ s.build.bases.keys := by
  obtain ⟨-, p, q, -, hp, hq⟩ := mem_image_baseDependencies_build.mp hb
  exact ⟨mem_keys_bases_build.mpr ⟨p, hp⟩, mem_keys_bases_build.mpr ⟨q, hq⟩⟩

/-- A shown text is a keyword, a base package, or a member of one. -/
theorem mem_shownTexts_summarize {t : Text} (ht : t ∈ s.build.summarize.shownTexts) :
    t ∈ s.libraries ∨ t ∈ s.build.bases.keys ∨ ∃ b, t ∈ s.build.bases.image b := by
  have hbases : ∀ t ∈ s.build.summarize.externalPackages ++ s.build.summarize.internalPackages,
      t ∈ s.build.bases.keys := fun t ↦ perm_basePackages_summarize.mem_iff.mp
  simp only [Report.shownTexts, List.append_assoc, List.mem_append] at ht
  rcases ht with ht | ht | ht | ht | ht
  · left
    obtain ⟨u, hu, rfl⟩ := List.mem_map.mp ht
    obtain ⟨e, he, rfl⟩ := List.mem_map.mp hu
    obtain ⟨m, hm, rfl⟩ := List.mem_map.mp he
    exact List.mem_map.mpr ⟨m, hm, rfl⟩
  · exact Or.inr (Or.inl (hbases t (List.mem_append_left _ ht)))
  · exact Or.inr (Or.inl (hbases t (List.mem_append_right _ ht)))
  · right
    left
    rw [Report.entryTexts, List.mem_flatMap,
      dependencies_summarize noEmptyImage_baseDependencies_build] at ht
    obtain ⟨⟨a, ts⟩, he, ht⟩ := ht
    obtain ⟨ha, rfl⟩ := NameRelation.mem_toLists_iff.mp he
    rcases List.mem_cons.mp ht with rfl | ht
    · obtain ⟨b, hb⟩ := noEmptyImage_baseDependencies_build.mem_keys_iff.mp ha
      exact (mem_bases_of_mem_image hb).1
    · exact (mem_bases_of_mem_image ht).2
  · obtain ⟨d, hd, ht⟩ := List.mem_flatMap.mp ht
    obtain ⟨b, hb, rfl⟩ := mem_details_summarize.mp hd
    rcases List.mem_cons.mp ht with rfl | ht
    · exact Or.inr (Or.inl hb)
    · rcases List.mem_append.mp ht with ht | ht
      · exact Or.inr (Or.inl (mem_bases_of_mem_image ht).2)
      · exact Or.inr (Or.inr ⟨b, ht⟩)

/-- A code point is in some shown text just when it is in a library keyword or in a package with a
dot, which is a package that has a base package. -/
theorem exists_mem_shownTexts_iff :
    (∃ t ∈ s.build.summarize.shownTexts, c ∈ t) ↔
      (∃ k ∈ s.libraries, c ∈ k) ∨ ∃ p ∈ s.packages, CodePoint.ofChar '.' ∈ p ∧ c ∈ p := by
  constructor
  · rintro ⟨t, ht, hc⟩
    rcases mem_shownTexts_summarize ht with ht | ht | ⟨b, ht⟩
    · exact Or.inl ⟨t, ht, hc⟩
    · exact Or.inr (exists_package_of_mem_bases ht hc)
    · obtain ⟨hp, hb⟩ := mem_image_bases_build.mp ht
      exact Or.inr ⟨t, hp, BasePackage.exists_ofPackage_iff.mp ⟨b, hb⟩, hc⟩
  · rintro (⟨k, hk, hc⟩ | ⟨p, hp, hdot, hc⟩)
    · obtain ⟨m, hm, rfl⟩ := List.mem_map.mp hk
      refine ⟨m.1, ?_, hc⟩
      simp only [Report.shownTexts, List.append_assoc, List.mem_append]
      left
      exact List.mem_map.mpr ⟨⟨m.1, m.2.size⟩, List.mem_map.mpr ⟨(m.1, m.2.size),
        List.mem_map.mpr ⟨m, hm, rfl⟩, rfl⟩, rfl⟩
    · have hbased : ∃ b, BasePackage.ofPackage s.roots p = some b :=
        BasePackage.exists_ofPackage_iff.mpr hdot
      obtain ⟨b, hb⟩ := hbased
      refine ⟨p, ?_, hc⟩
      have hmember : p ∈ s.build.bases.image b := mem_image_bases_build.mpr ⟨hp, hb⟩
      have hbase : b ∈ s.build.bases.keys := mem_keys_bases_build.mpr ⟨p, hp, hb⟩
      simp only [Report.shownTexts, List.mem_append]
      right
      exact List.mem_flatMap.mpr ⟨_, mem_details_summarize.mpr ⟨b, hbase, rfl⟩,
        List.mem_cons_of_mem _ (List.mem_append_right _ hmember)⟩

end Session

end PackageRollup
