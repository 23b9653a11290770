import Mathlib.Data.Finset.Card
import PackageRollup.Proofs.Name.List
import PackageRollup.Proofs.Report.Summary
import PackageRollup.Proofs.Text.Pieces

/-!
# The use of libraries

Every keyword comes with the set of the target classes that it has been found in so far. A class is
in the set as it was written, so the set is the part of all targets whose lower-case form has the
keyword in it, and its size is what is reported.
-/

namespace PackageRollup

/-- The targets of records, as they are written, that have a keyword in their lower-case form. -/
def Record.targetsWith (rs : List Record) (keyword : Text) : Finset Text :=
  (rs.map Record.targetClass).toFinset.filter fun target ↦ keyword <:+: Text.lower target

namespace Session

variable {libraries : List Text} {roots : NameSet} {rs : List Record}

/-- The set of a keyword after records that a fresh session has absorbed. -/
theorem size_foldl_matchTarget (keyword : Text) :
    (rs.foldl (fun e r ↦ matchTarget r.targetClass e) (keyword, NameSet.empty)).2.size =
      (Record.targetsWith rs keyword).card := by
  rw [NameSet.size, ← List.toFinset_card_of_nodup (NameSet.nodup_toList _)]
  congr 1
  ext target
  rw [List.mem_toFinset, ← NameSet.mem_def, mem_foldl_matchTarget, Text.occursIn_iff]
  simp only [NameSet.not_mem_empty, false_or, Record.targetsWith, Finset.mem_filter,
    List.mem_toFinset, List.mem_map]
  constructor
  · rintro ⟨r, hr, rfl, hmatch⟩
    exact ⟨⟨r, hr, rfl⟩, hmatch⟩
  · rintro ⟨⟨r, hr, rfl⟩, hmatch⟩
    exact ⟨r, hr, rfl, hmatch⟩

theorem libraryUsage_absorbAll_start :
    ((start libraries roots).absorbAll rs).libraryUsage =
      (NameList.normalize libraries).map fun k ↦ (k, (Record.targetsWith rs k).card) := by
  rw [libraryUsage, matched_absorbAll, start, List.map_map, List.map_map]
  apply List.map_congr_left
  intro keyword _
  dsimp only [Function.comp_apply]
  rw [foldl_matchTarget_fst, size_foldl_matchTarget]

theorem libraryUsage_report_start :
    ((start libraries roots).absorbAll rs).report.report.libraryUsage =
      (NameList.normalize libraries).map fun k ↦ ⟨k, (Record.targetsWith rs k).card⟩ := by
  have husage : ((start libraries roots).absorbAll rs).libraryUsage = _ :=
    libraryUsage_absorbAll_start
  have hbuilt : ((start libraries roots).absorbAll rs).build.libraryUsage =
      ((start libraries roots).absorbAll rs).libraryUsage := rfl
  rw [report_eq finished_start, summarize, hbuilt, husage, List.map_map]
  rfl

/-- A fresh session takes all records, and counts for every keyword the different targets that have
it in their lower-case form; the keywords are the configured names, trimmed and in lower case. -/
theorem libraryUsage_counts_targets (libraries : List Text) (roots : NameSet)
    (rs : List Record) :
    ∃ s keywords, (start libraries roots).ingestAll rs = .ok s ∧
      NameList.FirstOccurrences (libraries.map fun name ↦ Text.lower (Text.trim name)) keywords ∧
      s.libraryUsage = keywords.map (fun k ↦ (k, (Record.targetsWith rs k).card)) ∧
      s.report.report.libraryUsage =
        keywords.map (fun k ↦ ⟨k, (Record.targetsWith rs k).card⟩) ∧
      (s.libraryUsage = [] ↔ ∀ name ∈ libraries, Text.lower (Text.trim name) = []) := by
  have hkeywords := NameList.firstOccurrences_normalize libraries
  refine ⟨_, _, ingestAll_start, hkeywords, libraryUsage_absorbAll_start,
    libraryUsage_report_start, ?_⟩
  rw [libraryUsage_absorbAll_start, List.map_eq_nil_iff, List.eq_nil_iff_forall_not_mem]
  simp only [hkeywords.mem_iff, List.mem_map]
  constructor
  · intro hnone name hname
    by_contra hne
    exact hnone _ ⟨⟨name, hname, rfl⟩, hne⟩
  · rintro hempty _ ⟨⟨name, hname, rfl⟩, hne⟩
    exact hne (hempty name hname)

end Session

end PackageRollup
