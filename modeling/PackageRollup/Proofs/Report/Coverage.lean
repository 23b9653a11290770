import PackageRollup.Proofs.Report.Coherence
import PackageRollup.Proofs.Session.Latecomers

/-!
# Packages that a report covers

The details of a report are made from the groups that the session has. A registered package with two
segments or more is in one detail, that of its base package, unless the groups are older than the
package; then it is in none.
-/

namespace PackageRollup

namespace Report

/-- The base packages whose details list a package. -/
def holders (r : Report) (p : Text) : List Text :=
  (r.details.filter fun d ↦ p ∈ d.subPackages).map (·.name)

/-- Each of the packages with two segments or more is in one detail, that of its base package, and
no other package is in a detail. -/
structure Covers (r : Report) (roots : NameSet) (packages : NameMap PackageInfo) : Prop where
  complete : ∀ p ∈ packages, 2 ≤ (Text.splitOn '.' p).length →
    ∃ b, BasePackage.ofPackage roots p = some b ∧ r.holders p = [b]
  sound : ∀ d ∈ r.details, ∀ p ∈ d.subPackages,
    p ∈ packages ∧ BasePackage.ofPackage roots p = some d.name

end Report

namespace Session

variable {libraries : List Text} {s : Session} {ops : List Operation} {p b : Text}

/-! ## The details of a finished session -/

theorem mem_holders_summarize : b ∈ s.summarize.holders p ↔ p ∈ s.bases.image b := by
  rw [Report.holders, mem_map_name_filter_details]
  constructor
  · rintro ⟨-, hp⟩
    exact of_decide_eq_true hp
  · intro hp
    obtain ⟨members, hfind, -⟩ := NameRelation.mem_image_iff.mp hp
    exact ⟨NameMap.mem_keys_iff.mpr ⟨members, hfind⟩, decide_eq_true hp⟩

theorem holders_summarize_eq_nil_iff :
    s.summarize.holders p = [] ↔ ∀ b, p ∉ s.bases.image b := by
  simp only [List.eq_nil_iff_forall_not_mem, mem_holders_summarize]

/-- A package that is in one group is in one detail. -/
theorem holders_summarize_eq_singleton (hp : p ∈ s.bases.image b)
    (hone : ∀ c, p ∈ s.bases.image c → c = b) : s.summarize.holders p = [b] := by
  have hnodup : (s.summarize.holders p).Nodup := ascending_map_name_filter_details.nodup
  rw [← List.perm_singleton, List.perm_ext_iff_of_nodup hnodup (List.nodup_singleton b)]
  intro c
  rw [mem_holders_summarize, List.mem_singleton]
  constructor
  · exact hone c
  · rintro rfl
    exact hp

/-! ## The report after any operations -/

theorem packages_report_session : s.report.session.packages = s.packages := by
  rw [report]
  split <;> rfl

theorem finished_report_session : s.report.session.finished = true := by
  rw [report]
  split
  · assumption
  · rfl

theorem misses_report_session_iff (h : s.WellFormed libraries) :
    s.report.session.Misses p ↔ s.Misses p := by
  have hstep : s.report.session.Misses p ↔ _ := (step_perform s .report).misses_iff h
  simp [hstep, AddsLate, Operation.added?]

section Start

variable {roots : NameSet}

theorem wellFormed_performAll_start (libraries : List Text) (roots : NameSet)
    (ops : List Operation) : ((start libraries roots).performAll ops).WellFormed libraries :=
  (wellFormed_start roots).performAll ops

theorem not_mem_bases_start {p b : Text} : p ∉ (start libraries roots).bases.image b :=
  NameSet.not_mem_empty p

theorem ofPackage_of_mem_bases_report
    (hp : p ∈ ((start libraries roots).performAll ops).report.session.bases.image b) :
    BasePackage.ofPackage roots p = some b := by
  have hbases : p ∈ ((start libraries roots).performAll (ops ++ [.report])).bases.image b := by
    rwa [performAll, List.foldl_append]
  exact ofPackage_of_mem_bases_performAll (fun _ _ hq ↦ absurd hq not_mem_bases_start) hbases

theorem misses_performAll_start_iff (hdot : CodePoint.ofChar '.' ∈ p) :
    ((start libraries roots).performAll ops).Misses p ↔
      (start libraries roots).RegistersLate ops p := by
  have hfresh : ¬ (start libraries roots).Misses p := by
    rintro ⟨hfinished, -⟩
    cases hfinished
  rw [misses_performAll_iff (wellFormed_start roots)]
  simp [hfresh, hdot]

theorem holders_report_of_registersLate (hb : BasePackage.ofPackage roots p = some b)
    (hlate : (start libraries roots).RegistersLate ops p) :
    ((start libraries roots).performAll ops).report.report.holders p = [] := by
  have hdot : CodePoint.ofChar '.' ∈ p := BasePackage.exists_ofPackage_iff.mp ⟨b, hb⟩
  have hmisses := (misses_performAll_start_iff hdot).mpr hlate
  have hs := wellFormed_performAll_start libraries roots ops
  exact holders_summarize_eq_nil_iff.mpr ((misses_report_session_iff hs).mpr hmisses).ungrouped

theorem holders_report_of_not_registersLate (hb : BasePackage.ofPackage roots p = some b)
    (hp : p ∈ ((start libraries roots).performAll ops).packages)
    (hlate : ¬ (start libraries roots).RegistersLate ops p) :
    ((start libraries roots).performAll ops).report.report.holders p = [b] := by
  have hdot : CodePoint.ofChar '.' ∈ p := BasePackage.exists_ofPackage_iff.mp ⟨b, hb⟩
  have hs := wellFormed_performAll_start libraries roots ops
  have hgrouped :
      ∃ c, p ∈ ((start libraries roots).performAll ops).report.session.bases.image c := by
    by_contra hnone
    rw [not_exists] at hnone
    apply hlate
    rw [← misses_performAll_start_iff hdot, ← misses_report_session_iff hs]
    exact ⟨finished_report_session, packages_report_session.symm ▸ hp, hdot, hnone⟩
  have hname : ∀ c, p ∈ ((start libraries roots).performAll ops).report.session.bases.image c →
      c = b := by
    intro c hc
    exact Option.some.inj ((ofPackage_of_mem_bases_report hc).symm.trans hb)
  obtain ⟨c, hc⟩ := hgrouped
  obtain rfl := hname c hc
  exact holders_summarize_eq_singleton hc hname

theorem of_mem_details_report {d : BaseDetail}
    (hd : d ∈ ((start libraries roots).performAll ops).report.report.details)
    (hp : p ∈ d.subPackages) :
    p ∈ ((start libraries roots).performAll ops).packages ∧
      BasePackage.ofPackage roots p = some d.name := by
  have ht := (wellFormed_performAll_start libraries roots ops).report
  obtain ⟨b, -, rfl⟩ := mem_details_summarize.mp hd
  exact ⟨packages_report_session ▸ ht.bases_registered b p hp, ofPackage_of_mem_bases_report hp⟩

end Start

/-- The report covers the packages of the session just if none of those with two segments or more
was registered in a finished session whose packages were not grouped anew. The packages of which
this is true are in no detail, and every other one is in that of its base package. -/
theorem report_covers_iff (libraries : List Text) (roots : NameSet) (ops : List Operation) :
    ∃ s r, (start libraries roots).performAll ops = s ∧ s.report.report = r ∧
      (r.Covers roots s.packages ↔
        ∀ p ∈ s.packages, 2 ≤ (Text.splitOn '.' p).length →
          ¬ (start libraries roots).RegistersLate ops p) ∧
      (∀ p ∈ s.packages, ∀ b, BasePackage.ofPackage roots p = some b →
        ((start libraries roots).RegistersLate ops p → r.holders p = []) ∧
          (¬ (start libraries roots).RegistersLate ops p → r.holders p = [b])) ∧
      ∀ d ∈ r.details, ∀ p ∈ d.subPackages,
        p ∈ s.packages ∧ BasePackage.ofPackage roots p = some d.name := by
  refine ⟨_, _, rfl, rfl, ⟨?_, ?_⟩, ?_, fun d hd p hp ↦ of_mem_details_report hd hp⟩
  · intro hcovers p hp hsegments hlate
    obtain ⟨b, hb, hholders⟩ := hcovers.complete p hp hsegments
    rw [holders_report_of_registersLate hb hlate] at hholders
    cases hholders
  · intro hnone
    refine ⟨fun p hp hsegments ↦ ?_, fun d hd p hp ↦ of_mem_details_report hd hp⟩
    obtain ⟨b, hb⟩ := BasePackage.exists_ofPackage_iff.mpr
      (Text.two_le_length_splitOn_iff.mp hsegments)
    exact ⟨b, hb, holders_report_of_not_registersLate hb hp (hnone p hp hsegments)⟩
  · intro p hp b hb
    exact ⟨holders_report_of_registersLate hb, holders_report_of_not_registersLate hb hp⟩

/-- A package that is added when the packages have been grouped is not in the report. -/
theorem report_misses_latecomer :
    ∃ s r, (start defaultLibraries (.ofList BasePackage.defaultRoots)).performAll
        [.build, .addPackage "a.b" "C" false] = s ∧ s.report.report = r ∧
      ("a.b" : Text) ∈ s.packages ∧
      BasePackage.ofPackage (.ofList BasePackage.defaultRoots) "a.b" = some "a.b" ∧
      r.details = [] ∧ ¬ r.Covers (.ofList BasePackage.defaultRoots) s.packages := by
  refine ⟨_, _, rfl, rfl, by decide +kernel, by decide +kernel, by decide +kernel, ?_⟩
  intro hcovers
  obtain ⟨b, -, hholders⟩ := hcovers.complete "a.b" (by decide +kernel) (by decide)
  have hnone : ∀ r : Report, r.details = [] → r.holders "a.b" = [] := by
    intro r hr
    rw [Report.holders, hr]
    rfl
  rw [hnone _ (by decide +kernel)] at hholders
  cases hholders

end Session

end PackageRollup
