import PackageRollup.Proofs.Report.Dependencies
import PackageRollup.Proofs.Report.Details
import PackageRollup.Proofs.Report.Traversal
import PackageRollup.Report.Rendering

/-!
# Order and repetition of records

Two sequences of records that make the same calls give reports that differ in the classification at
most. What a report says apart from it depends on which calls there are, but not on their order,
their number or the groups of their artifacts.
-/

namespace PackageRollup

/-- What a record says apart from the group of its artifact. -/
def Record.call (r : Record) : Text × Text × Text := (r.sourceClass, r.targetClass, r.artifactId)

/-- A record of which nothing is known beyond what it must have. -/
def Record.plain (source target artifact group : Text) : Record :=
  ⟨source, target, artifact, group, none, none, none, none, none, none⟩

/-- A detail without its place in the classification. -/
def BaseDetail.unclassified (d : BaseDetail) : BaseDetail := { d with external := false }

namespace Record

variable {xs ys : List Record}

/-- The records make the same calls, in whatever order and however often. -/
def SameCalls (xs ys : List Record) : Prop := ∀ c, c ∈ xs.map call ↔ c ∈ ys.map call

theorem SameCalls.exists_mem (h : SameCalls xs ys) {p : Record → Prop}
    (hp : ∀ r t, r.call = t.call → p r → p t) : (∃ r ∈ xs, p r) ↔ ∃ r ∈ ys, p r := by
  constructor
  · rintro ⟨r, hr, hpr⟩
    obtain ⟨t, ht, hcall⟩ := List.mem_map.mp ((h r.call).mp (List.mem_map_of_mem hr))
    exact ⟨t, ht, hp r t hcall.symm hpr⟩
  · rintro ⟨r, hr, hpr⟩
    obtain ⟨t, ht, hcall⟩ := List.mem_map.mp ((h r.call).mpr (List.mem_map_of_mem hr))
    exact ⟨t, ht, hp r t hcall.symm hpr⟩

theorem call_eq_iff {r t : Record} :
    r.call = t.call ↔
      r.sourceClass = t.sourceClass ∧ r.targetClass = t.targetClass ∧
        r.artifactId = t.artifactId := by
  simp [call]

theorem SameCalls.mem_allClassNames (h : SameCalls xs ys) {name : Text} :
    name ∈ allClassNames xs ↔ name ∈ allClassNames ys := by
  simp only [allClassNames, List.mem_flatMap]
  apply h.exists_mem
  intro r t hcall hname
  obtain ⟨hsource, htarget, _⟩ := call_eq_iff.mp hcall
  rwa [classNames, ← hsource, ← htarget]

theorem SameCalls.mem_allPackages (h : SameCalls xs ys) {p : Text} :
    p ∈ allPackages xs ↔ p ∈ allPackages ys := by
  simp only [mem_allPackages_iff, h.mem_allClassNames]

end Record

namespace Session

variable {libraries : List Text} {roots : NameSet} {xs ys : List Record}

/-! ## What a session keeps of the calls -/

section SameCalls

variable (h : Record.SameCalls xs ys)
include h

theorem bases_eq_of_sameCalls :
    ((start libraries roots).absorbAll xs).build.bases =
      ((start libraries roots).absorbAll ys).build.bases := by
  apply BasePackage.noEmptyImage_group.eq_of_mem_image_iff BasePackage.noEmptyImage_group
  intro b p
  have hmem : p ∈ Record.allPackages xs ∧ BasePackage.ofPackage roots p = some b ↔
      p ∈ Record.allPackages ys ∧ BasePackage.ofPackage roots p = some b :=
    and_congr_left' h.mem_allPackages
  exact mem_image_bases_start.trans (hmem.trans mem_image_bases_start.symm)

theorem baseDependencies_eq_of_sameCalls :
    ((start libraries roots).absorbAll xs).build.baseDependencies =
      ((start libraries roots).absorbAll ys).build.baseDependencies := by
  apply noEmptyImage_baseDependencies_build.eq_of_mem_image_iff noEmptyImage_baseDependencies_build
  intro a b
  rw [mem_image_baseDependencies_start, mem_image_baseDependencies_start]
  apply and_congr_right
  intro _
  apply h.exists_mem
  rintro r t hcall ⟨ha, hb⟩
  obtain ⟨hsource, htarget, _⟩ := Record.call_eq_iff.mp hcall
  rw [Record.sourcePackage, Record.targetPackage, ← hsource, ← htarget]
  exact ⟨ha, hb⟩

theorem artifacts_eq_of_sameCalls :
    ((start libraries roots).absorbAll xs).artifacts =
      ((start libraries roots).absorbAll ys).artifacts := by
  apply noEmptyImage_artifacts_start.eq_of_mem_image_iff noEmptyImage_artifacts_start
  intro a p
  rw [mem_image_artifacts_start, mem_image_artifacts_start]
  apply h.exists_mem
  rintro r t hcall ⟨ha, hp⟩
  obtain ⟨hsource, htarget, hartifact⟩ := Record.call_eq_iff.mp hcall
  rw [Record.packages, Record.sourcePackage, Record.targetPackage, ← hsource, ← htarget,
    ← hartifact]
  exact ⟨ha, hp⟩

theorem matched_eq_of_sameCalls :
    ((start libraries roots).absorbAll xs).matched =
      ((start libraries roots).absorbAll ys).matched := by
  rw [matched_absorbAll, matched_absorbAll]
  apply List.map_congr_left
  intro e _
  apply Prod.ext
  · rw [foldl_matchTarget_fst, foldl_matchTarget_fst]
  · apply NameSet.ext
    intro c
    rw [mem_foldl_matchTarget, mem_foldl_matchTarget]
    apply or_congr_right
    apply h.exists_mem
    rintro r t hcall ⟨htarget, hmatch⟩
    exact ⟨(Record.call_eq_iff.mp hcall).2.1 ▸ htarget, hmatch⟩

theorem classCount_eq_of_sameCalls (p : Text) :
    ((start libraries roots).absorbAll xs).classCount p =
      ((start libraries roots).absorbAll ys).classCount p := by
  have hclasses : ((start libraries roots).absorbAll xs).classesOf p =
      ((start libraries roots).absorbAll ys).classesOf p := by
    apply NameSet.ext
    intro c
    rw [mem_classesOf_start, mem_classesOf_start]
    simp only [h.mem_allClassNames]
  rw [classCount_eq, classCount_eq, hclasses]

end SameCalls

/-! ## What the report says of it -/

theorem libraryUsage_summarize_of_matched {s t : Session} (h : s.matched = t.matched) :
    s.summarize.libraryUsage = t.summarize.libraryUsage := by
  simp only [summarize, libraryUsage, h]

/-- The flags of the packages count for nothing but the classification. -/
theorem map_unclassified_details {s t : Session} (hbases : s.bases = t.bases)
    (hedges : s.baseDependencies = t.baseDependencies)
    (hclasses : ∀ p, s.classCount p = t.classCount p) :
    s.summarize.details.map BaseDetail.unclassified =
      t.summarize.details.map BaseDetail.unclassified := by
  have hcount : s.classCount = t.classCount := funext hclasses
  simp only [summarize, List.map_map, hbases]
  apply List.map_congr_left
  rintro ⟨b, members⟩ _
  simp [BaseDetail.unclassified, detail, hedges, hcount]

/-- Whatever the order in which packages, dependencies and artifacts are gone through, sessions that
take the same calls are reported alike apart from the classification, and sessions that take the
same records are reported and printed alike. -/
theorem reportAlong_of_sameCalls (libraries : List Text) (roots : NameSet) {xs ys : List Record}
    (h : Record.SameCalls xs ys) :
    ∃ s t, (start libraries roots).ingestAll xs = .ok s ∧
      (start libraries roots).ingestAll ys = .ok t ∧
      (∀ σ : Traversal s, s.reportAlong σ = s.report.report) ∧
      (∀ τ : Traversal t, t.reportAlong τ = t.report.report) ∧
      ∀ (σ : Traversal s) (τ : Traversal t),
        (s.reportAlong σ).libraryUsage = (t.reportAlong τ).libraryUsage ∧
        (s.reportAlong σ).basePackages = (t.reportAlong τ).basePackages ∧
        (s.reportAlong σ).dependencies = (t.reportAlong τ).dependencies ∧
        (s.reportAlong σ).artifactPackages = (t.reportAlong τ).artifactPackages ∧
        (s.reportAlong σ).details.map BaseDetail.unclassified =
          (t.reportAlong τ).details.map BaseDetail.unclassified ∧
        (xs = ys → s.reportAlong σ = t.reportAlong τ ∧
          (s.reportAlong σ).markdownText = (t.reportAlong τ).markdownText ∧
          (s.reportAlong σ).jsonText = (t.reportAlong τ).jsonText) := by
  refine ⟨_, _, ingestAll_start, ingestAll_start, ?_, ?_, ?_⟩
  · intro σ
    rw [reportAlong_eq, report_eq finished_start]
  · intro τ
    rw [reportAlong_eq, report_eq finished_start]
  · intro σ τ
    simp only [reportAlong_eq]
    have hbases : ((start libraries roots).absorbAll xs).build.bases =
        ((start libraries roots).absorbAll ys).build.bases := bases_eq_of_sameCalls h
    have hedges : ((start libraries roots).absorbAll xs).build.baseDependencies =
        ((start libraries roots).absorbAll ys).build.baseDependencies :=
      baseDependencies_eq_of_sameCalls h
    refine ⟨libraryUsage_summarize_of_matched (matched_eq_of_sameCalls h), ?_, ?_, ?_,
      map_unclassified_details hbases hedges ?_, ?_⟩
    · rw [basePackages_summarize, basePackages_summarize, hbases]
    · rw [dependencies_summarize noEmptyImage_baseDependencies_build,
        dependencies_summarize noEmptyImage_baseDependencies_build, hedges]
    · exact congrArg NameRelation.toLists (artifacts_eq_of_sameCalls h)
    · exact classCount_eq_of_sameCalls h
    · rintro rfl
      exact ⟨rfl, rfl, rfl⟩

/-- The order, a repetition and other groups leave the details alone, but not the classification. -/
theorem reportAlong_of_sameCalls_regrouped :
    Record.SameCalls
        [.plain "com.a.b.C" "java.util.List" "m" "com", .plain "x.y.Z" "[Lcom.a.b.C;" "n" "[L"]
        [.plain "x.y.Z" "[Lcom.a.b.C;" "n" "x", .plain "com.a.b.C" "java.util.List" "m" "java",
          .plain "x.y.Z" "[Lcom.a.b.C;" "n" "n"] ∧
      ∃ s t, (start defaultLibraries (.ofList BasePackage.defaultRoots)).ingestAll
          [.plain "com.a.b.C" "java.util.List" "m" "com", .plain "x.y.Z" "[Lcom.a.b.C;" "n" "[L"] =
            .ok s ∧
        (start defaultLibraries (.ofList BasePackage.defaultRoots)).ingestAll
          [.plain "x.y.Z" "[Lcom.a.b.C;" "n" "x", .plain "com.a.b.C" "java.util.List" "m" "java",
            .plain "x.y.Z" "[Lcom.a.b.C;" "n" "n"] = .ok t ∧
        s.report.report.details.map BaseDetail.unclassified =
          t.report.report.details.map BaseDetail.unclassified ∧
        s.report.report.externalPackages = ["java.util"] ∧
        t.report.report.externalPackages = ["com.a.b"] := by
  have h : Record.SameCalls
      [.plain "com.a.b.C" "java.util.List" "m" "com", .plain "x.y.Z" "[Lcom.a.b.C;" "n" "[L"]
      [.plain "x.y.Z" "[Lcom.a.b.C;" "n" "x", .plain "com.a.b.C" "java.util.List" "m" "java",
        .plain "x.y.Z" "[Lcom.a.b.C;" "n" "n"] := by
    intro c
    simp only [List.map_cons, List.map_nil, Record.call, Record.plain, List.mem_cons,
      List.not_mem_nil, or_false]
    tauto
  obtain ⟨s, t, hs, ht, hσ, hτ, hall⟩ := reportAlong_of_sameCalls defaultLibraries
    (.ofList BasePackage.defaultRoots) h
  obtain ⟨_, _, _, _, hdetails, _⟩ := hall default default
  rw [hσ, hτ] at hdetails
  refine ⟨h, s, t, hs, ht, hdetails, ?_, ?_⟩
  · cases ingestAll_start.symm.trans hs
    decide +kernel
  · cases ingestAll_start.symm.trans ht
    decide +kernel

end Session

end PackageRollup
