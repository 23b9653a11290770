import Mathlib.Algebra.BigOperators.Group.List.Basic
import PackageRollup.Proofs.Report.Summary
import PackageRollup.Proofs.Session.WellFormed

/-!
# Coherent reports

A report looks up the packages of every base package and the classes of every library keyword.
`report?` is the report for which a look-up without an entry is an error. On a well-formed session
it is the report itself, and the parts of the report fit each other; so this is the case after any
operations.
-/

namespace PackageRollup

/-- What a report can look for in vain. -/
inductive MissingEntry where
  | package (name : Text)
  | keyword (name : Text)

namespace Session

def classCount? (s : Session) (package : Text) : Except MissingEntry Nat :=
  match s.packages.find? package with
  | some info => .ok info.classes.size
  | none => .error (.package package)

def usage? (s : Session) (keyword : Text) : Except MissingEntry LibraryUsage :=
  match NameMap.findIn keyword s.matched with
  | some classes => .ok ⟨keyword, classes.size⟩
  | none => .error (.keyword keyword)

def detail? (s : Session) (flags : NameMap Bool) (base : Text) (members : NameSet) :
    Except MissingEntry BaseDetail := do
  let counts ← members.toList.mapM s.classCount?
  return {
    name := base
    external := isExternalBase members.toList flags
    subPackageCount := members.size
    classCount := (counts.foldr (· + ·) 0 : Nat)
    dependencies := (s.baseDependencies.image base).toList
    subPackages := members.toList }

def summarize? (s : Session) : Except MissingEntry Report := do
  let usage ← s.libraries.mapM s.usage?
  let details ← s.bases.entries.mapM fun (base, members) ↦ s.detail? s.externalFlags base members
  return {
    libraryUsage := usage
    externalPackages := (details.filter (·.external)).map (·.name)
    internalPackages := (details.filter (!·.external)).map (·.name)
    dependencies := s.baseDependencies.toLists.filter fun e ↦ !e.2.isEmpty
    details := details
    artifactPackages := s.artifacts.toLists }

/-- The report on a session, if it finds all that it looks up. -/
def report? (s : Session) : Except MissingEntry Report :=
  (if s.finished then s else s.build).summarize?

end Session

/-- The parts of a report fit each other. -/
structure Report.Coherent (r : Report) : Prop where
  external_ascending : Text.Ascending r.externalPackages
  internal_ascending : Text.Ascending r.internalPackages
  disjoint : ∀ b ∈ r.externalPackages, b ∉ r.internalPackages
  basePackages : r.basePackages = r.details.map (·.name)
  basePackages_ascending : Text.Ascending r.basePackages
  /-- The list that a base package is on is told by its detail. -/
  details_external : ∀ d ∈ r.details,
    (d.external = true ↔ d.name ∈ r.externalPackages) ∧
      (d.external = false ↔ d.name ∈ r.internalPackages)
  /-- The dependencies of a base package are in its detail as well. -/
  details_dependencies : ∀ d ∈ r.details,
    d.dependencies = (NameMap.findIn d.name r.dependencies).getD []
  details_subPackages : ∀ d ∈ r.details, d.subPackages ≠ [] ∧ Text.Ascending d.subPackages
  /-- No package is part of two base packages. -/
  details_disjoint : ∀ d ∈ r.details, ∀ e ∈ r.details,
    ∀ p ∈ d.subPackages, p ∈ e.subPackages → d.name = e.name
  /-- Every package has a class. -/
  details_counts : ∀ d ∈ r.details,
    d.subPackageCount = d.subPackages.length ∧ d.subPackageCount ≤ d.classCount
  dependencies_ascending : Text.Ascending (r.dependencies.map Prod.fst)
  dependencies_targets : ∀ e ∈ r.dependencies, e.2 ≠ [] ∧ Text.Ascending e.2
  /-- Sources and targets are base packages, and never the same one. -/
  dependencies_bases : ∀ e ∈ r.dependencies,
    e.1 ∈ r.basePackages ∧ ∀ b ∈ e.2, b ∈ r.basePackages ∧ b ≠ e.1
  artifacts_ascending : Text.Ascending (r.artifactPackages.map Prod.fst)
  artifacts_packages : ∀ e ∈ r.artifactPackages, e.2 ≠ [] ∧ Text.Ascending e.2

namespace Session

variable {libraries : List Text} {s : Session}

/-! ## Nothing is looked up in vain -/

theorem mapM_eq_ok {α β ε : Type} {f : α → Except ε β} {g : α → β} {as : List α}
    (h : ∀ a ∈ as, f a = .ok (g a)) : as.mapM f = .ok (as.map g) := by
  induction as with
  | nil => rfl
  | cons a as ih =>
      rw [List.forall_mem_cons] at h
      rw [List.mapM_cons, h.1, ih h.2]
      rfl

theorem classCount?_eq {p : Text} (hp : p ∈ s.packages) :
    s.classCount? p = .ok (s.classCount p) := by
  obtain ⟨info, hinfo⟩ := Option.isSome_iff_exists.mp (NameMap.mem_iff_find?_isSome.mp hp)
  simp [classCount?, classCount, hinfo]

theorem WellFormed.nodup_libraries (h : s.WellFormed libraries) : s.libraries.Nodup := by
  rw [h.libraries]
  exact NameList.nodup_normalize libraries

theorem WellFormed.mapM_usage? (h : s.WellFormed libraries) :
    s.libraries.mapM s.usage? =
      .ok (s.libraryUsage.map fun (keyword, count) ↦ ⟨keyword, count⟩) := by
  have hstep : ∀ e ∈ s.matched, s.usage? e.1 = .ok ⟨e.1, e.2.size⟩ := by
    intro e he
    have hfind : NameMap.findIn e.1 s.matched = some e.2 :=
      (NameMap.findIn_eq_some_iff h.nodup_libraries).mpr he
    simp [usage?, hfind]
  rw [Session.libraries, List.mapM_map, libraryUsage, List.map_map]
  exact mapM_eq_ok hstep

theorem WellFormed.detail?_eq (h : s.WellFormed libraries) {e : Text × NameSet}
    (he : e ∈ s.bases.entries) :
    s.detail? s.externalFlags e.1 e.2 = .ok (s.detail s.externalFlags e.1 e.2) := by
  have hfind := NameMap.mem_entries_iff.mp he
  have hcounts : e.2.toList.mapM s.classCount? = .ok (e.2.toList.map s.classCount) := by
    apply mapM_eq_ok
    intro p hp
    apply classCount?_eq
    apply h.bases_registered e.1 p
    rw [NameRelation.image_eq_of_find? hfind]
    exact hp
  rw [detail?, hcounts]
  rfl

theorem WellFormed.summarize?_eq (h : s.WellFormed libraries) :
    s.summarize? = .ok s.summarize := by
  have hdetails : (s.bases.entries.mapM fun (base, members) ↦
      s.detail? s.externalFlags base members) =
        .ok (s.bases.entries.map fun (base, members) ↦
          s.detail s.externalFlags base members) :=
    mapM_eq_ok fun e he ↦ h.detail?_eq he
  rw [summarize?, h.mapM_usage?, hdetails]
  rfl

/-! ## What is found fits -/

theorem ascending_map_name_filter_details {q : BaseDetail → Bool} :
    Text.Ascending ((s.summarize.details.filter q).map (·.name)) := by
  have hkeys : Text.Ascending (s.summarize.details.map (·.name)) :=
    map_name_details_summarize ▸ NameMap.keys_ascending _
  exact hkeys.sublist (List.filter_sublist.map _)

/-- Every package has a class, so there are no more packages than classes. -/
theorem WellFormed.size_le_sum_classCount (h : s.WellFormed libraries) {members : NameSet}
    (hmembers : ∀ p ∈ members, p ∈ s.packages) :
    members.size ≤ (members.toList.map s.classCount).foldr (· + ·) 0 := by
  have hone : ∀ n ∈ members.toList.map s.classCount, 1 ≤ n := by
    intro n hn
    obtain ⟨p, hp, rfl⟩ := List.mem_map.mp hn
    obtain ⟨info, hinfo⟩ := Option.isSome_iff_exists.mp
      (NameMap.mem_iff_find?_isSome.mp (hmembers p hp))
    obtain ⟨_, c, hc⟩ := h.packages p info hinfo
    have hcount : s.classCount p = info.classes.size := by simp [classCount, hinfo]
    rw [hcount]
    exact List.length_pos_of_mem hc
  have hle := List.length_le_sum_of_one_le _ hone
  rwa [List.length_map, List.sum_eq_foldr] at hle

theorem WellFormed.coherent_summarize (h : s.WellFormed libraries) : s.summarize.Coherent where
  external_ascending := ascending_map_name_filter_details
  internal_ascending := ascending_map_name_filter_details
  disjoint := by
    intro b hexternal hinternal
    exact (mem_internalPackages_summarize.mp hinternal).2
      (mem_externalPackages_summarize.mp hexternal).2
  basePackages := by rw [basePackages_summarize, map_name_details_summarize]
  basePackages_ascending := by
    rw [basePackages_summarize]
    exact NameMap.keys_ascending _
  details_external := fun d hd ↦ external_mem_details_summarize hd
  details_dependencies := by
    intro d hd
    obtain ⟨b, _, rfl⟩ := mem_details_summarize.mp hd
    rw [dependencies_summarize h.edges_nonempty, NameRelation.findIn_toLists]
    rfl
  details_subPackages := by
    intro d hd
    obtain ⟨b, hb, rfl⟩ := mem_details_summarize.mp hd
    obtain ⟨p, hp⟩ := h.bases_nonempty.mem_keys_iff.mp hb
    exact ⟨List.ne_nil_of_mem hp, NameSet.ascending _⟩
  details_disjoint := by
    intro d hd e he p hp hp'
    obtain ⟨b, _, rfl⟩ := mem_details_summarize.mp hd
    obtain ⟨c, _, rfl⟩ := mem_details_summarize.mp he
    exact h.bases_disjoint b c p hp hp'
  details_counts := by
    intro d hd
    obtain ⟨b, hb, rfl⟩ := mem_details_summarize.mp hd
    exact ⟨rfl, Int.ofNat_le.mpr (h.size_le_sum_classCount fun p ↦ h.bases_registered b p)⟩
  dependencies_ascending := by
    rw [dependencies_summarize h.edges_nonempty, NameRelation.map_fst_toLists]
    exact NameMap.keys_ascending _
  dependencies_targets := by
    rw [dependencies_summarize h.edges_nonempty]
    intro e he
    exact ⟨h.edges_nonempty.ne_nil_of_mem_toLists he, NameRelation.ascending_of_mem_toLists he⟩
  dependencies_bases := by
    rw [dependencies_summarize h.edges_nonempty, basePackages_summarize]
    intro e he
    obtain ⟨hkey, htargets⟩ := NameRelation.mem_toLists_iff.mp he
    constructor
    · obtain ⟨b, hb⟩ := h.edges_nonempty.mem_keys_iff.mp hkey
      exact (h.edges_bases e.1 b hb).1
    · intro b hb
      rw [htargets] at hb
      refine ⟨(h.edges_bases e.1 b hb).2, ?_⟩
      rintro rfl
      exact h.edges_irreflexive _ hb
  artifacts_ascending := by
    have hartifacts : s.summarize.artifactPackages = s.artifacts.toLists := rfl
    rw [hartifacts, NameRelation.map_fst_toLists]
    exact NameMap.keys_ascending _
  artifacts_packages := fun e he ↦
    ⟨h.artifacts_nonempty.ne_nil_of_mem_toLists he, NameRelation.ascending_of_mem_toLists he⟩

/-- After any operations a session is well-formed, a report finds all that it looks up, and its
parts fit each other. -/
theorem coherent_report_performAll (libraries : List Text) (roots : NameSet)
    (ops : List Operation) :
    ((start libraries roots).performAll ops).WellFormed libraries ∧
      ((start libraries roots).performAll ops).report? =
        .ok ((start libraries roots).performAll ops).report.report ∧
      ((start libraries roots).performAll ops).report.report.Coherent := by
  have h : ((start libraries roots).performAll ops).WellFormed libraries :=
    (wellFormed_start roots).performAll ops
  generalize (start libraries roots).performAll ops = s at h
  refine ⟨h, ?_⟩
  rw [report?, report]
  split
  · exact ⟨h.summarize?_eq, h.coherent_summarize⟩
  · exact ⟨h.build.summarize?_eq, h.build.coherent_summarize⟩

end Session

end PackageRollup
