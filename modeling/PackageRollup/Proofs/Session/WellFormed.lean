import PackageRollup.Proofs.BasePackage
import PackageRollup.Proofs.Session.Records
import PackageRollup.Report.Basic

/-!
# Sessions under any operations

The operations on a session can come in any order, and some of them can fail: a finished session
refuses records, and a line can go beyond a limit of the JSON reader. `WellFormed` is what holds
between the parts of a session all the same. It holds at the start, every operation keeps it,
and so it holds after any operations.
-/

namespace PackageRollup

namespace Session

/-! ## Operations -/

/-- What can be asked of a session. -/
inductive Operation where
  | ingest (r : Record)
  | ingestLines (lines : List Text)
  | addPackage (name simple : Text) (external : Bool)
  | countLibraries (target : Text)
  | build
  | report

/-- The session after an operation, whether it failed or not. A record that is refused leaves the
session as it was. -/
def perform (s : Session) : Operation → Session
  | .ingest r =>
    match s.ingest r with
    | .ok t => t
    | .error _ => s
  | .ingestLines lines => (s.ingestLines lines).session
  | .addPackage name simple external => s.addPackage name simple external
  | .countLibraries target => s.countLibraries target
  | .build => s.build
  | .report => s.report.session

def performAll (s : Session) (ops : List Operation) : Session := ops.foldl perform s

/-! ## Well-formed sessions -/

/-- What is always true of a session with the given libraries. -/
structure WellFormed (libraries : List Text) (s : Session) : Prop where
  /-- Packages are registered under their own names, and with some class. -/
  packages : ∀ p info, s.packages.find? p = some info → info.name = p ∧ ∃ c, c ∈ info.classes
  /-- No package depends on itself. -/
  dependencies_irreflexive : ∀ a, a ∉ s.dependencies.image a
  dependencies_nonempty : s.dependencies.NoEmptyImage
  /-- Both ends of a dependency are registered. -/
  dependencies_registered : ∀ a b, b ∈ s.dependencies.image a → a ∈ s.packages ∧ b ∈ s.packages
  artifacts_nonempty : s.artifacts.NoEmptyImage
  artifacts_registered : ∀ a p, p ∈ s.artifacts.image a → p ∈ s.packages
  /-- Classes are kept for the configured keywords and no others. -/
  libraries : s.libraries = NameList.normalize libraries
  bases_nonempty : s.bases.NoEmptyImage
  bases_registered : ∀ b p, p ∈ s.bases.image b → p ∈ s.packages
  /-- No package belongs to two base packages. -/
  bases_disjoint : ∀ b c p, p ∈ s.bases.image b → p ∈ s.bases.image c → b = c
  edges_irreflexive : ∀ a, a ∉ s.baseDependencies.image a
  edges_nonempty : s.baseDependencies.NoEmptyImage
  /-- Both ends of a dependency between base packages are base packages. -/
  edges_bases : ∀ a b, b ∈ s.baseDependencies.image a → a ∈ s.bases ∧ b ∈ s.bases

variable {libraries : List Text} {s : Session}

theorem wellFormed_start (roots : NameSet) : (start libraries roots).WellFormed libraries where
  packages := by
    intro p info h
    cases h
  dependencies_irreflexive := fun _ ↦ NameSet.not_mem_empty _
  dependencies_nonempty := NameRelation.noEmptyImage_empty
  dependencies_registered := fun _ b h ↦ absurd h (NameSet.not_mem_empty b)
  artifacts_nonempty := NameRelation.noEmptyImage_empty
  artifacts_registered := fun _ p h ↦ absurd h (NameSet.not_mem_empty p)
  libraries := by simp [Session.libraries, start, Function.comp_def]
  bases_nonempty := NameRelation.noEmptyImage_empty
  bases_registered := fun _ p h ↦ absurd h (NameSet.not_mem_empty p)
  bases_disjoint := fun _ _ p h ↦ absurd h (NameSet.not_mem_empty p)
  edges_irreflexive := fun _ ↦ NameSet.not_mem_empty _
  edges_nonempty := NameRelation.noEmptyImage_empty
  edges_bases := fun _ b h ↦ absurd h (NameSet.not_mem_empty b)

/-! ## The parts of ingesting -/

section Steps

variable (h : s.WellFormed libraries)
include h

/-- Counting changes nothing that is spoken of here. -/
theorem WellFormed.withCounts (counts : Counts) :
    ({ s with counts := counts } : Session).WellFormed libraries := { h with }

theorem WellFormed.addPackage (name simple : Text) (external : Bool) :
    (s.addPackage name simple external).WellFormed libraries where
  packages := by
    intro p info hinfo
    rw [Session.addPackage, NameMap.find?_update] at hinfo
    split at hinfo
    next hp =>
      cases hfound : s.packages.find? name with
      | none =>
          rw [hfound] at hinfo
          cases hinfo
          exact ⟨hp.symm, simple, by simp⟩
      | some old =>
          rw [hfound] at hinfo
          cases hinfo
          exact ⟨(h.packages name old hfound).1.trans hp.symm, simple, by simp⟩
    next => exact h.packages p info hinfo
  dependencies_irreflexive := h.dependencies_irreflexive
  dependencies_nonempty := h.dependencies_nonempty
  dependencies_registered := by
    intro a b hb
    obtain ⟨hsource, htarget⟩ := h.dependencies_registered a b hb
    exact ⟨NameMap.mem_update.mpr (Or.inr hsource), NameMap.mem_update.mpr (Or.inr htarget)⟩
  artifacts_nonempty := h.artifacts_nonempty
  artifacts_registered := fun a p hp ↦
    NameMap.mem_update.mpr (Or.inr (h.artifacts_registered a p hp))
  libraries := h.libraries
  bases_nonempty := h.bases_nonempty
  bases_registered := fun b p hp ↦ NameMap.mem_update.mpr (Or.inr (h.bases_registered b p hp))
  bases_disjoint := h.bases_disjoint
  edges_irreflexive := h.edges_irreflexive
  edges_nonempty := h.edges_nonempty
  edges_bases := h.edges_bases

theorem WellFormed.addDependency {source target : Text} (hsource : source ∈ s.packages)
    (htarget : target ∈ s.packages) : (s.addDependency source target).WellFormed libraries := by
  rw [Session.addDependency]
  split
  · exact h
  next hne =>
    refine { h with dependencies_irreflexive := ?_, dependencies_nonempty := ?_,
                    dependencies_registered := ?_ }
    · intro a ha
      rcases NameRelation.mem_image_add.mp ha with ⟨rfl, heq⟩ | ha
      · exact hne heq
      · exact h.dependencies_irreflexive a ha
    · exact h.dependencies_nonempty.add source target
    · intro a b hb
      rcases NameRelation.mem_image_add.mp hb with ⟨rfl, rfl⟩ | hb
      · exact ⟨hsource, htarget⟩
      · exact h.dependencies_registered a b hb

theorem WellFormed.addToArtifact (artifact : Text) {package : Text}
    (hpackage : package ∈ s.packages) :
    (s.addToArtifact artifact package).WellFormed libraries := by
  refine { h with artifacts_nonempty := ?_, artifacts_registered := ?_ }
  · exact h.artifacts_nonempty.add artifact package
  · intro a p hp
    rcases NameRelation.mem_image_add.mp hp with ⟨_, rfl⟩ | hp
    · exact hpackage
    · exact h.artifacts_registered a p hp

theorem WellFormed.countLibraries (target : Text) :
    (s.countLibraries target).WellFormed libraries := by
  refine { h with libraries := ?_ }
  rw [← h.libraries]
  simp [Session.libraries, Session.countLibraries]

/-! ## The operations -/

theorem WellFormed.absorb (r : Record) : (s.absorb r).WellFormed libraries := by
  -- Both packages are registered before anything refers to them; `t` is the session in between.
  let source := ClassName.ofText r.sourceClass
  let target := ClassName.ofText r.targetClass
  let t := (s.countRecord.addPackage source.package source.simple false).addPackage
    target.package target.simple (isExternalTarget r)
  have ht : t.WellFormed libraries := ((h.withCounts _).addPackage ..).addPackage ..
  have htarget : target.package ∈ t.packages := NameMap.mem_update.mpr (Or.inl rfl)
  have hsource : source.package ∈ t.packages :=
    NameMap.mem_update.mpr (Or.inr (NameMap.mem_update.mpr (Or.inl rfl)))
  have hpackages : (t.addDependency source.package target.package).packages = t.packages := by
    rw [Session.addDependency]
    split <;> rfl
  have hdependency := ht.addDependency hsource htarget
  have hfirst := hdependency.addToArtifact r.artifactId (hpackages.symm ▸ hsource)
  have hsecond := hfirst.addToArtifact r.artifactId (hpackages.symm ▸ htarget)
  exact hsecond.countLibraries r.targetClass

theorem WellFormed.ingest {r : Record} {t : Session} (ht : s.ingest r = .ok t) :
    t.WellFormed libraries := by
  rw [Session.ingest] at ht
  split at ht
  · cases ht
  · cases ht
    exact h.absorb r

omit h in
theorem WellFormed.ingestFrom (h : s.WellFormed libraries) (number : Nat) (lines : List Text) :
    (ingestFrom number s lines).session.WellFormed libraries := by
  -- A line that goes on is blank, skipped or ingested; one that stops has only been counted.
  fun_induction Session.ingestFrom number s lines with
  | case1 => exact h
  | case2 number s line lines s' _ ih => exact ih (h.withCounts _)
  | case3 => exact h.withCounts _
  | case4 number s line lines s' _ _ _ _ ih => exact ih ((h.withCounts _).withCounts _)
  | case5 => exact h.withCounts _
  | case6 number s line lines s' _ r _ t ht ih =>
      have hline : s'.WellFormed libraries := h.withCounts _
      exact ih (hline.ingest ht)

theorem WellFormed.build : s.build.WellFormed libraries := by
  refine { h with bases_nonempty := ?_, bases_registered := ?_, bases_disjoint := ?_,
                  edges_irreflexive := ?_, edges_nonempty := ?_, edges_bases := ?_ }
  · exact BasePackage.noEmptyImage_group
  · intro b p hp
    exact (BasePackage.mem_image_group.mp hp).1
  · intro b c p hb hc
    exact Option.some.inj
      ((BasePackage.mem_image_group.mp hb).2.symm.trans (BasePackage.mem_image_group.mp hc).2)
  · intro a ha
    exact (BasePackage.mem_image_rollUp_group.mp ha).1 rfl
  · exact BasePackage.noEmptyImage_rollUp
  · intro a b hb
    obtain ⟨_, p, q, _, ⟨hp, hpa⟩, hq, hqb⟩ := BasePackage.mem_image_rollUp_group.mp hb
    exact ⟨BasePackage.mem_keys_group.mpr ⟨p, hp, hpa⟩,
      BasePackage.mem_keys_group.mpr ⟨q, hq, hqb⟩⟩

theorem WellFormed.report : s.report.session.WellFormed libraries := by
  rw [Session.report]
  split
  · exact h
  · exact h.build

theorem WellFormed.perform (op : Operation) : (s.perform op).WellFormed libraries := by
  cases op with
  | ingest r =>
      rw [Session.perform]
      split
      next ht => exact h.ingest ht
      next => exact h
  | ingestLines lines => exact h.ingestFrom 1 lines
  | addPackage name simple external => exact h.addPackage name simple external
  | countLibraries target => exact h.countLibraries target
  | build => exact h.build
  | report => exact h.report

omit h in
theorem WellFormed.performAll (h : s.WellFormed libraries) (ops : List Operation) :
    (s.performAll ops).WellFormed libraries := by
  induction ops generalizing s with
  | nil => exact h
  | cons op ops ih => exact ih (h.perform op)

end Steps

end Session

end PackageRollup
