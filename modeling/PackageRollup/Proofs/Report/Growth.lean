import Mathlib.Algebra.Order.BigOperators.Group.Finset
import PackageRollup.Proofs.Report.Details

/-!
# More records

A session that absorbs more records keeps all that it holds, and the flags of its packages stay as
they are. Grouping and reporting preserve this: the report on more records says at least as much
about everything. Only the list of internal packages may lose a name, to the list of external ones.
-/

namespace PackageRollup

theorem NameSet.size_le_of_subset {s t : NameSet} (h : ∀ x ∈ s, x ∈ t) : s.size ≤ t.size :=
  (List.subperm_of_subset s.nodup_toList h).length_le

namespace Session

variable {s t u : Session} {r : Record}

/-- A session holds whatever another one holds, and the flags of the packages of that one are the
same. -/
structure Extends (s t : Session) : Prop where
  roots : t.roots = s.roots
  flags : ∀ p flag, s.flag? p = some flag → t.flag? p = some flag
  classes : ∀ p, ∀ c ∈ s.classesOf p, c ∈ t.classesOf p
  dependencies : ∀ a, ∀ b ∈ s.dependencies.image a, b ∈ t.dependencies.image a
  artifacts : ∀ a, ∀ p ∈ s.artifacts.image a, p ∈ t.artifacts.image a
  /-- The keywords are the same, and each keeps its classes. -/
  matched : ∃ grow : Text × NameSet → Text × NameSet, t.matched = s.matched.map grow ∧
    ∀ e, (grow e).1 = e.1 ∧ ∀ c ∈ e.2, c ∈ (grow e).2

theorem Extends.refl (s : Session) : s.Extends s where
  roots := rfl
  flags _ _ h := h
  classes _ _ h := h
  dependencies _ _ h := h
  artifacts _ _ h := h
  matched := ⟨id, (List.map_id _).symm, fun _ ↦ ⟨rfl, fun _ h ↦ h⟩⟩

theorem Extends.trans (h : s.Extends t) (k : t.Extends u) : s.Extends u where
  roots := k.roots.trans h.roots
  flags p flag hp := k.flags p flag (h.flags p flag hp)
  classes p c hc := k.classes p c (h.classes p c hc)
  dependencies a b hb := k.dependencies a b (h.dependencies a b hb)
  artifacts a p hp := k.artifacts a p (h.artifacts a p hp)
  matched := by
    obtain ⟨f, hf, hfkeep⟩ := h.matched
    obtain ⟨g, hg, hgkeep⟩ := k.matched
    refine ⟨g ∘ f, by rw [hg, hf, List.map_map], fun e ↦ ⟨?_, fun c hc ↦ ?_⟩⟩
    · exact (hgkeep (f e)).1.trans (hfkeep e).1
    · exact (hgkeep (f e)).2 c ((hfkeep e).2 c hc)

theorem extends_absorb (s : Session) (r : Record) : s.Extends (s.absorb r) where
  roots := roots_absorb
  flags p flag hp := by rw [flag?_absorb, hp, Option.some_or]
  classes p c hc := mem_classesOf_absorb.mpr (Or.inl hc)
  dependencies a b hb := mem_image_dependencies_absorb.mpr (Or.inl hb)
  artifacts a p hp := mem_image_artifacts_absorb.mpr (Or.inl hp)
  matched := by
    refine ⟨matchTarget r.targetClass, matched_absorb, fun e ↦ ⟨rfl, fun c hc ↦ ?_⟩⟩
    rw [matchTarget]
    split
    · exact NameSet.mem_insert.mpr (Or.inr hc)
    · exact hc

theorem extends_absorbAll (s : Session) (rs : List Record) : s.Extends (s.absorbAll rs) := by
  induction rs generalizing s with
  | nil => exact Extends.refl s
  | cons r rs ih => exact (extends_absorb s r).trans (ih (s.absorb r))

/-! ## Grouping -/

namespace Extends

variable (h : s.Extends t)
include h

theorem mem_packages {p : Text} (hp : p ∈ s.packages) : p ∈ t.packages := by
  rw [mem_packages_iff_flag?] at hp ⊢
  obtain ⟨flag, hflag⟩ := Option.isSome_iff_exists.mp hp
  rw [h.flags p flag hflag]
  rfl

theorem mem_bases {b p : Text} (hp : p ∈ s.build.bases.image b) : p ∈ t.build.bases.image b := by
  rw [mem_image_bases_build] at hp ⊢
  rw [h.roots]
  exact ⟨h.mem_packages hp.1, hp.2⟩

theorem mem_keys_bases {b : Text} (hb : b ∈ s.build.bases.keys) : b ∈ t.build.bases.keys := by
  obtain ⟨p, hp⟩ := BasePackage.noEmptyImage_group.mem_keys_iff.mp hb
  exact BasePackage.noEmptyImage_group.mem_keys_iff.mpr ⟨p, h.mem_bases hp⟩

theorem mem_baseDependencies {a b : Text} (hb : b ∈ s.build.baseDependencies.image a) :
    b ∈ t.build.baseDependencies.image a := by
  obtain ⟨hne, p, q, hq, ⟨hps, hp⟩, hqs, hqb⟩ := mem_image_baseDependencies_build.mp hb
  refine mem_image_baseDependencies_build.mpr ⟨hne, p, q, h.dependencies p q hq, ?_, ?_⟩
  · rw [h.roots]
    exact ⟨h.mem_packages hps, hp⟩
  · rw [h.roots]
    exact ⟨h.mem_packages hqs, hqb⟩

/-! ## Counting -/

theorem classCount_le (p : Text) : s.classCount p ≤ t.classCount p := by
  rw [classCount_eq, classCount_eq]
  exact NameSet.size_le_of_subset (h.classes p)

/-- More packages with more classes each have more classes together. -/
theorem sum_classCount_le {members members' : NameSet} (hmembers : ∀ p ∈ members, p ∈ members') :
    (members.toList.map s.classCount).foldr (· + ·) 0 ≤
      (members'.toList.map t.classCount).foldr (· + ·) 0 := by
  have hsubset : members.toList.toFinset ⊆ members'.toList.toFinset := by
    intro p hp
    exact List.mem_toFinset.mpr (hmembers p (List.mem_toFinset.mp hp))
  calc
    _ = ∑ p ∈ members.toList.toFinset, s.classCount p :=
      (List.sum_toFinset _ members.nodup_toList).symm
    _ ≤ ∑ p ∈ members.toList.toFinset, t.classCount p :=
      Finset.sum_le_sum fun p _ ↦ h.classCount_le p
    _ ≤ ∑ p ∈ members'.toList.toFinset, t.classCount p := Finset.sum_le_sum_of_subset hsubset
    _ = _ := List.sum_toFinset _ members'.nodup_toList

end Extends

end Session

/-! ## Reporting -/

/-- What a report says is said by another one too, and no count is greater than there. -/
structure Report.Within (r r' : Report) : Prop where
  basePackages : ∀ b ∈ r.basePackages, b ∈ r'.basePackages
  dependencies : ∀ a b, (∃ targets, (a, targets) ∈ r.dependencies ∧ b ∈ targets) →
    ∃ targets, (a, targets) ∈ r'.dependencies ∧ b ∈ targets
  details : ∀ d ∈ r.details, ∃ d' ∈ r'.details, d'.name = d.name ∧
    (∀ p ∈ d.subPackages, p ∈ d'.subPackages) ∧ d.subPackageCount ≤ d'.subPackageCount ∧
    d.classCount ≤ d'.classCount ∧ (∀ b ∈ d.dependencies, b ∈ d'.dependencies) ∧
    (d.external = true → d'.external = true)
  artifactPackages : ∀ a p, (∃ packages, (a, packages) ∈ r.artifactPackages ∧ p ∈ packages) →
    ∃ packages, (a, packages) ∈ r'.artifactPackages ∧ p ∈ packages
  /-- The keywords are the same in the same order. -/
  libraryUsage : List.Forall₂ (fun u u' ↦ u'.keyword = u.keyword ∧ u.count ≤ u'.count)
    r.libraryUsage r'.libraryUsage
  externalPackages : ∀ b ∈ r.externalPackages, b ∈ r'.externalPackages
  /-- No external package becomes internal. -/
  internalPackages : ∀ b ∈ r.externalPackages, b ∉ r'.internalPackages

namespace Session

variable {s t : Session}

theorem Extends.libraryUsage (h : s.Extends t) :
    List.Forall₂ (fun u u' : LibraryUsage ↦ u'.keyword = u.keyword ∧ u.count ≤ u'.count)
      s.summarize.libraryUsage t.summarize.libraryUsage := by
  obtain ⟨grow, hgrow, hkeep⟩ := h.matched
  simp only [summarize, Session.libraryUsage, hgrow, List.map_map, List.forall₂_map_left_iff,
    List.forall₂_map_right_iff, List.forall₂_same]
  intro e _
  exact ⟨(hkeep e).1, Int.ofNat_le.mpr (NameSet.size_le_of_subset (hkeep e).2)⟩

theorem Extends.summarize_within (h : s.Extends t) :
    s.build.summarize.Within t.build.summarize where
  basePackages := by
    rw [basePackages_summarize, basePackages_summarize]
    exact fun b ↦ h.mem_keys_bases
  dependencies := by
    rw [dependencies_summarize noEmptyImage_baseDependencies_build,
      dependencies_summarize noEmptyImage_baseDependencies_build]
    intro a b
    rw [NameRelation.exists_mem_toLists_iff, NameRelation.exists_mem_toLists_iff]
    exact h.mem_baseDependencies
  details := by
    intro d hd
    obtain ⟨b, hb, rfl⟩ := mem_details_summarize.mp hd
    refine ⟨_, mem_details_summarize.mpr ⟨b, h.mem_keys_bases hb, rfl⟩, rfl, ?_, ?_, ?_, ?_, ?_⟩
    · exact fun p ↦ h.mem_bases
    · exact Int.ofNat_le.mpr (NameSet.size_le_of_subset fun p ↦ h.mem_bases)
    · exact Int.ofNat_le.mpr (h.sum_classCount_le fun p ↦ h.mem_bases)
    · exact fun c ↦ h.mem_baseDependencies
    · rw [external_detail_iff, external_detail_iff]
      rintro ⟨p, hp, hflag⟩
      exact ⟨p, h.mem_bases hp, h.flags p true hflag⟩
  artifactPackages := by
    intro a p
    have hlists : ∀ s : Session, s.build.summarize.artifactPackages = s.artifacts.toLists :=
      fun _ ↦ rfl
    rw [hlists, hlists, NameRelation.exists_mem_toLists_iff, NameRelation.exists_mem_toLists_iff]
    exact h.artifacts a p
  libraryUsage := h.libraryUsage
  externalPackages := by
    intro b hb
    obtain ⟨hkey, p, hp, hflag⟩ := mem_externalPackages_summarize.mp hb
    exact mem_externalPackages_summarize.mpr
      ⟨h.mem_keys_bases hkey, p, h.mem_bases hp, h.flags p true hflag⟩
  internalPackages := by
    intro b hb hinternal
    obtain ⟨_, p, hp, hflag⟩ := mem_externalPackages_summarize.mp hb
    exact (mem_internalPackages_summarize.mp hinternal).2
      ⟨p, h.mem_bases hp, h.flags p true hflag⟩

/-! ## From internal to external -/

/-- A call out of a package that lies deep enough to share its base package. -/
def callOut : Record := ⟨"a.b.c.X", "Y", "m", "g", none, none, none, none, none, none⟩

/-- A call into a package below that one, from outside of its artifact. -/
def callBelow : Record := ⟨"Y", "a.b.c.d.Z", "m", "g", none, none, none, none, none, none⟩

/-- Whether two segments count or three, the two packages have one base package. -/
theorem exists_ofPackage_eq (roots : NameSet) :
    ∃ b, BasePackage.ofPackage roots "a.b.c" = some b ∧
      BasePackage.ofPackage roots "a.b.c.d" = some b := by
  by_cases hroot : ("a" : Text) ∈ roots
  · exact ⟨"a.b", if_pos hroot, if_pos hroot⟩
  · exact ⟨"a.b.c", if_neg hroot, if_neg hroot⟩

theorem internal_becomes_external (libraries : List Text) {roots : NameSet} {b : Text}
    (hupper : BasePackage.ofPackage roots "a.b.c" = some b)
    (hlower : BasePackage.ofPackage roots "a.b.c.d" = some b) :
    b ∈ ((start libraries roots).absorbAll [callOut]).build.summarize.internalPackages ∧
      b ∈ ((start libraries roots).absorbAll
        [callOut, callBelow]).build.summarize.externalPackages := by
  have hflag : ∀ rs p, ((start libraries roots).absorbAll rs).build.flag? p =
      rs.findSome? fun r ↦ r.flag? p := fun rs p ↦ flag?_start p
  constructor
  · refine mem_internalPackages_summarize.mpr
      ⟨mem_keys_bases_start.mpr ⟨"a.b.c", by decide, hupper⟩, ?_⟩
    rintro ⟨p, hp, hexternal⟩
    rw [hflag] at hexternal
    obtain ⟨hmention, hb⟩ := mem_image_bases_start.mp hp
    -- the class that is called is in the default package, which has no base package
    have hpackages : Record.allPackages [callOut] = [("a.b.c" : Text), ([] : Text)] := by decide
    rw [hpackages, List.mem_pair] at hmention
    rcases hmention with rfl | rfl
    · revert hexternal
      decide
    · cases hb
  · refine mem_externalPackages_summarize.mpr
      ⟨mem_keys_bases_start.mpr ⟨"a.b.c", by decide, hupper⟩, "a.b.c.d",
        mem_image_bases_start.mpr ⟨by decide, hlower⟩, ?_⟩
    rw [hflag]
    decide

/-- More records take nothing back that a report says, in sets as in counts, and no package changes
its flag. An internal package can become external, and no external one becomes internal. -/
theorem report_within_append (libraries : List Text) (roots : NameSet) :
    (∀ xs ys, ∃ s t, (start libraries roots).ingestAll xs = .ok s ∧
      (start libraries roots).ingestAll (xs ++ ys) = .ok t ∧
      (∀ p info, s.packages.find? p = some info →
        ∃ info', t.packages.find? p = some info' ∧ info'.external = info.external) ∧
      s.report.report.Within t.report.report) ∧
    ∃ xs ys s t b, (start libraries roots).ingestAll xs = .ok s ∧
      (start libraries roots).ingestAll (xs ++ ys) = .ok t ∧
      b ∈ s.report.report.internalPackages ∧ b ∈ t.report.report.externalPackages := by
  constructor
  · intro xs ys
    refine ⟨_, _, ingestAll_start, ingestAll_start, ?_⟩
    have happend : (start libraries roots).absorbAll (xs ++ ys) =
        ((start libraries roots).absorbAll xs).absorbAll ys := List.foldl_append
    have hextends : ((start libraries roots).absorbAll xs).Extends
        ((start libraries roots).absorbAll (xs ++ ys)) :=
      happend ▸ extends_absorbAll _ ys
    rw [report_eq finished_start, report_eq finished_start]
    refine ⟨?_, hextends.summarize_within⟩
    intro p info hinfo
    have hflag := hextends.flags p info.external (by rw [flag?, hinfo]; rfl)
    exact Option.map_eq_some_iff.mp hflag
  · obtain ⟨b, hupper, hlower⟩ := exists_ofPackage_eq roots
    refine ⟨[callOut], [callBelow], _, _, b, ingestAll_start, ingestAll_start, ?_⟩
    rw [report_eq finished_start, report_eq finished_start]
    exact internal_becomes_external libraries hupper hlower

end Session

end PackageRollup
