import PackageRollup.Proofs.Session.Settled

/-!
# Packages that come too late

Groups are made by grouping and by nothing else, and a report groups the packages only if this has
not been done before. A package that is first registered when a session is finished is therefore in
no group until the packages are grouped anew.
-/

namespace PackageRollup.Session

variable {libraries : List Text} {s t : Session} {op : Operation} {ops : List Operation} {p : Text}

/-! ## What an operation can do -/

/-- Whether an operation groups the packages of a session that is finished or not. -/
def Operation.regroups (finished : Bool) : Operation → Bool
  | build => true
  | report => !finished
  | _ => false

/-- The package that an operation adds by name. -/
def Operation.added? : Operation → Option Text
  | addPackage name _ _ => some name
  | _ => none

/-- What an operation makes of a session. -/
inductive Step (s : Session) : Operation → Session → Prop where
  /-- Records are absorbed, unless the session is finished, and lines are counted. -/
  | ingested {op : Operation} (rs : List Record) (counts : Counts) (hop : op.ingests)
      (hrs : s.finished = true → rs = []) : Step s op ((s.absorbAll rs).withCounts counts)
  | added (name simple : Text) (external : Bool) :
      Step s (.addPackage name simple external) (s.addPackage name simple external)
  | counted (target : Text) : Step s (.countLibraries target) (s.countLibraries target)
  | grouped {op : Operation} (hop : op.regroups s.finished) : Step s op s.build
  | reported (hs : s.finished = true) : Step s .report s

theorem exists_ingestFrom_session (number : Nat) (s : Session) (lines : List Text) :
    ∃ rs counts, (ingestFrom number s lines).session = (s.absorbAll rs).withCounts counts ∧
      (s.finished = true → rs = []) := by
  fun_induction ingestFrom number s lines with
  | case1 number s => exact ⟨[], s.counts, rfl, fun _ ↦ rfl⟩
  | case2 number s line lines t _ ih =>
      obtain ⟨rs, counts, hsession, hrs⟩ := ih
      exact ⟨rs, counts, hsession.trans (withCounts_absorbAll_withCounts _ _ rs), hrs⟩
  | case3 number s line lines t => exact ⟨[], t.counts, rfl, fun _ ↦ rfl⟩
  | case4 number s line lines t _ _ _ _ ih =>
      obtain ⟨rs, counts, hsession, hrs⟩ := ih
      exact ⟨rs, counts, hsession.trans (withCounts_absorbAll_withCounts (s := s) _ _ rs), hrs⟩
  | case5 number s line lines t => exact ⟨[], t.counts, rfl, fun _ ↦ rfl⟩
  | case6 number s line lines t _ r _ u hu ih =>
      rw [ingest] at hu
      split at hu
      · cases hu
      next hopen =>
        cases hu
        obtain ⟨rs, counts, hsession, -⟩ := ih
        refine ⟨r :: rs, counts, hsession.trans (withCounts_absorbAll_withCounts _ _ (r :: rs)), ?_⟩
        exact fun hfinished ↦ absurd hfinished hopen

theorem step_perform (s : Session) (op : Operation) : Step s op (s.perform op) := by
  cases op with
  | ingest r =>
      rw [perform, ingest]
      cases hs : s.finished with
      | true => exact .ingested [] s.counts rfl fun _ ↦ rfl
      | false => exact .ingested [r] (s.absorb r).counts rfl (by simp [hs])
  | ingestLines lines =>
      obtain ⟨rs, counts, hsession, hrs⟩ := exists_ingestFrom_session 1 s lines
      rw [perform, ingestLines, hsession]
      exact .ingested rs counts rfl hrs
  | addPackage name simple external => exact .added name simple external
  | countLibraries target => exact .counted target
  | build => exact .grouped rfl
  | report =>
      rw [perform, report]
      cases hs : s.finished with
      | true => exact .reported hs
      | false => exact .grouped (by rw [hs]; rfl)

theorem Operation.regroups_of_ingests (hop : op.ingests) (finished : Bool) :
    op.regroups finished = false := by
  cases op with
  | ingest r => rfl
  | ingestLines lines => rfl
  | _ => cases hop

theorem Operation.added?_of_ingests (hop : op.ingests) : op.added? = none := by
  cases op with
  | ingest r => rfl
  | ingestLines lines => rfl
  | _ => cases hop

theorem bases_absorbAll (rs : List Record) : (s.absorbAll rs).bases = s.bases := by
  induction rs generalizing s with
  | nil => rfl
  | cons r rs ih => rw [absorbAll_cons, ih, bases, grouping_absorb, bases]

namespace Step

variable (h : Step s op t)
include h

theorem roots_eq : t.roots = s.roots := by
  cases h with
  | ingested rs counts => exact roots_absorbAll
  | _ => rfl

/-- Only grouping changes the groups. -/
theorem bases_eq : t.bases = if op.regroups s.finished then s.build.bases else s.bases := by
  cases h with
  | ingested rs counts hop =>
      rw [Operation.regroups_of_ingests hop]
      exact bases_absorbAll rs
  | grouped hop => rw [if_pos hop]
  | reported hs => simp [Operation.regroups, hs]
  | _ => rfl

end Step

/-! ## Packages without a group -/

/-- A package with a dot that is registered in a finished session without being in a group. -/
structure Misses (s : Session) (p : Text) : Prop where
  finished : s.finished = true
  registered : p ∈ s.packages
  dotted : CodePoint.ofChar '.' ∈ p
  ungrouped : ∀ b, p ∉ s.bases.image b

theorem misses_congr (hfinished : t.finished = s.finished) (hpackages : t.packages = s.packages)
    (hbases : t.bases = s.bases) : t.Misses p ↔ s.Misses p := by
  constructor
  · rintro ⟨hf, hp, hdot, hb⟩
    exact ⟨hfinished ▸ hf, hpackages ▸ hp, hdot, hbases ▸ hb⟩
  · rintro ⟨hf, hp, hdot, hb⟩
    exact ⟨hfinished ▸ hf, hpackages ▸ hp, hdot, hbases ▸ hb⟩

theorem not_misses_build : ¬ s.build.Misses p := by
  rintro ⟨-, hp, hdot, hungrouped⟩
  obtain ⟨b, hb⟩ := BasePackage.exists_ofPackage_iff.mpr hdot
  exact hungrouped b (BasePackage.mem_image_group.mpr ⟨hp, hb⟩)

/-- The operation registers the package for the first time, in a finished session. -/
def AddsLate (s : Session) (op : Operation) (p : Text) : Prop :=
  op.added? = some p ∧ s.finished = true ∧ p ∉ s.packages

theorem AddsLate.ne_build (h : s.AddsLate op p) : op ≠ .build := by
  rintro rfl
  cases h.1

theorem misses_addPackage_iff (h : s.WellFormed libraries) {name simple : Text} {external : Bool} :
    (s.addPackage name simple external).Misses p ↔
      s.Misses p ∨ s.AddsLate (.addPackage name simple external) p ∧ CodePoint.ofChar '.' ∈ p := by
  constructor
  · rintro ⟨hfinished, hp, hdot, hungrouped⟩
    by_cases hold : p ∈ s.packages
    · exact Or.inl ⟨hfinished, hold, hdot, hungrouped⟩
    · have hname : p = name := (NameMap.mem_update.mp hp).resolve_right hold
      exact Or.inr ⟨⟨congrArg some hname.symm, hfinished, hold⟩, hdot⟩
  · rintro (⟨hfinished, hp, hdot, hungrouped⟩ | ⟨⟨hname, hfinished, hnew⟩, hdot⟩)
    · exact ⟨hfinished, NameMap.mem_update.mpr (Or.inr hp), hdot, hungrouped⟩
    · have hp : p = name := (Option.some.inj hname).symm
      refine ⟨hfinished, NameMap.mem_update.mpr (Or.inl hp), hdot, ?_⟩
      exact fun b hb ↦ hnew (h.bases_registered b p hb)

/-- A package comes to be without a group when it is added too late, and it stays so unless the
packages are grouped anew. -/
theorem Step.misses_iff (h : Step s op t) (hs : s.WellFormed libraries) :
    t.Misses p ↔ op ≠ .build ∧ (s.Misses p ∨ s.AddsLate op p ∧ CodePoint.ofChar '.' ∈ p) := by
  have hopen : s.finished = false → ¬ s.Misses p := by
    rintro hfalse ⟨htrue, -⟩
    rw [hfalse] at htrue
    cases htrue
  cases h with
  | ingested rs counts hop hrs =>
      have hbuild : op ≠ .build := by
        rintro rfl
        cases hop
      have hadds : ¬ s.AddsLate op p := by
        rintro ⟨hadded, -⟩
        rw [Operation.added?_of_ingests hop] at hadded
        cases hadded
      simp only [hbuild, hadds, ne_eq, not_false_eq_true, true_and, false_and, or_false]
      cases hfinished : s.finished with
      | true =>
          rw [hrs hfinished]
          exact misses_congr rfl rfl rfl
      | false =>
          refine iff_of_false ?_ (hopen hfinished)
          rintro ⟨htrue, -⟩
          have hsame : ((s.absorbAll rs).withCounts counts).finished = s.finished :=
            finished_absorbAll
          rw [hsame, hfinished] at htrue
          cases htrue
  | added name simple external =>
      rw [misses_addPackage_iff hs]
      simp
  | counted target =>
      have hsame : (s.countLibraries target).Misses p ↔ s.Misses p := misses_congr rfl rfl rfl
      simp [hsame, AddsLate, Operation.added?]
  | grouped hop =>
      refine iff_of_false not_misses_build ?_
      rintro ⟨hbuild, hlate⟩
      cases op with
      | build => exact hbuild rfl
      | report =>
          have hfalse : s.finished = false := by simpa [Operation.regroups] using hop
          rcases hlate with hmisses | ⟨⟨hadded, -⟩, -⟩
          · exact hopen hfalse hmisses
          · cases hadded
      | _ => cases hop
  | reported => simp [AddsLate, Operation.added?]

/-! ## After any operations -/

/-- A package is in no group but that of its base package. -/
theorem ofPackage_of_mem_bases_performAll
    (hs : ∀ b p, p ∈ s.bases.image b → BasePackage.ofPackage s.roots p = some b) {b : Text}
    (hp : p ∈ (s.performAll ops).bases.image b) : BasePackage.ofPackage s.roots p = some b := by
  induction ops generalizing s with
  | nil => exact hs b p hp
  | cons op ops ih =>
      have hstep := step_perform s op
      rw [← hstep.roots_eq]
      refine ih ?_ hp
      intro c q hq
      rw [hstep.roots_eq]
      rw [hstep.bases_eq] at hq
      split at hq
      · exact (BasePackage.mem_image_group.mp hq).2
      · exact hs c q hq

/-- Some operation registers the package for the first time, in a finished session, and no later one
groups the packages anew. -/
def RegistersLate (s : Session) (ops : List Operation) (p : Text) : Prop :=
  ∃ before op later, ops = before ++ op :: later ∧ (s.performAll before).AddsLate op p ∧
    .build ∉ later

theorem registersLate_cons_iff :
    s.RegistersLate (op :: ops) p ↔
      s.AddsLate op p ∧ .build ∉ ops ∨ (s.perform op).RegistersLate ops p := by
  constructor
  · rintro ⟨before, late, later, hops, hadds, hbuild⟩
    cases before with
    | nil =>
        cases hops
        exact Or.inl ⟨hadds, hbuild⟩
    | cons first before =>
        cases hops
        exact Or.inr ⟨before, late, later, rfl, hadds, hbuild⟩
  · rintro (⟨hadds, hbuild⟩ | ⟨before, late, later, rfl, hadds, hbuild⟩)
    · exact ⟨[], op, ops, rfl, hadds, hbuild⟩
    · exact ⟨op :: before, late, later, rfl, hadds, hbuild⟩

theorem misses_performAll_iff (h : s.WellFormed libraries) :
    (s.performAll ops).Misses p ↔
      s.Misses p ∧ .build ∉ ops ∨ s.RegistersLate ops p ∧ CodePoint.ofChar '.' ∈ p := by
  induction ops generalizing s with
  | nil => simp [performAll, RegistersLate]
  | cons op ops ih =>
      -- what is added late is not itself a grouping, so only the operations behind it matter
      have hnew : s.AddsLate op p → op ≠ .build := AddsLate.ne_build
      rw [performAll, List.foldl_cons, ← performAll, ih (h.perform op),
        (step_perform s op).misses_iff h, registersLate_cons_iff, List.mem_cons, not_or,
        eq_comm (a := Operation.build)]
      tauto

end PackageRollup.Session
