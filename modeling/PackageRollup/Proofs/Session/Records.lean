import PackageRollup.Proofs.Session.Absorb

/-!
# Sessions that ingest records

What a session holds after a sequence of records, by induction on the sequence from what one record
adds. A session that is not finished takes every record, so nothing here fails.
-/

namespace PackageRollup

/-- The classes that records name, as they are written. -/
def Record.allClassNames (rs : List Record) : List Text := rs.flatMap Record.classNames

/-- The packages that records mention. -/
def Record.allPackages (rs : List Record) : List Text := rs.flatMap Record.packages

namespace Session

variable {s : Session} {rs : List Record}

/-- Ingest records one after another. -/
def ingestAll (s : Session) (rs : List Record) : Except Stop Session := rs.foldlM ingest s

/-- What records add to a session, one after another. -/
def absorbAll (s : Session) (rs : List Record) : Session := rs.foldl absorb s

theorem absorbAll_cons (r : Record) : s.absorbAll (r :: rs) = (s.absorb r).absorbAll rs := rfl

theorem finished_absorb (r : Record) : (s.absorb r).finished = s.finished := by
  simp [finished]

theorem ingestAll_eq (h : s.finished = false) : s.ingestAll rs = .ok (s.absorbAll rs) := by
  induction rs generalizing s with
  | nil => rfl
  | cons r rs ih =>
      have hstep : s.ingest r = .ok (s.absorb r) := by simp [ingest, h]
      rw [ingestAll, List.foldlM_cons, hstep]
      exact ih ((finished_absorb r).trans h)

theorem finished_absorbAll : (s.absorbAll rs).finished = s.finished := by
  induction rs generalizing s with
  | nil => rfl
  | cons r rs ih => rw [absorbAll_cons, ih, finished_absorb]

theorem roots_absorbAll : (s.absorbAll rs).roots = s.roots := by
  induction rs generalizing s with
  | nil => rfl
  | cons r rs ih => rw [absorbAll_cons, ih, roots_absorb]

/-- The flag of a package is decided by the first record that mentions it. -/
theorem flag?_absorbAll (p : Text) :
    (s.absorbAll rs).flag? p = (s.flag? p).or (rs.findSome? fun r ↦ r.flag? p) := by
  induction rs generalizing s with
  | nil => simp [absorbAll]
  | cons r rs ih =>
      rw [absorbAll_cons, ih, flag?_absorb, Option.or_assoc, List.findSome?_cons]
      cases r.flag? p <;> rfl

theorem mem_classesOf_absorbAll {p c : Text} :
    c ∈ (s.absorbAll rs).classesOf p ↔
      c ∈ s.classesOf p ∨ ∃ name ∈ Record.allClassNames rs, ClassName.ofText name = ⟨p, c⟩ := by
  induction rs generalizing s with
  | nil => simp [absorbAll, Record.allClassNames]
  | cons r rs ih =>
      rw [absorbAll_cons, ih, mem_classesOf_absorb, or_assoc]
      simp only [Record.allClassNames, List.flatMap_cons, List.mem_append, or_and_right, exists_or]

theorem mem_image_dependencies_absorbAll {a b : Text} :
    b ∈ (s.absorbAll rs).dependencies.image a ↔
      b ∈ s.dependencies.image a ∨
        a ≠ b ∧ ∃ r ∈ rs, r.sourcePackage = a ∧ r.targetPackage = b := by
  induction rs generalizing s with
  | nil => simp [absorbAll]
  | cons r rs ih =>
      rw [absorbAll_cons, ih, mem_image_dependencies_absorb, or_assoc, ← and_or_left]
      simp only [List.mem_cons, exists_eq_or_imp]

theorem mem_image_artifacts_absorbAll {a p : Text} :
    p ∈ (s.absorbAll rs).artifacts.image a ↔
      p ∈ s.artifacts.image a ∨ ∃ r ∈ rs, r.artifactId = a ∧ p ∈ r.packages := by
  induction rs generalizing s with
  | nil => simp [absorbAll]
  | cons r rs ih =>
      rw [absorbAll_cons, ih, mem_image_artifacts_absorb, or_assoc]
      simp only [List.mem_cons, exists_eq_or_imp]

/-- The keywords stay in their places; each gets the targets that it occurs in. -/
theorem matched_absorbAll :
    (s.absorbAll rs).matched =
      s.matched.map fun e ↦ rs.foldl (fun e r ↦ matchTarget r.targetClass e) e := by
  induction rs generalizing s with
  | nil => simp [absorbAll]
  | cons r rs ih => simp [absorbAll_cons, ih, matched_absorb, Function.comp_def]

theorem foldl_matchTarget_fst (e : Text × NameSet) :
    (rs.foldl (fun e r ↦ matchTarget r.targetClass e) e).1 = e.1 := by
  induction rs generalizing e with
  | nil => rfl
  | cons r rs ih => exact ih (matchTarget r.targetClass e)

theorem libraries_absorbAll : (s.absorbAll rs).libraries = s.libraries := by
  rw [libraries, matched_absorbAll, List.map_map]
  exact List.map_congr_left fun e _ ↦ foldl_matchTarget_fst e

theorem mem_foldl_matchTarget {e : Text × NameSet} {c : Text} :
    c ∈ (rs.foldl (fun e r ↦ matchTarget r.targetClass e) e).2 ↔
      c ∈ e.2 ∨ ∃ r ∈ rs, r.targetClass = c ∧ Text.occursIn e.1 (Text.lower c) := by
  induction rs generalizing e with
  | nil => simp
  | cons r rs ih =>
      rw [List.foldl_cons, ih, mem_matchTarget, or_assoc]
      simp only [List.mem_cons, exists_eq_or_imp, matchTarget]

theorem noEmptyImage_artifacts_absorbAll (h : s.artifacts.NoEmptyImage) :
    (s.absorbAll rs).artifacts.NoEmptyImage := by
  induction rs generalizing s with
  | nil => exact h
  | cons r rs ih =>
      apply ih
      rw [artifacts_absorb]
      exact (h.add _ _).add _ _

/-! ## From a fresh session -/

section Fresh

variable {libraries : List Text} {roots : NameSet}

theorem ingestAll_start :
    (start libraries roots).ingestAll rs = .ok ((start libraries roots).absorbAll rs) :=
  ingestAll_eq rfl

@[simp] theorem finished_start : ((start libraries roots).absorbAll rs).finished = false :=
  finished_absorbAll

@[simp] theorem roots_start : ((start libraries roots).absorbAll rs).roots = roots :=
  roots_absorbAll

theorem flag?_start (p : Text) :
    ((start libraries roots).absorbAll rs).flag? p = rs.findSome? fun r ↦ r.flag? p := by
  rw [flag?_absorbAll]
  simp [flag?, start]

/-- The packages of a session are those that the records mention. -/
theorem mem_packages_start {p : Text} :
    p ∈ ((start libraries roots).absorbAll rs).packages ↔ p ∈ Record.allPackages rs := by
  simp [mem_packages_iff_flag?, flag?_start, Record.flag?_isSome_iff, Record.allPackages]

theorem mem_classesOf_start {p c : Text} :
    c ∈ ((start libraries roots).absorbAll rs).classesOf p ↔
      ∃ name ∈ Record.allClassNames rs, ClassName.ofText name = ⟨p, c⟩ := by
  rw [mem_classesOf_absorbAll]
  simp [classesOf, start]

theorem mem_image_dependencies_start {a b : Text} :
    b ∈ ((start libraries roots).absorbAll rs).dependencies.image a ↔
      a ≠ b ∧ ∃ r ∈ rs, r.sourcePackage = a ∧ r.targetPackage = b := by
  simp [mem_image_dependencies_absorbAll, start]

theorem mem_image_artifacts_start {a p : Text} :
    p ∈ ((start libraries roots).absorbAll rs).artifacts.image a ↔
      ∃ r ∈ rs, r.artifactId = a ∧ p ∈ r.packages := by
  simp [mem_image_artifacts_absorbAll, start]

theorem noEmptyImage_artifacts_start :
    ((start libraries roots).absorbAll rs).artifacts.NoEmptyImage :=
  noEmptyImage_artifacts_absorbAll NameRelation.noEmptyImage_empty

end Fresh

end Session

end PackageRollup
