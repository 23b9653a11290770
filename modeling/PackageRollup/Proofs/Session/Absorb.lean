import PackageRollup.Proofs.ClassName
import PackageRollup.Proofs.Name.Relation
import PackageRollup.Session.Basic

/-!
# What one record adds

A session is looked at through five views: the flag and the classes of a package, the dependencies
of a package, the packages of an artifact, and the classes of a keyword. Each view of a session that
absorbed a record is the view before, together with what the record says on its own. Only for the
flag does it matter which of the two comes first.
-/

namespace PackageRollup

namespace Record

/-- The package of the calling class. -/
def sourcePackage (r : Record) : Text := (ClassName.ofText r.sourceClass).package

/-- The package of the class that is called. -/
def targetPackage (r : Record) : Text := (ClassName.ofText r.targetClass).package

/-- The two classes that a record names, as they are written. -/
def classNames (r : Record) : List Text := [r.sourceClass, r.targetClass]

/-- The packages of the two classes. -/
def packages (r : Record) : List Text := [r.sourcePackage, r.targetPackage]

/-- The flag that a record gives to a package which was not seen before. The source comes first, so
a package that is both source and target is not external. -/
def flag? (r : Record) (p : Text) : Option Bool :=
  if p = r.sourcePackage then some false
  else if p = r.targetPackage then some (Session.isExternalTarget r)
  else none

theorem mem_packages_iff {r : Record} {p : Text} :
    p ∈ r.packages ↔ ∃ name ∈ r.classNames, (ClassName.ofText name).package = p := by
  simp [packages, classNames, sourcePackage, targetPackage, eq_comm]

theorem flag?_isSome_iff {r : Record} {p : Text} : (r.flag? p).isSome ↔ p ∈ r.packages := by
  simp only [flag?, packages, List.mem_cons, List.not_mem_nil, or_false]
  split
  · simp [*]
  · split <;> simp [*]

end Record

namespace Session

variable {s : Session} {r : Record} {rs : List Record}

/-- The flag of a package that is registered. -/
def flag? (s : Session) (p : Text) : Option Bool := (s.packages.find? p).map PackageInfo.external

/-- The simple names of the classes of a package. -/
def classesOf (s : Session) (p : Text) : NameSet :=
  (s.packages.find? p).elim .empty PackageInfo.classes

theorem mem_packages_iff_flag? {p : Text} : p ∈ s.packages ↔ (s.flag? p).isSome := by
  rw [NameMap.mem_iff_find?_isSome, flag?, Option.isSome_map]

/-! ## Registering a class -/

/-- The first registration of a package decides its flag. -/
theorem flag?_addPackage (name simple : Text) (external : Bool) (p : Text) :
    (s.addPackage name simple external).flag? p =
      (s.flag? p).or (if p = name then some external else none) := by
  simp only [flag?, addPackage, NameMap.find?_update]
  by_cases hp : p = name
  · subst hp
    cases s.packages.find? p <;> simp
  · simp [hp]

theorem mem_classesOf_addPackage {name simple : Text} {external : Bool} {p c : Text} :
    c ∈ (s.addPackage name simple external).classesOf p ↔
      c ∈ s.classesOf p ∨ name = p ∧ simple = c := by
  simp only [classesOf, addPackage, NameMap.find?_update]
  by_cases hp : p = name
  · subst hp
    cases s.packages.find? p <;> simp [or_comm, eq_comm]
  · simp [hp, Ne.symm hp]

/-! ## Absorbing a record -/

theorem packages_absorb :
    (s.absorb r).packages =
      ((s.addPackage (ClassName.ofText r.sourceClass).package
        (ClassName.ofText r.sourceClass).simple false).addPackage
        (ClassName.ofText r.targetClass).package
        (ClassName.ofText r.targetClass).simple (isExternalTarget r)).packages := by
  simp only [absorb, countLibraries, addToArtifact, addDependency, countRecord]
  split <;> rfl

theorem dependencies_absorb :
    (s.absorb r).dependencies =
      if r.sourcePackage = r.targetPackage then s.dependencies
      else s.dependencies.add r.sourcePackage r.targetPackage := by
  simp only [absorb, countLibraries, addToArtifact, addDependency, countRecord]
  split
  next h => exact (if_pos h).symm
  next h => exact (if_neg h).symm

theorem artifacts_absorb :
    (s.absorb r).artifacts =
      (s.artifacts.add r.artifactId r.sourcePackage).add r.artifactId r.targetPackage := by
  simp only [absorb, countLibraries, addToArtifact, addDependency, countRecord]
  split <;> rfl

@[simp] theorem roots_absorb : (s.absorb r).roots = s.roots := by
  simp only [absorb, countLibraries, addToArtifact, addDependency, countRecord]
  split <;> rfl

@[simp] theorem grouping_absorb : (s.absorb r).grouping = s.grouping := by
  simp only [absorb, countLibraries, addToArtifact, addDependency, countRecord]
  split <;> rfl

theorem counts_absorb :
    (s.absorb r).counts = { s.counts with records := s.counts.records + 1 } := by
  simp only [absorb, countLibraries, addToArtifact, addDependency, countRecord]
  split <;> rfl

/-- What a target class adds to the classes of a keyword. -/
def matchTarget (target : Text) (e : Text × NameSet) : Text × NameSet :=
  (e.1, if Text.occursIn e.1 (Text.lower target) then e.2.insert target else e.2)

theorem mem_matchTarget {target : Text} {e : Text × NameSet} {c : Text} :
    c ∈ (matchTarget target e).2 ↔
      c ∈ e.2 ∨ target = c ∧ Text.occursIn e.1 (Text.lower c) := by
  rw [matchTarget]
  dsimp only
  split
  next hmatch =>
    rw [NameSet.mem_insert]
    constructor
    · rintro (rfl | hc)
      · exact Or.inr ⟨rfl, hmatch⟩
      · exact Or.inl hc
    · rintro (hc | ⟨rfl, _⟩)
      · exact Or.inr hc
      · exact Or.inl rfl
  next hmiss =>
    constructor
    · exact Or.inl
    · rintro (hc | ⟨rfl, hmatch⟩)
      · exact hc
      · exact absurd hmatch hmiss

theorem matched_absorb : (s.absorb r).matched = s.matched.map (matchTarget r.targetClass) := by
  simp only [absorb, countLibraries, addToArtifact, addDependency, countRecord]
  split <;> rfl

theorem flag?_absorb (p : Text) : (s.absorb r).flag? p = (s.flag? p).or (r.flag? p) := by
  have hflag : (s.absorb r).flag? p = ((s.flag? p).or
      (if p = r.sourcePackage then some false else none)).or
        (if p = r.targetPackage then some (isExternalTarget r) else none) := by
    rw [flag?, packages_absorb, ← flag?, flag?_addPackage, flag?_addPackage]
    rfl
  rw [hflag, Option.or_assoc, Record.flag?]
  congr 1
  split <;> rfl

theorem mem_classesOf_absorb {p c : Text} :
    c ∈ (s.absorb r).classesOf p ↔
      c ∈ s.classesOf p ∨ ∃ name ∈ r.classNames, ClassName.ofText name = ⟨p, c⟩ := by
  rw [classesOf, packages_absorb, ← classesOf, mem_classesOf_addPackage, mem_classesOf_addPackage,
    or_assoc]
  simp only [Record.classNames, List.mem_cons, List.not_mem_nil, or_false, exists_eq_or_imp,
    exists_eq_left, ClassName.eq_mk_iff]

theorem mem_image_dependencies_absorb {a b : Text} :
    b ∈ (s.absorb r).dependencies.image a ↔
      b ∈ s.dependencies.image a ∨ a ≠ b ∧ r.sourcePackage = a ∧ r.targetPackage = b := by
  rw [dependencies_absorb]
  split
  next h =>
    constructor
    · exact Or.inl
    · rintro (hb | ⟨hne, rfl, rfl⟩)
      · exact hb
      · exact absurd h hne
  next h =>
    rw [NameRelation.mem_image_add]
    constructor
    · rintro (⟨rfl, rfl⟩ | hb)
      · exact Or.inr ⟨h, rfl, rfl⟩
      · exact Or.inl hb
    · rintro (hb | ⟨_, rfl, rfl⟩)
      · exact Or.inr hb
      · exact Or.inl ⟨rfl, rfl⟩

theorem mem_image_artifacts_absorb {a p : Text} :
    p ∈ (s.absorb r).artifacts.image a ↔
      p ∈ s.artifacts.image a ∨ r.artifactId = a ∧ p ∈ r.packages := by
  rw [artifacts_absorb]
  simp only [NameRelation.mem_image_add, Record.packages, List.mem_cons, List.not_mem_nil]
  grind

end Session

end PackageRollup
