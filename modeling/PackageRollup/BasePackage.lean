import PackageRollup.Name.Map
import PackageRollup.Trie

/-!
# Base packages

The base package of a package is made of its first segments: two of them if the first is one of the
configured roots, and up to three otherwise. A package with a single segment has none. Packages are
grouped by their base package, and dependencies between packages are rolled up to dependencies
between groups.
-/

namespace PackageRollup.BasePackage

/-- The roots under which a base package has two segments, unless configured otherwise. -/
def defaultRoots : List Text := ["java", "javax", "org", "net"]

def ofPackage (roots : NameSet) (package : Text) : Option Text :=
  match Text.splitOn '.' package with
  | first :: second :: more =>
    if first ∈ roots then some (Text.join "." [first, second])
    else some (Text.join "." ((first :: second :: more).take 3))
  | _ => none

/-- The pairs of a base package and a package that belongs to it. -/
def memberships (roots : NameSet) (packages : List Text) : List (Text × Text) :=
  packages.filterMap fun p ↦ (ofPackage roots p).map fun base ↦ (base, p)

def group (roots : NameSet) (packages : List Text) : NameRelation :=
  NameRelation.ofPairs (memberships roots packages)

/-- The last group that a package is in. -/
def lastGroup (package : Text) : List (Text × List Text) → Option Text
  | [] => none
  | (base, members) :: groups =>
    (lastGroup package groups).or (if package ∈ members then some base else none)

def index (groups : List (Text × List Text)) : Trie CodePoint Text :=
  groups.foldl (fun t g ↦ g.2.foldl (fun t package ↦ t.put g.1 package) t) .empty

/-- The dependency between groups that a dependency between packages amounts to, if both are in some
group and the groups differ. -/
def liftEdge (groups : Trie CodePoint Text) (source target : Text) : Option (Text × Text) :=
  match groups.find? source, groups.find? target with
  | some a, some b => if b = a then none else some (a, b)
  | _, _ => none

/-- The dependencies between packages, one by one. -/
def edges (dependencies : List (Text × List Text)) : List (Text × Text) :=
  dependencies.flatMap fun (source, targets) ↦ targets.map fun target ↦ (source, target)

/-- Roll dependencies between packages up to dependencies between groups. -/
def rollUp (dependencies groups : List (Text × List Text)) : NameRelation :=
  let groups := index groups
  NameRelation.ofPairs ((edges dependencies).filterMap fun (s, t) ↦ liftEdge groups s t)

@[simp] theorem mem_edges {dependencies : List (Text × List Text)} {s t : Text} :
    (s, t) ∈ edges dependencies ↔ ∃ targets, (s, targets) ∈ dependencies ∧ t ∈ targets := by
  simp only [edges, List.mem_flatMap, List.mem_map, Prod.mk.injEq, Prod.exists]
  grind

theorem find?_foldl_put {base p : Text} {members : List Text} {t : Trie CodePoint Text} :
    (members.foldl (fun t package ↦ t.put base package) t).find? p =
      if p ∈ members then some base else t.find? p := by
  induction members generalizing t with
  | nil => simp
  | cons m ms ih =>
    rw [List.foldl_cons, ih, Trie.find?_put]
    by_cases h : p ∈ ms <;> by_cases hm : p = m <;> simp [h, hm]

theorem find?_foldl_index {p : Text} {groups : List (Text × List Text)} {t : Trie CodePoint Text} :
    (groups.foldl (fun t g ↦ g.2.foldl (fun t package ↦ t.put g.1 package) t) t).find? p =
      (lastGroup p groups).or (t.find? p) := by
  induction groups generalizing t with
  | nil => simp [lastGroup]
  | cons g gs ih =>
    obtain ⟨base, members⟩ := g
    rw [List.foldl_cons, ih, find?_foldl_put, lastGroup, Option.or_assoc]
    by_cases h : p ∈ members <;> simp [h]

@[simp] theorem find?_index {p : Text} {groups : List (Text × List Text)} :
    (index groups).find? p = lastGroup p groups := by
  simp [index, find?_foldl_index]

theorem liftEdge_index_eq_some_iff {groups : List (Text × List Text)} {s t a b : Text} :
    liftEdge (index groups) s t = some (a, b) ↔
      lastGroup s groups = some a ∧ lastGroup t groups = some b ∧ a ≠ b := by
  simp only [liftEdge, find?_index]
  cases lastGroup s groups <;> cases lastGroup t groups <;> grind

end PackageRollup.BasePackage
