import PackageRollup.Text.Basic

/-!
# Class names

A class name consists of a package and a simple name, with the last dot between them. A name without
a dot behind its first code point belongs to the default package, which has the empty name. An array
of classes is written `[L…;` and counts as the class inside; arrays of arrays are left alone.
-/

namespace PackageRollup

structure ClassName where
  package : Text
  simple : Text
deriving DecidableEq

namespace ClassName

/-- Whether a name has the form `[L…;`. -/
def isArray (name : Text) : Bool :=
  ("[L" : Text).isPrefixOf name && name.getLast? == some (CodePoint.ofChar ';')

/-- The name inside `[L…;`; any other name is left as it is. -/
def unwrap (name : Text) : Text := if isArray name then (name.drop 2).dropLast else name

/-- What stands before and after the last occurrence of a separator. -/
def cutLast (sep : CodePoint) : Text → Option (Text × Text)
  | [] => none
  | c :: t =>
    match cutLast sep t with
    | some (before, after) => some (c :: before, after)
    | none => if c = sep then some ([], t) else none

/-- Take a name without array signs apart. -/
def ofUnwrapped (name : Text) : ClassName :=
  match cutLast '.' name with
  | some (c :: before, after) => ⟨c :: before, after⟩
  | _ => ⟨[], name⟩

def ofText (name : Text) : ClassName := ofUnwrapped (unwrap name)

theorem cutLast_eq_none_iff {sep : CodePoint} {t : Text} : cutLast sep t = none ↔ sep ∉ t := by
  induction t with
  | nil => simp [cutLast]
  | cons c t ih =>
    simp only [cutLast]
    cases h : cutLast sep t with
    | none =>
      have := ih.1 h
      by_cases hc : c = sep
      · simp [hc]
      · simp [hc, this, Ne.symm hc]
    | some p =>
      have : sep ∈ t := by
        by_cases k : sep ∈ t
        · exact k
        · rw [ih.2 k] at h; simp at h
      simp [this]

theorem eq_of_cutLast {sep : CodePoint} {t before after : Text}
    (h : cutLast sep t = some (before, after)) : t = before ++ sep :: after ∧ sep ∉ after := by
  induction t generalizing before with
  | nil => simp [cutLast] at h
  | cons c t ih =>
    simp only [cutLast] at h
    cases k : cutLast sep t with
    | none =>
      rw [k] at h
      by_cases hc : c = sep
      · simp only [hc, if_true, Option.some.injEq, Prod.mk.injEq] at h
        obtain ⟨rfl, rfl⟩ := h
        exact ⟨by simp [hc], cutLast_eq_none_iff.1 k⟩
      · simp [hc] at h
    | some p =>
      obtain ⟨b, a⟩ := p
      rw [k] at h
      simp only [Option.some.injEq, Prod.mk.injEq] at h
      obtain ⟨rfl, rfl⟩ := h
      obtain ⟨rfl, hn⟩ := ih k
      exact ⟨rfl, hn⟩

end ClassName

end PackageRollup
