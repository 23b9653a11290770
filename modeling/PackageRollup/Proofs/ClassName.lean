import Mathlib.Logic.Function.Basic
import PackageRollup.ClassName

/-!
# Class names can be put together again

Taking an unwrapped name apart loses nothing: either it is the package and the simple name with a
dot between them, or it is the simple name alone. Hence two names fall apart in the same way exactly
when they are equal without their array signs. Since the last dot is in one place, there is no other
way to take a name apart like this.
-/

namespace PackageRollup.ClassName

variable {u inner name : Text} {m n : ClassName}

theorem eq_mk_iff {n : ClassName} {p c : Text} : n = ⟨p, c⟩ ↔ n.package = p ∧ n.simple = c := by
  cases n
  simp

/-- A name belongs to a named package if it has a dot behind its first code point, and to the
default package otherwise. -/
theorem ofUnwrapped_cases (u : Text) :
    ((ofUnwrapped u).package ≠ [] ∧ CodePoint.ofChar '.' ∉ (ofUnwrapped u).simple ∧
      u = (ofUnwrapped u).package ++ CodePoint.ofChar '.' :: (ofUnwrapped u).simple) ∨
    (ofUnwrapped u = ⟨[], u⟩ ∧ CodePoint.ofChar '.' ∉ u.tail) := by
  cases h : cutLast (CodePoint.ofChar '.') u with
  | none =>
      right
      have hdot := cutLast_eq_none_iff.mp h
      exact ⟨by simp [ofUnwrapped, h], fun htail ↦ hdot (List.mem_of_mem_tail htail)⟩
  | some parts =>
      obtain ⟨before, after⟩ := parts
      obtain ⟨hu, hdot⟩ := eq_of_cutLast h
      cases before with
      | nil =>
          right
          refine ⟨by simp [ofUnwrapped, h], ?_⟩
          rw [hu]
          exact hdot
      | cons c before =>
          left
          have hparts : ofUnwrapped u = ⟨c :: before, after⟩ := by simp [ofUnwrapped, h]
          rw [hparts]
          exact ⟨List.cons_ne_nil c before, hdot, hu⟩

theorem ofUnwrapped_injective : Function.Injective ofUnwrapped := by
  intro u v huv
  rcases ofUnwrapped_cases u with ⟨hpu, _, hu⟩ | ⟨hu, _⟩
  · rcases ofUnwrapped_cases v with ⟨_, _, hv⟩ | ⟨hv, _⟩
    · rw [hu, huv, ← hv]
    · rw [huv, hv] at hpu
      exact absurd rfl hpu
  · rcases ofUnwrapped_cases v with ⟨hpv, _, _⟩ | ⟨hv, _⟩
    · rw [← huv, hu] at hpv
      exact absurd rfl hpv
    · rw [hu, hv] at huv
      exact congrArg simple huv

theorem ofText_eq_iff {a b : Text} : ofText a = ofText b ↔ unwrap a = unwrap b :=
  ofUnwrapped_injective.eq_iff

/-! ## The parts of a name -/

/-- The parts of a name are what stands before and behind its last dot. Where there is no dot behind
the first code point, they are nothing and the name as it is. -/
def IsPartition (u : Text) (n : ClassName) : Prop :=
  (n.package ≠ [] ∧ CodePoint.ofChar '.' ∉ n.simple ∧
    u = n.package ++ CodePoint.ofChar '.' :: n.simple) ∨
  (n.package = [] ∧ n.simple = u ∧ CodePoint.ofChar '.' ∉ u.tail)

theorem isPartition_ofUnwrapped (u : Text) : IsPartition u (ofUnwrapped u) := by
  rcases ofUnwrapped_cases u with hnamed | ⟨hdefault, hdot⟩
  · exact Or.inl hnamed
  · rw [hdefault]
    exact Or.inr ⟨rfl, rfl, hdot⟩

/-- The last separator of a text is in one place. -/
theorem append_cons_inj_of_last {sep : CodePoint} {p q s t : Text} (hs : sep ∉ s) (ht : sep ∉ t)
    (h : p ++ sep :: s = q ++ sep :: t) : p = q ∧ s = t := by
  -- if one of the separators came first, the other would be in what stands behind it
  have hbehind : ∀ {s t between : Text}, sep ∉ s → sep :: s = between ++ sep :: t →
      between = [] ∧ s = t := by
    intro s t between hs heq
    cases between with
    | nil => exact ⟨rfl, (List.cons.inj heq).2⟩
    | cons c between =>
        rw [List.cons_append, List.cons.injEq] at heq
        exact absurd (heq.2 ▸ List.mem_append_right _ List.mem_cons_self) hs
  rcases List.append_eq_append_iff.mp h with ⟨between, rfl, heq⟩ | ⟨between, rfl, heq⟩
  · obtain ⟨rfl, rfl⟩ := hbehind hs heq
    exact ⟨(List.append_nil p).symm, rfl⟩
  · obtain ⟨rfl, rfl⟩ := hbehind ht heq
    exact ⟨List.append_nil q, rfl⟩

theorem dot_mem_tail {p s : Text} (hp : p ≠ []) :
    CodePoint.ofChar '.' ∈ (p ++ CodePoint.ofChar '.' :: s).tail := by
  rw [List.tail_append_of_ne_nil hp]
  exact List.mem_append_right _ List.mem_cons_self

theorem IsPartition.unique (hm : IsPartition u m) (hn : IsPartition u n) : m = n := by
  suffices m.package = n.package ∧ m.simple = n.simple by
    cases n
    exact eq_mk_iff.mpr this
  rcases hm with ⟨hp, hs, hu⟩ | ⟨hp, hs, hdot⟩
  · rcases hn with ⟨-, ht, hv⟩ | ⟨-, -, hdot⟩
    · exact append_cons_inj_of_last hs ht (hu.symm.trans hv)
    · rw [hu] at hdot
      exact absurd (dot_mem_tail hp) hdot
  · rcases hn with ⟨hq, -, hv⟩ | ⟨hq, ht, -⟩
    · rw [hv] at hdot
      exact absurd (dot_mem_tail hq) hdot
    · exact ⟨hp.trans hq.symm, hs.trans ht.symm⟩

theorem ofText_eq_iff_isPartition : ofText name = n ↔ IsPartition (unwrap name) n := by
  constructor
  · rintro rfl
    exact isPartition_ofUnwrapped (unwrap name)
  · exact (isPartition_ofUnwrapped (unwrap name)).unique

/-! ## Arrays -/

/-- The name of the arrays of a class. -/
def arrayOf (name : Text) : Text := ("[L" : Text) ++ name ++ (";" : Text)

theorem isArray_iff : isArray name = true ↔ ∃ inner, name = arrayOf inner := by
  rw [isArray, Bool.and_eq_true, List.isPrefixOf_iff_prefix, beq_iff_eq]
  constructor
  · rintro ⟨⟨rest, rfl⟩, hlast⟩
    obtain ⟨inner, hrest⟩ : ∃ inner, rest = inner ++ (";" : Text) := by
      cases h : rest.getLast? with
      | none =>
          rw [List.getLast?_eq_none_iff.mp h] at hlast
          exact absurd hlast (by decide)
      | some c =>
          rw [List.getLast?_append, h, Option.some_or] at hlast
          obtain ⟨inner, hrest⟩ := List.getLast?_eq_some_iff.mp h
          exact ⟨inner, hrest.trans (by rw [Option.some.inj hlast]; rfl)⟩
    exact ⟨inner, by rw [hrest, arrayOf, List.append_assoc]⟩
  · rintro ⟨inner, rfl⟩
    refine ⟨⟨inner ++ (";" : Text), by rw [arrayOf, List.append_assoc]⟩, ?_⟩
    exact List.getLast?_concat

theorem unwrap_arrayOf (name : Text) : unwrap (arrayOf name) = name := by
  rw [unwrap, if_pos (isArray_iff.mpr ⟨name, rfl⟩)]
  exact List.dropLast_concat

theorem unwrap_eq_self_iff : unwrap name = name ↔ ∀ inner, name ≠ arrayOf inner := by
  constructor
  · rintro h inner rfl
    rw [unwrap_arrayOf] at h
    have hlength := congrArg List.length h
    rw [arrayOf, List.length_append, List.length_append] at hlength
    have hsign : 0 < (";" : Text).length := by decide
    omega
  · intro h
    exact if_neg fun harray ↦ not_exists.mpr h (isArray_iff.mp harray)

theorem unwrap_eq_iff :
    unwrap name = u ↔ name = arrayOf u ∨ name = u ∧ ∀ inner, name ≠ arrayOf inner := by
  by_cases harray : ∃ inner, name = arrayOf inner
  · obtain ⟨inner, rfl⟩ := harray
    rw [unwrap_arrayOf]
    constructor
    · rintro rfl
      exact Or.inl rfl
    · rintro (heq | ⟨-, hnone⟩)
      · rw [← unwrap_arrayOf inner, heq, unwrap_arrayOf]
      · exact absurd rfl (hnone inner)
  · rw [unwrap_eq_self_iff.mpr (not_exists.mp harray)]
    constructor
    · exact fun heq ↦ Or.inr ⟨heq, not_exists.mp harray⟩
    · rintro (heq | ⟨heq, -⟩)
      · exact absurd ⟨u, heq⟩ harray
      · exact heq

theorem ne_arrayOf_of_brackets (h : ("[[" : Text) <+: name) : name ≠ arrayOf inner := by
  obtain ⟨rest, rfl⟩ := h
  rw [arrayOf, List.append_assoc]
  intro heq
  have hsecond : CodePoint.ofChar '[' = CodePoint.ofChar 'L' :=
    (List.cons.inj (List.cons.inj heq).2).1
  exact absurd hsecond (by decide)

/-- A name is taken apart at its last dot once the signs of an array are off, and nothing is lost:
two names have the same parts exactly when they are equal without these signs. They are taken off
once, and never from a name with two brackets in front. -/
theorem ofText_partitions (name : Text) :
    (∀ u, unwrap name = u ↔ name = arrayOf u ∨ name = u ∧ ∀ inner, name ≠ arrayOf inner) ∧
      (∀ n, ofText name = n ↔ IsPartition (unwrap name) n) ∧
      (∀ other, ofText name = ofText other ↔ unwrap name = unwrap other) ∧
      (ofText (arrayOf name) = ofText name ↔ ∀ inner, name ≠ arrayOf inner) ∧
      (("[[" : Text) <+: name → IsPartition name (ofText name)) := by
  refine ⟨fun u ↦ unwrap_eq_iff, fun n ↦ ofText_eq_iff_isPartition, fun other ↦ ofText_eq_iff,
    ?_, fun hbrackets ↦ ?_⟩
  · rw [ofText_eq_iff, unwrap_arrayOf, eq_comm, unwrap_eq_self_iff]
  · have hself : unwrap name = name :=
      unwrap_eq_self_iff.mpr fun inner ↦ ne_arrayOf_of_brackets hbrackets
    have hparts : IsPartition (unwrap name) (ofText name) := ofText_eq_iff_isPartition.mp rfl
    rwa [hself] at hparts

example : ofText "[[Lx.Y;" = ⟨"[[Lx", "Y;"⟩ := by decide

example : ofText "[L[L.a;;" = ⟨"[L", "a;"⟩ ∧ ofText "[L.a;" = ⟨[], ".a"⟩ := by decide

end PackageRollup.ClassName
