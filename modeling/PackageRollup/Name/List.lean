import PackageRollup.Text.CharacterClass
import PackageRollup.Text.LetterCase

/-!
# Lists of names

Library keywords and roots are given as lists of names, or as texts with commas between the names.
Either way a name counts without the white space around it and in lower case, and only where it
occurs first.
-/

namespace PackageRollup.NameList

/-- A name without white space around it and in lower case. -/
def normal (name : Text) : Text := Text.lower (Text.trim name)

/-- The normal forms of names, each once and in the order of first occurrence; empty ones are
dropped. -/
def normalize (names : List Text) : List Text := ((names.map normal).filter (· ≠ [])).eraseDups

/-- The names in a text with commas between them. -/
def ofText (t : Text) : List Text := normalize (Text.splitOn ',' t)

theorem mem_eraseDups {t : Text} : ∀ {ts : List Text}, t ∈ ts.eraseDups ↔ t ∈ ts
  | [] => by simp
  | u :: us => by
    have : (us.filter fun b ↦ !b == u).length < us.length + 1 :=
      Nat.lt_succ_of_le (List.length_filter_le _ us)
    rw [List.eraseDups_cons, List.mem_cons, List.mem_cons, mem_eraseDups, List.mem_filter]
    by_cases h : t = u <;> simp [h]
termination_by ts => ts.length

theorem nodup_eraseDups : ∀ ts : List Text, ts.eraseDups.Nodup
  | [] => by simp
  | u :: us => by
    have : (us.filter fun b ↦ !b == u).length < us.length + 1 :=
      Nat.lt_succ_of_le (List.length_filter_le _ us)
    rw [List.eraseDups_cons, List.nodup_cons, mem_eraseDups]
    exact ⟨by simp, nodup_eraseDups _⟩
termination_by ts => ts.length

theorem nodup_normalize (names : List Text) : (normalize names).Nodup := nodup_eraseDups _

@[simp] theorem mem_normalize {names : List Text} {t : Text} :
    t ∈ normalize names ↔ t ≠ [] ∧ ∃ name ∈ names, normal name = t := by
  simp only [normalize, mem_eraseDups, List.mem_filter, List.mem_map]
  grind

end PackageRollup.NameList
