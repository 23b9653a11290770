import Mathlib.Data.List.TakeWhile
import PackageRollup.Report.Rendering

/-!
# Filling a template

Text without a dollar is copied. A place for a name is replaced by the value of the name, which may
hold dollars itself, and filling goes on behind the place.
-/

namespace PackageRollup.Template

variable {value? : Text → Option Text} {c : CodePoint} {name s t value : Text}

theorem fillBehind_length_append : fillBehind value? s.length (s ++ t) = fill value? t := by
  induction s with
  | nil => rfl
  | cons c s ih => exact ih

theorem fill_append (hs : CodePoint.ofChar '$' ∉ s) :
    fill value? (s ++ t) = s ++ fill value? t := by
  induction s with
  | nil => rfl
  | cons c s ih =>
      rw [List.mem_cons, not_or] at hs
      have hcopied : fill value? (c :: (s ++ t)) = c :: fill value? (s ++ t) := by
        rw [fill, fillBehind, if_neg (Ne.symm hs.1)]
        rfl
      rw [List.cons_append, hcopied, ih hs.2, List.cons_append]

/-- All of a text is a name. -/
def IsName (name : Text) : Prop := name ≠ [] ∧ nameAtHead name = name

instance : Decidable (IsName name) := inferInstanceAs (Decidable (_ ∧ _))

theorem nameAtHead_append (hname : IsName name) (hc : continuesName c = false) :
    nameAtHead (name ++ c :: t) = name := by
  obtain ⟨hne, hhead⟩ := hname
  obtain ⟨b, rest, rfl⟩ := List.exists_cons_of_ne_nil hne
  rw [nameAtHead] at hhead
  split at hhead
  next hb =>
    have hrest : ∀ d ∈ rest, continuesName d = true := by
      rw [← List.takeWhile_eq_self_iff]
      exact List.tail_eq_of_cons_eq hhead
    rw [List.cons_append, nameAtHead, if_pos hb, List.takeWhile_append_of_pos hrest,
      List.takeWhile_cons_of_neg (by simp [hc]), List.append_nil]
  next => cases hhead

theorem atDollar_place (hname : IsName name) (hvalue : value? name = some value) :
    atDollar value? ("\x7b" ++ (name ++ ("\x7d" ++ t))) = (value, name.length + 2) := by
  have hhead : nameAtHead (name ++ CodePoint.ofChar '}' :: t) = name :=
    nameAtHead_append hname (by decide)
  change atDollar value? (CodePoint.ofChar '{' :: (name ++ CodePoint.ofChar '}' :: t)) = _
  rw [atDollar, if_neg (by decide), if_pos rfl]
  simp only [hhead]
  rw [if_pos ⟨hname.1, by simp⟩, hvalue]
  rfl

/-- The value stands where its place was, as it is. -/
theorem fill_place_append (hname : IsName name) (hvalue : value? name = some value) :
    fill value? (place name ++ t) = value ++ fill value? t := by
  have hplace : place name ++ t = CodePoint.ofChar '$' :: ("\x7b" ++ (name ++ ("\x7d" ++ t))) := by
    simp only [place, List.append_assoc]
    rfl
  have hpassed : (Text.ofString "\x7b" ++ (name ++ "\x7d")).length = name.length + 2 := by
    simp [Text.ofString]
  rw [hplace, fill, fillBehind, if_pos rfl, atDollar_place hname hvalue, ← hpassed,
    ← fillBehind_length_append (s := Text.ofString "\x7b" ++ (name ++ "\x7d"))]
  simp only [List.append_assoc]

end PackageRollup.Template
