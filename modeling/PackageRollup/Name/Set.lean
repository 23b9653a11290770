import PackageRollup.Text.Basic

/-!
# Sets of names

A set of names is kept as its strictly ascending list, so two sets with the same members are equal
and listing a set needs no sorting.
-/

namespace PackageRollup

theorem Text.lt_trans {a b c : Text} (h : a < b) (k : b < c) : a < c := List.lt_trans h k

theorem Text.lt_irrefl (a : Text) : ¬ a < a := List.lt_irrefl a

theorem Text.lt_of_not_lt_of_ne {a b : Text} (h : ¬ a < b) (hne : a ≠ b) : b < a := by
  by_cases k : b < a
  · exact k
  · exact absurd (List.le_antisymm (List.not_lt.1 k) (List.not_lt.1 h)) hne

abbrev Text.Ascending (ts : List Text) : Prop := ts.Pairwise (· < ·)

theorem Text.ascending_nil : Text.Ascending [] := List.Pairwise.nil

theorem Text.Ascending.eq_of_mem_iff {xs ys : List Text} (hx : Ascending xs) (hy : Ascending ys)
    (h : ∀ t, t ∈ xs ↔ t ∈ ys) : xs = ys := by
  induction xs generalizing ys with
  | nil =>
    cases ys with
    | nil => rfl
    | cons y ys => exact absurd ((h y).2 (by simp)) (by simp)
  | cons x xs ih =>
    cases ys with
    | nil => exact absurd ((h x).1 (by simp)) (by simp)
    | cons y ys =>
      rw [Ascending, List.pairwise_cons] at hx hy
      have hxy : x = y := by
        have hx' := (h x).1 (by simp)
        have hy' := (h y).2 (by simp)
        rcases List.mem_cons.1 hx' with rfl | hx'
        · rfl
        · rcases List.mem_cons.1 hy' with rfl | hy'
          · rfl
          · exact absurd (lt_trans (hx.1 y hy') (hy.1 x hx')) (lt_irrefl x)
      subst hxy
      congr 1
      refine ih hx.2 hy.2 fun t ↦ ⟨fun ht ↦ ?_, fun ht ↦ ?_⟩
      · rcases List.mem_cons.1 ((h t).1 (List.mem_cons_of_mem x ht)) with rfl | k
        · exact absurd (hx.1 t ht) (lt_irrefl t)
        · exact k
      · rcases List.mem_cons.1 ((h t).2 (List.mem_cons_of_mem x ht)) with rfl | k
        · exact absurd (hy.1 t ht) (lt_irrefl t)
        · exact k

structure NameSet where
  toList : List Text
  ascending : Text.Ascending toList
deriving DecidableEq

namespace NameSet

instance : Membership Text NameSet := ⟨fun s t ↦ t ∈ s.toList⟩

theorem mem_def {s : NameSet} {t : Text} : t ∈ s ↔ t ∈ s.toList := Iff.rfl

instance (t : Text) (s : NameSet) : Decidable (t ∈ s) :=
  inferInstanceAs (Decidable (t ∈ s.toList))

@[ext] theorem ext {s t : NameSet} (h : ∀ x, x ∈ s ↔ x ∈ t) : s = t := by
  cases s with
  | mk xs hx =>
    cases t with
    | mk ys hy =>
      have : xs = ys := hx.eq_of_mem_iff hy h
      subst this
      rfl

def empty : NameSet := ⟨[], Text.ascending_nil⟩

@[simp] theorem not_mem_empty (t : Text) : t ∉ empty := by
  simp [mem_def, empty]

/-- Put a name at its place in an ascending list. -/
def place (t : Text) : List Text → List Text
  | [] => [t]
  | x :: xs => if t < x then t :: x :: xs else if t = x then x :: xs else x :: place t xs

theorem mem_place {t u : Text} {xs : List Text} : u ∈ place t xs ↔ u = t ∨ u ∈ xs := by
  induction xs with
  | nil => simp [place]
  | cons x xs ih =>
    simp only [place]
    split
    · simp
    · split
      next h => subst h; simp
      next => simp only [List.mem_cons, ih]; grind

theorem ascending_place {t : Text} {xs : List Text} (h : Text.Ascending xs) :
    Text.Ascending (place t xs) := by
  induction xs with
  | nil => simp [place]
  | cons x xs ih =>
    rw [Text.Ascending, List.pairwise_cons] at h
    simp only [place]
    split
    next hlt =>
      rw [Text.Ascending, List.pairwise_cons]
      refine ⟨fun u hu ↦ ?_, List.pairwise_cons.2 h⟩
      rcases List.mem_cons.1 hu with rfl | hu
      · exact hlt
      · exact Text.lt_trans hlt (h.1 u hu)
    next hlt =>
      split
      · exact List.pairwise_cons.2 h
      next hne =>
        refine List.pairwise_cons.2 ⟨fun u hu ↦ ?_, ih h.2⟩
        rcases mem_place.1 hu with rfl | hu
        · exact Text.lt_of_not_lt_of_ne hlt hne
        · exact h.1 u hu

def insert (t : Text) (s : NameSet) : NameSet := ⟨place t s.toList, ascending_place s.ascending⟩

@[simp] theorem mem_insert {t u : Text} {s : NameSet} : u ∈ s.insert t ↔ u = t ∨ u ∈ s :=
  mem_place

def ofList : List Text → NameSet
  | [] => empty
  | t :: ts => (ofList ts).insert t

@[simp] theorem mem_ofList {t : Text} {ts : List Text} : t ∈ ofList ts ↔ t ∈ ts := by
  induction ts with
  | nil => simp [ofList]
  | cons u us ih => simp [ofList, ih]

def size (s : NameSet) : Nat := s.toList.length

@[simp] theorem ofList_toList (s : NameSet) : ofList s.toList = s := by
  ext t
  simp [mem_def (s := s)]

theorem nodup_toList (s : NameSet) : s.toList.Nodup :=
  s.ascending.imp fun {a b} (h : a < b) (heq : a = b) ↦ Text.lt_irrefl b (heq ▸ h)

end NameSet

end PackageRollup
