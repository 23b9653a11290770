import Mathlib.Data.List.Nodup
import PackageRollup.Name.Map

/-!
# Maps and relations as lists

The entries of a map list exactly what look-up finds, and the lists of a relation hold exactly the
related pairs. A relation that grew from nothing by adding pairs has no empty entries, so that a
name has an entry if and only if it is related to some name, and two such relations are equal if
they relate the same names.
-/

namespace PackageRollup

theorem Text.Ascending.nodup {ts : List Text} (h : Ascending ts) : ts.Nodup :=
  h.imp fun {a b} (hab : a < b) (heq : a = b) ↦ lt_irrefl b (heq ▸ hab)

namespace NameMap

variable {α β : Type}

theorem findIn_eq_some_iff {key : Text} {a : α} {es : List (Text × α)}
    (h : (es.map Prod.fst).Nodup) : findIn key es = some a ↔ (key, a) ∈ es := by
  induction es with
  | nil => simp [findIn]
  | cons e es ih =>
      obtain ⟨k, c⟩ := e
      rw [List.map_cons, List.nodup_cons] at h
      by_cases hk : k = key
      · subst hk
        have hrest : (k, a) ∉ es := fun hmem ↦ h.1 (List.mem_map.mpr ⟨(k, a), hmem, rfl⟩)
        simp [findIn, hrest, eq_comm]
      · simp [findIn, hk, ih h.2, Ne.symm hk]

theorem mem_entries_iff {m : NameMap α} {key : Text} {a : α} :
    (key, a) ∈ m.entries ↔ m.find? key = some a :=
  (findIn_eq_some_iff m.ascending.nodup).symm

theorem keys_ascending (m : NameMap α) : Text.Ascending m.keys := m.ascending

theorem mem_keys_iff {m : NameMap α} {key : Text} : key ∈ m.keys ↔ ∃ a, m.find? key = some a := by
  rw [← mem_def, mem_iff_find?_isSome, Option.isSome_iff_exists]

theorem entries_pairwise (m : NameMap α) : m.entries.Pairwise fun e f ↦ e.1 < f.1 :=
  List.pairwise_map.mp m.ascending

/-- A map is determined by what look-up finds. -/
theorem eq_of_find? {m n : NameMap α} (h : ∀ key, m.find? key = n.find? key) : m = n := by
  have hnodup : ∀ m : NameMap α, m.entries.Nodup := fun m ↦
    List.Nodup.of_map Prod.fst m.keys_ascending.nodup
  have hmem : ∀ e, e ∈ m.entries ↔ e ∈ n.entries := by
    rintro ⟨key, a⟩
    rw [mem_entries_iff, mem_entries_iff, h key]
  have hperm : m.entries.Perm n.entries :=
    (List.perm_ext_iff_of_nodup (hnodup m) (hnodup n)).mpr hmem
  have heq : m.entries = n.entries := by
    apply List.Perm.eq_of_pairwise _ m.entries_pairwise n.entries_pairwise hperm
    intro e f _ _ hef hfe
    exact absurd (Text.lt_trans hef hfe) (Text.lt_irrefl e.1)
  cases m
  cases n
  cases heq
  rfl

@[simp] theorem find?_map (f : α → β) (m : NameMap α) (key : Text) :
    (m.map f).find? key = (m.find? key).map f := by
  obtain ⟨es, hes⟩ := m
  simp only [find?, map]
  clear hes
  induction es with
  | nil => rfl
  | cons e es ih =>
      by_cases hk : e.1 = key
      · simp [findIn, hk]
      · simpa [findIn, hk] using ih

end NameMap

namespace NameRelation

/-- Every name that has an entry is related to some name. -/
def NoEmptyImage (r : NameRelation) : Prop := ∀ a s, r.find? a = some s → ∃ b, b ∈ s

theorem noEmptyImage_empty : NoEmptyImage NameMap.empty := by
  intro a s h
  simp at h

theorem NoEmptyImage.add {r : NameRelation} (h : r.NoEmptyImage) (a b : Text) :
    (r.add a b).NoEmptyImage := by
  intro c s hs
  rw [NameRelation.add, NameMap.find?_update] at hs
  split at hs
  · obtain rfl := Option.some.inj hs
    exact ⟨b, by simp⟩
  · exact h c s hs

theorem NoEmptyImage.foldl_add {r : NameRelation} (h : r.NoEmptyImage) (ps : List (Text × Text)) :
    (ps.foldl (fun r p ↦ r.add p.1 p.2) r).NoEmptyImage := by
  induction ps generalizing r with
  | nil => exact h
  | cons p ps ih => exact ih (h.add p.1 p.2)

theorem noEmptyImage_ofPairs (ps : List (Text × Text)) : (ofPairs ps).NoEmptyImage :=
  noEmptyImage_empty.foldl_add ps

theorem mem_image_iff {r : NameRelation} {a b : Text} :
    b ∈ r.image a ↔ ∃ s, r.find? a = some s ∧ b ∈ s := by
  cases h : r.find? a <;> simp [image, h]

theorem image_eq_of_find? {r : NameRelation} {a : Text} {s : NameSet} (h : r.find? a = some s) :
    r.image a = s := by
  simp [image, h]

theorem NoEmptyImage.mem_keys_iff {r : NameRelation} (h : r.NoEmptyImage) {a : Text} :
    a ∈ r.keys ↔ ∃ b, b ∈ r.image a := by
  rw [NameMap.mem_keys_iff]
  constructor
  · rintro ⟨s, hs⟩
    rw [image_eq_of_find? hs]
    exact h a s hs
  · rintro ⟨b, hb⟩
    obtain ⟨s, hs, _⟩ := mem_image_iff.mp hb
    exact ⟨s, hs⟩

/-- Without empty entries a relation is determined by the related pairs. -/
theorem NoEmptyImage.eq_of_mem_image_iff {r s : NameRelation} (hr : r.NoEmptyImage)
    (hs : s.NoEmptyImage) (h : ∀ a b, b ∈ r.image a ↔ b ∈ s.image a) : r = s := by
  apply NameMap.eq_of_find?
  intro a
  have himage : r.image a = s.image a := NameSet.ext (h a)
  have hkeys : a ∈ r.keys ↔ a ∈ s.keys := by
    rw [hr.mem_keys_iff, hs.mem_keys_iff, himage]
  rw [NameMap.mem_keys_iff, NameMap.mem_keys_iff] at hkeys
  cases hra : r.find? a with
  | none =>
      cases hsa : s.find? a with
      | none => rfl
      | some t => simp [hra, hsa] at hkeys
  | some u =>
      obtain ⟨t, ht⟩ := hkeys.mp ⟨u, hra⟩
      rw [image_eq_of_find? hra, image_eq_of_find? ht] at himage
      rw [ht, himage]

theorem map_fst_toLists (r : NameRelation) : r.toLists.map Prod.fst = r.keys := by
  simp [toLists, NameMap.keys]

/-- The lists of a relation are the images of the names that have an entry. -/
theorem mem_toLists_iff {r : NameRelation} {a : Text} {ts : List Text} :
    (a, ts) ∈ r.toLists ↔ a ∈ r.keys ∧ ts = (r.image a).toList := by
  simp only [toLists, List.mem_map, Prod.mk.injEq, Prod.exists, NameMap.mem_keys_iff]
  constructor
  · rintro ⟨_, s, hmem, rfl, rfl⟩
    have hs := NameMap.mem_entries_iff.mp hmem
    exact ⟨⟨s, hs⟩, by rw [image_eq_of_find? hs]⟩
  · rintro ⟨⟨s, hs⟩, rfl⟩
    exact ⟨a, s, NameMap.mem_entries_iff.mpr hs, rfl, by rw [image_eq_of_find? hs]⟩

theorem findIn_toLists (r : NameRelation) (a : Text) :
    (NameMap.findIn a r.toLists).getD [] = (r.image a).toList := by
  have hfind : NameMap.findIn a r.toLists = (r.find? a).map NameSet.toList :=
    NameMap.find?_map NameSet.toList r a
  rw [hfind, image]
  cases r.find? a <;> rfl

theorem exists_mem_toLists_iff {r : NameRelation} {a b : Text} :
    (∃ ts, (a, ts) ∈ r.toLists ∧ b ∈ ts) ↔ b ∈ r.image a := by
  simp only [mem_toLists_iff, NameMap.mem_keys_iff]
  constructor
  · rintro ⟨_, ⟨_, rfl⟩, hb⟩
    exact hb
  · intro hb
    obtain ⟨s, hs, _⟩ := mem_image_iff.mp hb
    exact ⟨_, ⟨⟨s, hs⟩, rfl⟩, hb⟩

theorem ascending_of_mem_toLists {r : NameRelation} {e : Text × List Text} (h : e ∈ r.toLists) :
    Text.Ascending e.2 := by
  obtain ⟨_, hts⟩ := mem_toLists_iff.mp h
  rw [hts]
  exact (r.image e.1).ascending

theorem NoEmptyImage.ne_nil_of_mem_toLists {r : NameRelation} (h : r.NoEmptyImage)
    {e : Text × List Text} (he : e ∈ r.toLists) : e.2 ≠ [] := by
  obtain ⟨hkey, hts⟩ := mem_toLists_iff.mp he
  obtain ⟨b, hb⟩ := h.mem_keys_iff.mp hkey
  rw [hts]
  exact List.ne_nil_of_mem hb

end NameRelation

end PackageRollup
