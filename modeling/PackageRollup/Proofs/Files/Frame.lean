import PackageRollup.Proofs.Files.Tree

/-!
# What writing a file leaves alone

Writing a file makes the directories above it that are missing, and changes the entry at the one
location that the path leads to. Every other entry stays as it is.
-/

namespace PackageRollup

namespace Tree

variable {t u v w : Tree} {path : Path} {content : Bytes} {l : Location}

/-! ## Frames -/

/-- All entries but the one at the location are the same, and so are the current directory and the
device. Directories were made only where there was nothing and where the path leads through. -/
structure Frame (path : Path) (written : Option Location) (t u : Tree) : Prop where
  current : u.current = t.current
  device : u.device = t.device
  find? : ∀ l ∉ written, u.find? l = t.find? l ∨
    t.find? l = none ∧ u.find? l = some .directory ∧
      ∃ q : Path, q.Begins path.parent ∧ u.lookup q = .ok (.found l .directory)

/-- The path leads to a file with the content, where no directory was. Everything else is framed. -/
def Puts (path : Path) (content : Bytes) (t u : Tree) : Prop :=
  ∃ l, u.lookup path = .ok (.found l (.file content)) ∧ t.find? l ≠ some .directory ∧
    Frame path (some l) t u

theorem Puts.readFile (h : Puts path content t u) : u.readFile path = .ok content := by
  obtain ⟨l, hlookup, -⟩ := h
  exact readFile_eq_ok_iff.mpr ⟨l, hlookup⟩

theorem Frame.refl (path : Path) (written : Option Location) (t : Tree) :
    Frame path written t t where
  current := rfl
  device := rfl
  find? _ _ := Or.inl rfl

theorem find?_of_ne_nil (hl : l ≠ []) : t.find? l = t.root.find? l := if_neg hl

theorem GrowsAlong.frame (h : GrowsAlong path.parent t u) : Frame path none t u where
  current := h.current
  device := h.device
  find? l _ := by
    by_cases hl : l = []
    · subst hl
      exact Or.inl rfl
    · rw [find?_of_ne_nil hl, find?_of_ne_nil hl]
      rcases h.find? l with hsame | ⟨hnone, hdirectory⟩
      · exact Or.inl hsame
      · exact Or.inr ⟨hnone, hdirectory, h.made l hnone hdirectory⟩

/-- A tree that differs in one file only from that with the directories made for it, where the path
leads to a file or to nothing. -/
theorem puts_of_find? (hgrows : GrowsAlong path.parent t u) {place : Place}
    (hplace : u.lookup path = .ok place) (hentry : place.occupant? ≠ some .directory)
    (hcurrent : w.current = u.current) (hdevice : w.device = u.device)
    (hfind : ∀ k, w.root.find? k =
      if k = place.location then some (.file content) else u.root.find? k) :
    Puts path content t w := by
  have hnil := location_ne_nil_of_lookup hplace hentry
  have hbefore : u.root.find? place.location ≠ some .directory := by
    rwa [find?_of_lookup hplace hentry]
  have hdir : ∀ k, u.root.find? k = some .directory → w.root.find? k = some .directory := by
    intro k hk
    have hne : k ≠ place.location := by
      rintro rfl
      exact hbefore hk
    rw [hfind, if_neg hne, hk]
  refine ⟨place.location, ?_, ?_, hcurrent.trans hgrows.current, hdevice.trans hgrows.device,
    fun k hk ↦ ?_⟩
  · exact lookup_replaced hcurrent hdir hplace hentry ((hfind _).trans (if_pos rfl))
  · rw [find?_of_ne_nil hnil]
    exact fun hdirectory ↦ hbefore (hgrows.find?_eq_some hdirectory)
  · have hne : k ≠ place.location := fun h ↦ hk (h ▸ rfl)
    have hsame : w.find? k = u.find? k := by rw [Tree.find?, Tree.find?, hfind, if_neg hne]
    rcases hgrows.frame.find? k (by simp) with hu | ⟨hnone, hdirectory, q, hq, hlookup⟩
    · exact Or.inl (hsame.trans hu)
    · exact Or.inr ⟨hnone, hsame.trans hdirectory, q, hq,
        lookup_directory hcurrent hdir hlookup⟩

theorem puts_put_of_openFile (hgrows : GrowsAlong path.parent t u)
    (hopen : u.openFile path = .ok (l, v)) (content : Bytes) :
    Puts path content t (v.put l (.file content)) := by
  obtain ⟨rfl, place, hplace, rfl, hentry⟩ := exists_of_openFile hopen
  apply puts_of_find? hgrows hplace hentry
  · rfl
  · rfl
  · intro k
    rw [put, Trie.find?_put, put, Trie.find?_put]
    split <;> rfl

theorem device_of_openFile (hopen : u.openFile path = .ok (l, v)) : v.device = u.device := by
  obtain ⟨rfl, -⟩ := exists_of_openFile hopen
  rfl

end Tree

/-- What is kept of bytes is a beginning of them. -/
theorem Device.kept_prefix (d : Device) (bytes : Bytes) : d.kept bytes <+: bytes := by
  rw [Device.kept]
  split
  · exact List.take_prefix _ _
  · exact List.prefix_rfl

theorem Device.kept_nil (d : Device) : d.kept [] = [] :=
  List.prefix_nil.mp (d.kept_prefix [])

theorem Device.kept_of_breakOff?_eq_none {d : Device} {bytes : Bytes}
    (h : d.breakOff? bytes = none) : d.kept bytes = bytes := by
  rw [Device.kept, h]

end PackageRollup
