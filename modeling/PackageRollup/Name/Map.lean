import PackageRollup.Name.Set


/-!
# Maps from names and relations between them

A map is kept as its entries in strictly ascending order of their names. `find?` is the view through
which the operations are described: `find?_update` says all there is to know about `update`.

A relation is a map from names to the sets of names they are related to. A name gets an entry with
the first name it is related to, so relations built from `empty` by `add` have no empty entries.
-/

namespace PackageRollup

structure NameMap (α : Type) where
  entries : List (Text × α)
  ascending : Text.Ascending (entries.map Prod.fst)

namespace NameMap

variable {α : Type}

def empty : NameMap α := ⟨[], Text.ascending_nil⟩

instance : Inhabited (NameMap α) := ⟨empty⟩

/-- The names that have a value, in ascending order. -/
def keys (m : NameMap α) : List Text := m.entries.map Prod.fst

/-- The value of the first entry with a name. -/
def findIn (key : Text) : List (Text × α) → Option α
  | [] => none
  | (k, a) :: es => if k = key then some a else findIn key es

def find? (m : NameMap α) (key : Text) : Option α := findIn key m.entries

instance : Membership Text (NameMap α) := ⟨fun m key ↦ key ∈ m.keys⟩

theorem mem_def {m : NameMap α} {key : Text} : key ∈ m ↔ key ∈ m.keys := Iff.rfl

instance (key : Text) (m : NameMap α) : Decidable (key ∈ m) :=
  inferInstanceAs (Decidable (key ∈ m.keys))

@[simp] theorem find?_empty (key : Text) : (empty : NameMap α).find? key = none := rfl

theorem findIn_isSome_iff {key : Text} {es : List (Text × α)} :
    (findIn key es).isSome ↔ key ∈ es.map Prod.fst := by
  induction es with
  | nil => simp [findIn]
  | cons e es ih =>
    simp only [findIn]
    split
    next h => simp [h]
    next h => simp [ih, Ne.symm h]

theorem mem_iff_find?_isSome {m : NameMap α} {key : Text} : key ∈ m ↔ (m.find? key).isSome :=
  findIn_isSome_iff.symm

/-- Change the value at a name, at its place in the ascending entries. -/
def place (key : Text) (f : Option α → α) : List (Text × α) → List (Text × α)
  | [] => [(key, f none)]
  | (k, a) :: es =>
    if key < k then (key, f none) :: (k, a) :: es
    else if key = k then (k, f (some a)) :: es
    else (k, a) :: place key f es

theorem map_fst_place (key : Text) (f : Option α → α) (es : List (Text × α)) :
    (place key f es).map Prod.fst = NameSet.place key (es.map Prod.fst) := by
  induction es with
  | nil => rfl
  | cons e es ih =>
    simp only [place, NameSet.place, List.map_cons]
    split
    · rfl
    · split <;> simp [ih]

theorem findIn_eq_none_of_lt {key : Text} {es : List (Text × α)}
    (h : ∀ k ∈ es.map Prod.fst, key < k) : findIn key es = none := by
  induction es with
  | nil => rfl
  | cons e es ih =>
    simp only [List.map_cons, List.mem_cons, forall_eq_or_imp] at h
    have : e.1 ≠ key := fun heq ↦ Text.lt_irrefl key (heq ▸ h.1)
    simp [findIn, this, ih h.2]

theorem findIn_place {key other : Text} {f : Option α → α} {es : List (Text × α)}
    (h : Text.Ascending (es.map Prod.fst)) :
    findIn other (place key f es) =
      if other = key then some (f (findIn key es)) else findIn other es := by
  induction es with
  | nil =>
    by_cases hk : other = key
    · simp [place, findIn, hk]
    · simp [place, findIn, hk, Ne.symm hk]
  | cons e es ih =>
    obtain ⟨k, a⟩ := e
    rw [List.map_cons, Text.Ascending, List.pairwise_cons] at h
    simp only [place]
    split
    next hlt =>
      have hne : k ≠ key := fun heq ↦ Text.lt_irrefl key (heq ▸ hlt)
      have hnone : findIn key es = none :=
        findIn_eq_none_of_lt fun u hu ↦ Text.lt_trans hlt (h.1 u hu)
      by_cases hk : other = key
      · subst hk; simp [findIn, hne, hnone]
      · simp [findIn, hk, Ne.symm hk]
    next hlt =>
      split
      next heq =>
        subst heq
        by_cases hk : other = key
        · subst hk; simp [findIn]
        · simp [findIn, hk, Ne.symm hk]
      next hne =>
        simp only [findIn, ih h.2]
        by_cases hk : other = key
        · subst hk; simp [Ne.symm hne]
        · simp [hk]

/-- Change the value at a name; the function is given the value before, if there is one. -/
def update (m : NameMap α) (key : Text) (f : Option α → α) : NameMap α where
  entries := place key f m.entries
  ascending := by
    rw [map_fst_place]
    exact NameSet.ascending_place m.ascending

def insert (m : NameMap α) (key : Text) (a : α) : NameMap α := m.update key fun _ ↦ a

theorem find?_update (m : NameMap α) (key other : Text) (f : Option α → α) :
    (m.update key f).find? other =
      if other = key then some (f (m.find? key)) else m.find? other :=
  findIn_place m.ascending

@[simp] theorem find?_insert (m : NameMap α) (key other : Text) (a : α) :
    (m.insert key a).find? other = if other = key then some a else m.find? other :=
  find?_update ..

@[simp] theorem mem_update {m : NameMap α} {key other : Text} {f : Option α → α} :
    other ∈ m.update key f ↔ other = key ∨ other ∈ m := by
  simp only [mem_def, keys, update, map_fst_place]
  exact NameSet.mem_place

/-- The map of a list of entries; the last entry with a name counts. -/
def ofList (es : List (Text × α)) : NameMap α := es.foldl (fun m e ↦ m.insert e.1 e.2) empty

def map {β : Type} (f : α → β) (m : NameMap α) : NameMap β where
  entries := m.entries.map fun e ↦ (e.1, f e.2)
  ascending := by
    rw [List.map_map]
    exact m.ascending

def size (m : NameMap α) : Nat := m.entries.length

end NameMap

end PackageRollup

namespace PackageRollup

/-- A finite relation between names. -/
abbrev NameRelation := NameMap NameSet

namespace NameRelation

/-- The names that a name is related to. -/
def image (r : NameRelation) (a : Text) : NameSet := (r.find? a).getD .empty

def add (r : NameRelation) (a b : Text) : NameRelation :=
  r.update a fun s ↦ (s.getD .empty).insert b

/-- The relation that holds between the given pairs. -/
def ofPairs (ps : List (Text × Text)) : NameRelation :=
  ps.foldl (fun r p ↦ r.add p.1 p.2) NameMap.empty

def toLists (r : NameRelation) : List (Text × List Text) := r.entries.map fun e ↦ (e.1, e.2.toList)

def pairCount (r : NameRelation) : Nat := (r.entries.map fun e ↦ e.2.size).foldr (· + ·) 0

@[simp] theorem image_empty (a : Text) : image NameMap.empty a = .empty := rfl

theorem image_add (r : NameRelation) (a b c : Text) :
    (r.add a b).image c = if c = a then (r.image a).insert b else r.image c := by
  simp only [image, add, NameMap.find?_update]
  split <;> simp

@[simp] theorem mem_image_add {r : NameRelation} {a b c d : Text} :
    d ∈ (r.add a b).image c ↔ (c = a ∧ d = b) ∨ d ∈ r.image c := by
  rw [image_add]
  by_cases h : c = a
  · subst h; simp
  · simp [h]

theorem mem_image_foldl_add {ps : List (Text × Text)} {r : NameRelation} {a b : Text} :
    b ∈ (ps.foldl (fun r p ↦ add r p.1 p.2) r).image a ↔ (a, b) ∈ ps ∨ b ∈ r.image a := by
  induction ps generalizing r with
  | nil => simp
  | cons p ps ih =>
    obtain ⟨c, d⟩ := p
    simp only [List.foldl_cons, ih, mem_image_add, List.mem_cons, Prod.mk.injEq]
    grind

@[simp] theorem mem_image_ofPairs {ps : List (Text × Text)} {a b : Text} :
    b ∈ (ofPairs ps).image a ↔ (a, b) ∈ ps := by
  simp [ofPairs, mem_image_foldl_add]

end NameRelation

end PackageRollup
