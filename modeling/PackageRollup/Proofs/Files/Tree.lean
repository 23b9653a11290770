import PackageRollup.Files.Tree
import PackageRollup.Proofs.Text.Pieces

/-!
# Files that stay where they are

Following a path looks at the entries on its way and at nothing else. What a path leads to is found
again in every tree that has the same directories and has something at its location. Making the
directories of a path puts them where nothing was and where beginnings of the path lead, so it keeps
every file and every path to a file.
-/

namespace PackageRollup

def Place.occupant? : Place → Option Entry
  | found _ e => some e
  | vacant _ => none

/-- The parts of the path can be names: they have no null character, and no surrogates but those
that stand for bytes. -/
def Path.HasNames (p : Path) : Prop :=
  ∀ part ∈ p.parts, ∀ c ∈ part, c.val ≠ 0 ∧ (c.isSurrogate → (Utf8.rawByte? c).isSome)

instance (p : Path) : Decidable p.HasNames :=
  inferInstanceAs (Decidable (∀ part ∈ p.parts, ∀ c ∈ part,
    c.val ≠ 0 ∧ (c.isSurrogate → (Utf8.rawByte? c).isSome)))

theorem Path.HasNames.mono {p q : Path} (h : p.HasNames) (hq : ∀ part ∈ q.parts, part ∈ p.parts) :
    q.HasNames :=
  fun part hpart ↦ h part (hq part hpart)

theorem Path.HasNames.of_mem_text {p : Path} (h : p.HasNames) {c : CodePoint} (hc : c ∈ p.text) :
    c.val ≠ 0 ∧ (c.isSurrogate → (Utf8.rawByte? c).isSome) := by
  rw [Path.text] at hc
  split at hc
  · rw [List.mem_singleton.mp hc]
    decide
  · rcases List.mem_append.mp hc with hc | hc
    · rw [List.eq_of_mem_replicate hc]
      decide
    · rcases Text.mem_join_iff.mp hc with ⟨part, hpart, hc⟩ | ⟨hc, -⟩
      · exact h part hpart c hc
      · rw [List.mem_singleton.mp hc]
        decide

/-- A path that ends on the way to another, or is the same. -/
def Path.Begins (q p : Path) : Prop := q.slashes = p.slashes ∧ q.parts <+: p.parts

theorem Path.Begins.refl (p : Path) : p.Begins p := ⟨rfl, List.prefix_rfl⟩

theorem Path.Begins.trans {p q r : Path} (hp : p.Begins q) (hq : q.Begins r) : p.Begins r :=
  ⟨hp.1.trans hq.1, hp.2.trans hq.2⟩

/-- The file system itself refuses something. -/
def PathFailure.IsRefused (failure : PathFailure) : Prop :=
  ∃ fault place, failure = .refused fault place

namespace Tree

variable {root root' : Trie Bytes Entry} {t t' u : Tree} {p : Path} {place : Place}

/-! ## Following names -/

/-- The tries on a way are those behind the names on it. -/
def Way.On (root : Trie Bytes Entry) : Way → Prop
  | [] => True
  | (name, t) :: w => t = (Way.last root w).child name ∧ Way.On root w

theorem Way.On.tail {w : Way} (h : w.On root) : Way.On root w.tail := by
  cases w with
  | nil => trivial
  | cons e w => exact h.2

theorem Way.On.last_eq {w : Way} (h : w.On root) : w.last root = root.descend w.location := by
  induction w with
  | nil => rfl
  | cons e w ih =>
      have hlocation : Way.location (e :: w) = Way.location w ++ [e.1] := by simp [Way.location]
      rw [hlocation, Trie.descend_append, ← ih h.2]
      exact h.1

theorem Way.On.here_eq {w : Way} (h : w.On root) :
    (w.last root).here = root.find? w.location := by
  rw [h.last_eq, Trie.find?]

theorem Way.location_cons_ne_nil (name : Bytes) (next : Trie Bytes Entry) (w : Way) :
    Way.location ((name, next) :: w) ≠ [] := by
  simp [Way.location]

/-- What is not found to be a directory is what the tree has at its location below the root. -/
theorem find?_of_follow {w : Way} (hw : w.On root) {names : List Bytes}
    (h : follow root w names = .ok place) (hplace : place.occupant? ≠ some .directory) :
    place.location ≠ [] ∧ root.find? place.location = place.occupant? := by
  induction names generalizing w with
  | nil =>
      cases h
      exact absurd rfl hplace
  | cons name names ih =>
      have hnext : Way.On root ((name, (w.last root).child name) :: w) := ⟨rfl, hw⟩
      have hhere := hnext.here_eq
      simp only [follow] at h
      split at h
      · exact ih hw.tail h
      split at h
      · cases h
      split at h
      next => exact ih hnext h
      next content hcontent =>
        split at h
        · cases h
          exact ⟨Way.location_cons_ne_nil _ _ _, hhere.symm.trans hcontent⟩
        · cases h
      next hnone =>
        split at h
        · cases h
          exact ⟨Way.location_cons_ne_nil _ _ _, hhere.symm.trans hnone⟩
        · cases h

theorem follow_singleton {w : Way} {name : Bytes} (hname : name ≠ parentName)
    (hlong : ¬ maxNameBytes < name.length) {e : Entry}
    (he : ((w.last root).child name).here = some e) :
    follow root w [name] =
      .ok (.found (Way.location ((name, (w.last root).child name) :: w)) e) := by
  have hlast : Way.last root ((name, (w.last root).child name) :: w) =
      (w.last root).child name := rfl
  cases e <;> simp [follow, hname, hlong, hlast, he]

/-- A tree with the same directories leads to the same place. A directory is found there again, and
otherwise what the tree has at the location. -/
theorem follow_entry {w w' : Way} (hw : w.On root) (hw' : w'.On root')
    (hnames : w.map Prod.fst = w'.map Prod.fst)
    (hdir : ∀ l, root.find? l = some .directory → root'.find? l = some .directory)
    {names : List Bytes} (h : follow root w names = .ok place) {e : Entry}
    (hfound : place.occupant? = some .directory → e = .directory)
    (hentry : place.occupant? ≠ some .directory → root'.find? place.location = some e) :
    follow root' w' names = .ok (.found place.location e) := by
  -- the two ways hold the same names and so are at the same location, in either tree
  induction names generalizing w w' with
  | nil =>
      cases h
      obtain rfl := hfound rfl
      have hlocation : w.location = w'.location := by rw [Way.location, hnames, Way.location]
      rw [follow, Place.location, hlocation]
  | cons name names ih =>
      have hnext : Way.On root ((name, (w.last root).child name) :: w) := ⟨rfl, hw⟩
      have hnext' : Way.On root' ((name, (w'.last root').child name) :: w') := ⟨rfl, hw'⟩
      have hnames' : ((name, (w.last root).child name) :: w).map Prod.fst =
          ((name, (w'.last root').child name) :: w').map Prod.fst := by
        rw [List.map_cons, List.map_cons, hnames]
      have hlocation : Way.location ((name, (w.last root).child name) :: w) =
          Way.location ((name, (w'.last root').child name) :: w') := by
        rw [Way.location, hnames', Way.location]
      have hhere := hnext.here_eq
      have hhere' := hnext'.here_eq
      simp only [follow] at h
      split at h
      next hparent =>
        rw [follow, if_pos hparent]
        refine ih hw.tail hw'.tail ?_ h
        rw [List.map_tail, hnames, List.map_tail]
      next hparent =>
      split at h
      · cases h
      next hlong =>
      split at h
      next hdirectory =>
        have hdirectory' := hdir _ (hhere.symm.trans hdirectory)
        rw [hlocation, ← hhere'] at hdirectory'
        simp only [follow, if_neg hparent, if_neg hlong, hdirectory']
        exact ih hnext hnext' hnames' h
      all_goals
        split at h
        next hempty =>
          obtain rfl := List.isEmpty_iff.mp hempty
          cases h
          have he := hentry (by simp [Place.occupant?])
          rw [Place.location, hlocation] at he ⊢
          exact follow_singleton hparent hlong (hhere'.trans he)
        next => cases h

/-! ## Following paths -/

theorem follow_of_lookup (h : t.lookup p = .ok place) :
    follow t.root [] (t.startOf p ++ p.location) = .ok place := by
  simp only [lookup] at h
  split at h
  · cases h
  split at h
  · cases h
  split at h
  · cases h
  split at h
  next found hfound =>
    cases h
    exact hfound
  next => cases h

theorem find?_of_lookup (h : t.lookup p = .ok place) (hplace : place.occupant? ≠ some .directory) :
    t.root.find? place.location = place.occupant? :=
  (find?_of_follow (w := []) trivial (follow_of_lookup h) hplace).2

theorem location_ne_nil_of_lookup (h : t.lookup p = .ok place)
    (hplace : place.occupant? ≠ some .directory) : place.location ≠ [] :=
  (find?_of_follow (w := []) trivial (follow_of_lookup h) hplace).1

theorem lookup_entry (hcurrent : u.current = t.current)
    (hdir : ∀ l, t.root.find? l = some .directory → u.root.find? l = some .directory)
    (h : t.lookup p = .ok place) {e : Entry}
    (hfound : place.occupant? = some .directory → e = .directory)
    (hentry : place.occupant? ≠ some .directory → u.root.find? place.location = some e) :
    u.lookup p = .ok (.found place.location e) := by
  have hon : ∀ r, Way.On r [] := fun _ ↦ trivial
  have hfollow := follow_entry (hon t.root) (hon u.root) rfl hdir (follow_of_lookup h) hfound hentry
  have hstart : u.startOf p = t.startOf p := by rw [startOf, startOf, hcurrent]
  simp only [lookup] at h ⊢
  split at h
  · cases h
  split at h
  · cases h
  next hnull =>
  split at h
  · cases h
  next hlong =>
  rw [if_neg hnull, if_neg hlong, hstart, hfollow]

/-- A directory is found again where it was. -/
theorem lookup_directory (hcurrent : u.current = t.current)
    (hdir : ∀ l, t.root.find? l = some .directory → u.root.find? l = some .directory)
    {l : Location} (h : t.lookup p = .ok (.found l .directory)) :
    u.lookup p = .ok (.found l .directory) :=
  lookup_entry hcurrent hdir h (fun _ ↦ rfl) fun hne ↦ absurd rfl hne

/-- What is not found to be a directory is replaced by what a tree with the same directories has. -/
theorem lookup_replaced (hcurrent : u.current = t.current)
    (hdir : ∀ l, t.root.find? l = some .directory → u.root.find? l = some .directory)
    (h : t.lookup p = .ok place) (hplace : place.occupant? ≠ some .directory) {e : Entry}
    (he : u.root.find? place.location = some e) : u.lookup p = .ok (.found place.location e) :=
  lookup_entry hcurrent hdir h (fun hdirectory ↦ absurd hdirectory hplace) fun _ ↦ he

theorem readFile_eq_ok_iff {content : Bytes} :
    t.readFile p = .ok content ↔ ∃ l, t.lookup p = .ok (.found l (.file content)) := by
  simp only [readFile, entryAt]
  cases t.lookup p with
  | error failure => simp
  | ok place =>
      cases place with
      | vacant l => simp
      | found l e => cases e <;> simp

/-! ## Making directories -/

/-- The same entries, and perhaps directories where there was nothing. -/
structure Grows (t u : Tree) : Prop where
  current : u.current = t.current
  device : u.device = t.device
  find? : ∀ l, u.root.find? l = t.root.find? l ∨
    t.root.find? l = none ∧ u.root.find? l = some .directory

theorem Grows.refl (t : Tree) : t.Grows t where
  current := rfl
  device := rfl
  find? _ := Or.inl rfl

theorem Grows.trans {v : Tree} (h : t.Grows u) (k : u.Grows v) : t.Grows v where
  current := k.current.trans h.current
  device := k.device.trans h.device
  find? l := by
    rcases k.find? l with hk | ⟨hnone, hk⟩
    · rcases h.find? l with hl | ⟨hnone, hl⟩
      · exact Or.inl (hk.trans hl)
      · exact Or.inr ⟨hnone, hk.trans hl⟩
    · rcases h.find? l with hl | ⟨-, hl⟩
      · exact Or.inr ⟨hl.symm.trans hnone, hk⟩
      · rw [hnone] at hl
        cases hl

theorem Grows.find?_eq_some (h : t.Grows u) {l : Location} {e : Entry}
    (he : t.root.find? l = some e) : u.root.find? l = some e := by
  rcases h.find? l with hl | ⟨hnone, -⟩
  · exact hl.trans he
  · rw [hnone] at he
    cases he

theorem Grows.readFile (h : t.Grows u) {content : Bytes} (hp : t.readFile p = .ok content) :
    u.readFile p = .ok content := by
  obtain ⟨l, hl⟩ := readFile_eq_ok_iff.mp hp
  have hplace : (Place.found l (.file content)).occupant? ≠ some .directory := by
    simp [Place.occupant?]
  have hfile : u.root.find? l = some (.file content) := h.find?_eq_some (find?_of_lookup hl hplace)
  exact readFile_eq_ok_iff.mpr
    ⟨l, lookup_replaced h.current (fun _ ↦ h.find?_eq_some) hl hplace hfile⟩

theorem Grows.lookup_directory (h : t.Grows u) {l : Location}
    (hl : t.lookup p = .ok (.found l .directory)) : u.lookup p = .ok (.found l .directory) :=
  Tree.lookup_directory h.current (fun _ ↦ h.find?_eq_some) hl

/-- The tree grows only where beginnings of the path lead. -/
structure GrowsAlong (p : Path) (t u : Tree) : Prop extends t.Grows u where
  made : ∀ l, t.root.find? l = none → u.root.find? l = some .directory →
    ∃ q : Path, q.Begins p ∧ u.lookup q = .ok (.found l .directory)

theorem GrowsAlong.refl (p : Path) (t : Tree) : GrowsAlong p t t where
  toGrows := .refl t
  made l hnone hdirectory := by
    rw [hnone] at hdirectory
    cases hdirectory

theorem GrowsAlong.mono {q : Path} (h : GrowsAlong p t u) (hp : p.Begins q) :
    GrowsAlong q t u where
  toGrows := h.toGrows
  made l hnone hdirectory := by
    obtain ⟨b, hb, hl⟩ := h.made l hnone hdirectory
    exact ⟨b, hb.trans hp, hl⟩

theorem GrowsAlong.trans {v : Tree} (h : GrowsAlong p t u) (k : GrowsAlong p u v) :
    GrowsAlong p t v where
  toGrows := h.toGrows.trans k.toGrows
  made l hnone hdirectory := by
    rcases h.find? l with hl | ⟨-, hl⟩
    · exact k.made l (hl.trans hnone) hdirectory
    · obtain ⟨q, hq, hlookup⟩ := h.made l hnone hl
      exact ⟨q, hq, k.toGrows.lookup_directory hlookup⟩

theorem growsAlong_makeDirectory (h : t.makeDirectory p = .ok u) : GrowsAlong p t u := by
  rw [makeDirectory] at h
  split at h
  next l hl =>
    split at h
    · cases h
    cases h
    have hvacant : (Place.vacant l).occupant? ≠ some .directory := by simp [Place.occupant?]
    have hnone : t.root.find? l = none := find?_of_lookup hl hvacant
    have hfind : ∀ k, (t.put l .directory).root.find? k =
        if k = l then some .directory else t.root.find? k := fun k ↦ Trie.find?_put _ _ _ _
    have hgrows : t.Grows (t.put l .directory) := by
      refine ⟨rfl, rfl, fun k ↦ ?_⟩
      rw [hfind]
      split
      next hk => exact Or.inr ⟨hk ▸ hnone, rfl⟩
      next => exact Or.inl rfl
    have hmade : (t.put l .directory).lookup p = .ok (.found l .directory) :=
      lookup_replaced hgrows.current (fun _ ↦ hgrows.find?_eq_some) hl hvacant
        ((hfind l).trans (if_pos rfl))
    refine ⟨hgrows, fun k hk hdirectory ↦ ?_⟩
    rw [hfind] at hdirectory
    split at hdirectory
    next hkl => exact ⟨p, .refl p, hkl ▸ hmade⟩
    next =>
      rw [hk] at hdirectory
      cases hdirectory
  next => cases h
  next => cases h

theorem growsAlong_ensureDirectory (t : Tree) (p : Path) :
    GrowsAlong p t (t.ensureDirectory p).tree := by
  rw [ensureDirectory]
  split
  next hmade => exact growsAlong_makeDirectory hmade
  next => split <;> exact .refl p t
  next => exact .refl p t

theorem growsAlong_ensureNames (t : Tree) (slashes bound : Nat) (names : List Text) :
    GrowsAlong ⟨slashes, names.reverse⟩ t (t.ensureNames slashes bound names).tree := by
  induction bound generalizing names with
  | zero => exact .refl _ t
  | succ bound ih =>
      cases names with
      | nil => exact growsAlong_ensureDirectory t _
      | cons name above =>
          have hbegins : Path.Begins ⟨slashes, above.reverse⟩ ⟨slashes, (name :: above).reverse⟩ :=
            ⟨rfl, by simp⟩
          have habove := (ih above).mono hbegins
          simp only [ensureNames]
          split
          next =>
            split
            next made hmade =>
              rw [hmade] at habove
              exact habove.trans (growsAlong_ensureDirectory made _)
            next => exact habove
          next => exact growsAlong_ensureDirectory t _

theorem growsAlong_ensureDirectories (t : Tree) (p : Path) :
    GrowsAlong p t (t.ensureDirectories p).tree := by
  have h := growsAlong_ensureNames t p.slashes maxMissing p.parts.reverse
  rwa [List.reverse_reverse] at h

/-! ## Opening a file -/

theorem exists_of_openFile {l : Location} (h : t.openFile p = .ok (l, u)) :
    u = t.put l (.file []) ∧ ∃ place, t.lookup p = .ok place ∧ place.location = l ∧
      place.occupant? ≠ some .directory := by
  rw [openFile] at h
  split at h
  next => cases h
  next place hnot hlookup =>
    split at h
    · cases h
    cases h
    refine ⟨rfl, place, hlookup, rfl, ?_⟩
    cases place with
    | vacant l => simp [Place.occupant?]
    | found l e =>
        rintro ⟨⟩
        exact hnot l rfl
  next => cases h

/-! ## Refusals -/

/-- Why no file can be opened at a path after the directories above it have been made, if so. -/
def obstacle? (t : Tree) (p : Path) : Option PathFailure :=
  match t.ensureDirectories p.parent with
  | ⟨_, some failure⟩ => some failure
  | ⟨u, none⟩ =>
    match u.openFile p with
    | .error failure => some failure
    | .ok _ => none

theorem refused_of_lookup (hp : p.HasNames) {failure : PathFailure}
    (h : t.lookup p = .error failure) : failure.IsRefused := by
  have hsurrogates : surrogatesOf p.text = none := by
    rw [surrogatesOf, Utf8.surrogateRunFrom_eq_none_iff]
    intro c hc
    have hname := (hp.of_mem_text hc).2
    cases hraw : Utf8.rawByte? c with
    | some b => simp
    | none =>
        have hnot : ¬ c.isSurrogate := fun hs ↦ by simpa [hraw] using hname hs
        simpa using hnot
  have hnull : ¬ p.text.contains (CodePoint.ofNat 0) := by
    intro hmem
    exact (hp.of_mem_text (List.contains_iff_mem.mp hmem)).1 rfl
  simp only [lookup, hsurrogates, if_neg hnull] at h
  split at h
  · cases h
    exact ⟨_, _, rfl⟩
  split at h
  · cases h
  · cases h
    exact ⟨_, _, rfl⟩

theorem refused_of_makeDirectory (hp : p.HasNames) {failure : PathFailure}
    (h : t.makeDirectory p = .error failure) : failure.IsRefused := by
  rw [makeDirectory] at h
  split at h
  next =>
    split at h
    · cases h
      exact ⟨_, _, rfl⟩
    · cases h
  next =>
    cases h
    exact ⟨_, _, rfl⟩
  next hlookup =>
    cases h
    exact refused_of_lookup hp hlookup

theorem refused_of_openFile (hp : p.HasNames) {failure : PathFailure}
    (h : t.openFile p = .error failure) : failure.IsRefused := by
  rw [openFile] at h
  split at h
  next =>
    cases h
    exact ⟨_, _, rfl⟩
  next =>
    split at h
    · cases h
      exact ⟨_, _, rfl⟩
    · cases h
  next hlookup =>
    cases h
    exact refused_of_lookup hp hlookup

theorem refused_of_ensureDirectory (hp : p.HasNames) {failure : PathFailure}
    (h : (t.ensureDirectory p).failure = some failure) : failure.IsRefused := by
  rw [ensureDirectory] at h
  split at h
  next => cases h
  next =>
    split at h
    · cases h
    · cases h
      exact ⟨_, _, rfl⟩
  next hmake =>
    cases h
    exact refused_of_makeDirectory hp hmake

/-- Names are looked for above each other as long as there are some left. -/
theorem refused_of_ensureNames {slashes bound : Nat} {names : List Text}
    (hnames : Path.HasNames ⟨slashes, names.reverse⟩) (hbound : names.length < bound)
    {failure : PathFailure} (h : (t.ensureNames slashes bound names).failure = some failure) :
    failure.IsRefused := by
  induction bound generalizing names with
  | zero => exact absurd hbound (Nat.not_lt_zero _)
  | succ bound ih =>
      cases names with
      | nil => exact refused_of_ensureDirectory hnames h
      | cons name above =>
          have habove : Path.HasNames ⟨slashes, above.reverse⟩ := by
            apply hnames.mono
            intro part hpart
            simpa using Or.inl (List.mem_reverse.mp hpart)
          simp only [ensureNames] at h
          split at h
          next =>
            split at h
            next => exact refused_of_ensureDirectory hnames h
            next failed hfailed => exact ih habove (Nat.lt_of_succ_lt_succ hbound) h
          next => exact refused_of_ensureDirectory hnames h

/-- A path that can be spelled out, and is not too long, is an obstacle only if the file system
refuses something. -/
theorem refused_of_obstacle? (hp : p.HasNames) (hlen : p.parts.length ≤ maxMissing)
    {failure : PathFailure} (h : t.obstacle? p = some failure) : failure.IsRefused := by
  have hparent : Path.HasNames ⟨p.slashes, p.parts.dropLast.reverse.reverse⟩ := by
    apply hp.mono
    intro part hpart
    rw [List.reverse_reverse] at hpart
    exact List.dropLast_subset _ hpart
  have hbound : p.parts.dropLast.reverse.length < maxMissing := by
    rw [List.length_reverse, List.length_dropLast]
    have hmax : 0 < maxMissing := by decide
    omega
  rw [obstacle?] at h
  split at h
  next hensure =>
    have hfailure := congrArg Changed.failure hensure
    rw [ensureDirectories] at hfailure
    cases h
    exact refused_of_ensureNames hparent hbound hfailure
  next =>
    split at h
    next hopen =>
      cases h
      exact refused_of_openFile hp hopen
    next => cases h

end Tree

end PackageRollup
