import PackageRollup.Proofs.Json.Rest

/-!
# Texts that go beyond a limit

Which texts make the reader stop at one of its limits, said without the reader where that can be
done. A long integer or one bracket too many counts only if the reader comes to it: everything
before it must have been read, so a text with an earlier problem is no such text.
-/

namespace PackageRollup.Json

variable {t u : Text} {l : Limit}

/-! ## Long integers -/

/-- An integer without its sign stands at the front of a text and has `count` digits, more than the
reader takes. Neither a fraction nor an exponent follows, and the first digit is not zero. -/
def LongInteger (t : Text) (count : Nat) : Prop :=
  ∃ ds rest : Text, t = ds ++ rest ∧ ds.length = count ∧ maxDigits < count ∧
    (∀ d ∈ ds, d.isDigit) ∧ (∀ d ∈ ds.head?, d ≠ '0') ∧ (∀ c ∈ rest.head?, ¬ c.isDigit) ∧
    fraction? rest = none ∧ exponent? rest = none

theorem takeDigits_append {ds rest : Text} (hds : ∀ d ∈ ds, d.isDigit)
    (hrest : ∀ c ∈ rest.head?, ¬ c.isDigit) : takeDigits (ds ++ rest) = (ds, rest) := by
  have hstop : rest.takeWhile CodePoint.isDigit = [] ∧ rest.dropWhile CodePoint.isDigit = rest := by
    cases rest with
    | nil => exact ⟨rfl, rfl⟩
    | cons c rest =>
        have hc : ¬ c.isDigit := hrest c rfl
        simp [hc]
  rw [takeDigits_eq, List.takeWhile_append_of_pos hds, List.dropWhile_append_of_pos hds, hstop.1,
    hstop.2, List.append_nil]

theorem eq_append_of_takeDigits {ds rest : Text} (h : takeDigits t = (ds, rest)) :
    t = ds ++ rest ∧ (∀ d ∈ ds, d.isDigit) ∧ ∀ c ∈ rest.head?, ¬ c.isDigit := by
  rw [takeDigits_eq, Prod.mk.injEq] at h
  obtain ⟨rfl, rfl⟩ := h
  refine ⟨List.takeWhile_append_dropWhile.symm, ?_, ?_⟩
  · intro d hd
    exact List.all_eq_true.mp List.all_takeWhile d hd
  · intro c hc
    have hnot := List.head?_dropWhile_not CodePoint.isDigit t
    rw [Option.mem_def.mp hc] at hnot
    simpa using hnot

theorem numberTail_eq_limit_iff {negative : Bool} {whole : Text} :
    numberTail negative whole t = .error (.limit l) ↔
      fraction? t = none ∧ exponent? t = none ∧ maxDigits < whole.length ∧
        l = .digits whole.length := by
  simp only [numberTail]
  cases hf : fraction? t with
  | none =>
      simp only [Option.elim_none, true_and]
      cases he : exponent? t with
      | none =>
          dsimp only
          split
          next hlong => simp [hlong, eq_comm]
          next hshort => simp [hshort]
      | some p => simp
  | some p =>
      simp only [Option.elim_some]
      cases exponent? p.2 <;> simp

theorem number_eq_limit_iff {negative : Bool} {start : Text} :
    number negative start t = .error (.limit l) ↔
      ∃ count, LongInteger t count ∧ l = .digits count := by
  constructor
  · intro h
    match t, h with
    | c :: t, h =>
        simp only [number] at h
        split at h
        · obtain ⟨-, -, hlong, -⟩ := numberTail_eq_limit_iff.mp h
          exact absurd hlong (Nat.not_lt_of_le (by decide : 1 ≤ maxDigits))
        next hzero =>
        split at h
        · cases htake : takeDigits (c :: t) with
          | mk ds rest =>
              rw [htake] at h
              obtain ⟨hf, he, hlong, hl⟩ := numberTail_eq_limit_iff.mp h
              obtain ⟨heq, hds, hrest⟩ := eq_append_of_takeDigits htake
              have hhead : ∀ d ∈ ds.head?, d ≠ '0' := by
                intro d hd
                cases ds with
                | nil => cases hd
                | cons e ds =>
                    have hce : c = e := (List.cons.inj heq).1
                    have hed : e = d := Option.some.inj hd
                    rw [← hed, ← hce]
                    exact hzero
              exact ⟨ds.length, ⟨ds, rest, heq, rfl, hlong, hds, hhead, hrest, hf, he⟩, hl⟩
        · cases h
  · rintro ⟨count, ⟨ds, rest, rfl, rfl, hlong, hds, hhead, hrest, hf, he⟩, rfl⟩
    cases ds with
    | nil => exact absurd hlong (by decide)
    | cons d ds =>
        have hzero : d ≠ '0' := hhead d rfl
        have hdigit : d.isDigit := hds d (List.mem_cons_self ..)
        have htake := takeDigits_append hds hrest
        rw [List.cons_append] at htake ⊢
        simp only [number, if_neg hzero, hdigit, if_true, htake]
        exact numberTail_eq_limit_iff.mpr ⟨hf, he, hlong, rfl⟩

theorem LongInteger.exists_cons {count : Nat} (h : LongInteger t count) :
    ∃ d u, t = d :: u ∧ d.isDigit := by
  obtain ⟨ds, rest, rfl, rfl, hlong, hds, -⟩ := h
  cases ds with
  | nil => exact absurd hlong (by decide)
  | cons d ds => exact ⟨d, ds ++ rest, rfl, hds d (List.mem_cons_self ..)⟩

theorem ne_ofChar_of_isDigit {c : CodePoint} (hc : c.isDigit) {x : Char}
    (hx : ¬ (CodePoint.ofChar x).isDigit) : c ≠ x := by
  rintro rfl
  exact hx hc

/-- No word has a digit among its first two code points. -/
theorem word?_eq_none {c : CodePoint} (hc : c ∈ t.take 2) (hd : c.isDigit) : word? t = none := by
  have hwords : ∀ p ∈ words, 2 ≤ p.1.length ∧ ∀ c ∈ p.1, ¬ c.isDigit := by decide
  rw [word?, List.findSome?_eq_none_iff]
  intro p hp
  obtain ⟨hlen, hnone⟩ := hwords p hp
  have hnot : ¬ p.1.isPrefixOf t := by
    intro hpre
    obtain ⟨rest, rfl⟩ := List.isPrefixOf_iff_prefix.mp hpre
    rw [List.take_append_of_le_length hlen] at hc
    exact hnone c (List.mem_of_mem_take hc) hd
  exact if_neg hnot

theorem scalar_eq_limit_iff :
    scalar t = .error (.limit l) ↔
      ∃ count, (LongInteger t count ∨ ∃ u, t = CodePoint.ofChar '-' :: u ∧ LongInteger u count) ∧
        l = .digits count := by
  constructor
  · intro h
    match t, h with
    | c :: t, h =>
        simp only [scalar] at h
        split at h
        · exact absurd h ((unlimited_stringBody (c :: t) t).map _ l)
        · cases hw : word? (c :: t) with
          | some found =>
              rw [hw] at h
              cases h
          | none =>
              rw [hw] at h
              dsimp only at h
              split at h
              next hsign =>
                obtain ⟨count, hlong, hl⟩ := number_eq_limit_iff.mp h
                exact ⟨count, Or.inr ⟨t, by rw [hsign], hlong⟩, hl⟩
              · obtain ⟨count, hlong, hl⟩ := number_eq_limit_iff.mp h
                exact ⟨count, Or.inl hlong, hl⟩
  · rintro ⟨count, hlong | ⟨u, rfl, hlong⟩, rfl⟩
    · obtain ⟨d, u, rfl, hd⟩ := hlong.exists_cons
      have hquote : d ≠ '"' := ne_ofChar_of_isDigit hd (by decide)
      have hsign : d ≠ '-' := ne_ofChar_of_isDigit hd (by decide)
      have hword : word? (d :: u) = none := word?_eq_none (by simp) hd
      simp only [scalar, if_neg hquote, hword, if_neg hsign]
      exact number_eq_limit_iff.mpr ⟨count, hlong, rfl⟩
    · obtain ⟨d, v, rfl, hd⟩ := hlong.exists_cons
      have hquote : CodePoint.ofChar '-' ≠ '"' := by decide
      have hword : word? (CodePoint.ofChar '-' :: d :: v) = none := word?_eq_none (by simp) hd
      simp only [scalar, if_neg hquote, hword, if_true]
      exact number_eq_limit_iff.mpr ⟨count, hlong, rfl⟩

/-! ## What the reader comes to -/

/-- An item that the reader comes to in the items of an array: the first one, or one after an item
that is read and a comma. -/
inductive ItemAt (item : Text → Read Json) : Text → Text → Prop
  | first (t : Text) : ItemAt item t t
  | next {t u rest t' : Text} {v : Json} (hread : item t = .ok (v, rest))
      (hcomma : skipSpace rest = CodePoint.ofChar ',' :: t')
      (h : ItemAt item (skipSpace t') u) : ItemAt item t u

/-- The value of a member that the reader comes to in the members of an object. -/
inductive MemberAt (item : Text → Read Json) : Text → Text → Prop
  | first {t u name : Text} (hname : memberName t = .ok (name, u)) : MemberAt item t u
  | next {t u name r rest t' : Text} {v : Json} (hname : memberName t = .ok (name, r))
      (hread : item r = .ok (v, rest)) (hcomma : skipSpace rest = CodePoint.ofChar ',' :: t')
      (h : MemberAt item (skipSpace t') u) : MemberAt item t u

/-- The reader of values comes to a long integer, or to a container inside `depth` other ones. -/
inductive Overflows : Nat → Text → Limit → Prop
  | integer {depth count : Nat} {t : Text} (h : LongInteger t count) :
      Overflows depth t (.digits count)
  | negative {depth count : Nat} {t : Text} (h : LongInteger t count) :
      Overflows depth (CodePoint.ofChar '-' :: t) (.digits count)
  | array (t : Text) : Overflows 0 (CodePoint.ofChar '[' :: t) (.nesting .array)
  | object (t : Text) : Overflows 0 (CodePoint.ofChar '\x7b' :: t) (.nesting .object)
  | item {depth : Nat} {t u : Text} {l : Limit} (hat : ItemAt (value depth) (skipSpace t) u)
      (h : Overflows depth u l) : Overflows (depth + 1) (CodePoint.ofChar '[' :: t) l
  | member {depth : Nat} {t u : Text} {l : Limit} (hat : MemberAt (value depth) (skipSpace t) u)
      (h : Overflows depth u l) : Overflows (depth + 1) (CodePoint.ofChar '\x7b' :: t) l

/-- Every comma takes something off the text. -/
theorem length_skipSpace_lt {c : CodePoint} {rest t' : Text} (hrest : rest <:+ t)
    (h : skipSpace rest = c :: t') : (skipSpace t').length < t.length := by
  have hcons : (c :: t').length ≤ rest.length := h ▸ (skipSpace_suffix rest).length_le
  have hspace : (skipSpace t').length ≤ t'.length := (skipSpace_suffix t').length_le
  have hlen : rest.length ≤ t.length := hrest.length_le
  rw [List.length_cons] at hcons
  omega

section Container

variable {item : Text → Read Json} {bound : Nat}

theorem itemAt_of_items (h : items item bound t = .error (.limit l)) :
    ∃ u, ItemAt item t u ∧ item u = .error (.limit l) := by
  induction bound generalizing t with
  | zero => cases h
  | succ bound ih =>
      simp only [items] at h
      cases hi : item t with
      | error e =>
          rw [hi] at h
          cases h
          exact ⟨t, ItemAt.first t, hi⟩
      | ok p =>
          rw [hi] at h
          cases hs : skipSpace p.2 with
          | nil => simp [hs] at h
          | cons c t' =>
              simp only [hs] at h
              split at h
              · cases h
              · split at h
                next hc =>
                  cases hr : items item bound (skipSpace t') with
                  | ok q => simp [hr] at h
                  | error e =>
                      rw [hr] at h
                      cases h
                      obtain ⟨u, hat, hu⟩ := ih hr
                      exact ⟨u, ItemAt.next hi (hc ▸ hs) hat, hu⟩
                · cases h

/-- The bound does not cut the items off. -/
theorem items_of_itemAt (hitem : ∀ t, Leaves t (item t)) (hat : ItemAt item t u)
    (hne : u ≠ []) (hu : item u = .error (.limit l)) (hbound : t.length ≤ bound) :
    items item bound t = .error (.limit l) := by
  induction hat generalizing bound with
  | first t =>
      cases bound with
      | zero => exact absurd (List.length_eq_zero_iff.mp (Nat.le_zero.mp hbound)) hne
      | succ bound => simp [items, hu]
  | @next t u rest t' v hread hcomma _ ih =>
      have hlt := length_skipSpace_lt (hitem t v rest hread) hcomma
      cases bound with
      | zero => omega
      | succ bound =>
          have hnext := ih hne hu (by omega : (skipSpace t').length ≤ bound)
          have hclose : CodePoint.ofChar ',' ≠ ']' := by decide
          simp [items, hread, hcomma, hclose, hnext]

theorem memberAt_of_members (h : members item bound t = .error (.limit l)) :
    ∃ u, MemberAt item t u ∧ item u = .error (.limit l) := by
  induction bound generalizing t with
  | zero => cases h
  | succ bound ih =>
      simp only [members] at h
      cases hn : memberName t with
      | error e =>
          rw [hn] at h
          cases h
          exact absurd hn (unlimited_memberName t l)
      | ok m =>
          rw [hn] at h
          cases hi : item m.2 with
          | error e =>
              simp only [hi] at h
              cases h
              exact ⟨m.2, MemberAt.first hn, hi⟩
          | ok p =>
              simp only [hi] at h
              cases hs : skipSpace p.2 with
              | nil => simp [hs] at h
              | cons c t' =>
                  simp only [hs] at h
                  split at h
                  · cases h
                  · split at h
                    next hc =>
                      cases hr : members item bound (skipSpace t') with
                      | ok q => simp [hr] at h
                      | error e =>
                          rw [hr] at h
                          cases h
                          obtain ⟨u, hat, hu⟩ := ih hr
                          exact ⟨u, MemberAt.next hn hi (hc ▸ hs) hat, hu⟩
                    · cases h

theorem members_of_memberAt (hitem : ∀ t, Leaves t (item t)) (hat : MemberAt item t u)
    (hu : item u = .error (.limit l)) (hbound : t.length ≤ bound) :
    members item bound t = .error (.limit l) := by
  induction hat generalizing bound with
  | @first t u name hname =>
      cases bound with
      | zero =>
          rw [List.length_eq_zero_iff.mp (Nat.le_zero.mp hbound)] at hname
          cases hname
      | succ bound => simp [members, hname, hu]
  | @next t u name r rest t' v hname hread hcomma _ ih =>
      have hr : r <:+ t := leaves_memberName t name r hname
      have hlt := length_skipSpace_lt ((hitem r v rest hread).trans hr) hcomma
      cases bound with
      | zero => omega
      | succ bound =>
          have hnext := ih hu (by omega : (skipSpace t').length ≤ bound)
          have hclose : CodePoint.ofChar ',' ≠ '\x7d' := by decide
          simp [members, hname, hread, hcomma, hclose, hnext]

end Container

/-! ## Values -/

theorem value_eq_scalar {depth : Nat} (harr : t.head? ≠ some (CodePoint.ofChar '['))
    (hobj : t.head? ≠ some (CodePoint.ofChar '\x7b')) : value depth t = scalar t := by
  cases t with
  | nil => cases depth <;> rfl
  | cons c t =>
      have hc : c ≠ '[' := fun h ↦ harr (congrArg some h)
      have hc' : c ≠ '\x7b' := fun h ↦ hobj (congrArg some h)
      cases depth <;> simp [value, hc, hc']

theorem value_array (depth : Nat) (t : Text) :
    value (depth + 1) (CodePoint.ofChar '[' :: t) = array (value depth) t := by
  simp [value]

theorem value_object (depth : Nat) (t : Text) :
    value (depth + 1) (CodePoint.ofChar '\x7b' :: t) = object (value depth) t := by
  have h : CodePoint.ofChar '\x7b' ≠ '[' := by decide
  simp [value, h]

/-- A closing bracket begins no value. -/
theorem value_closing (depth : Nat) (t : Text) :
    value depth (CodePoint.ofChar ']' :: t) =
      .error (.problem .noValue (CodePoint.ofChar ']' :: t)) := by
  cases depth <;> rfl

theorem array_eq_limit_iff {depth : Nat} :
    array (value depth) t = .error (.limit l) ↔
      ∃ u, ItemAt (value depth) (skipSpace t) u ∧ value depth u = .error (.limit l) := by
  cases hs : skipSpace t with
  | nil =>
      have hleft : array (value depth) t ≠ .error (.limit l) := by
        cases depth <;> simp [array, hs, items, value, Except.map]
      refine iff_of_false hleft ?_
      rintro ⟨u, hat, hu⟩
      cases hat with
      | first => cases depth <;> cases hu
      | next hread => cases depth <;> cases hread
  | cons c t' =>
      by_cases hc : c = ']'
      · subst hc
        have hleft : array (value depth) t ≠ .error (.limit l) := by simp [array, hs]
        refine iff_of_false hleft ?_
        rintro ⟨u, hat, hu⟩
        cases hat with
        | first => simp [value_closing] at hu
        | next hread => simp [value_closing] at hread
      · simp only [array, hs, if_neg hc]
        rw [map_eq_limit_iff]
        constructor
        · exact itemAt_of_items
        · rintro ⟨u, hat, hu⟩
          have hne : u ≠ [] := by
            rintro rfl
            cases depth <;> cases hu
          exact items_of_itemAt (leaves_value depth) hat hne hu (Nat.le_refl _)

theorem object_eq_limit_iff {depth : Nat} :
    object (value depth) t = .error (.limit l) ↔
      ∃ u, MemberAt (value depth) (skipSpace t) u ∧ value depth u = .error (.limit l) := by
  cases hs : skipSpace t with
  | nil =>
      have hleft : object (value depth) t ≠ .error (.limit l) := by simp [object, hs]
      refine iff_of_false hleft ?_
      rintro ⟨u, hat, hu⟩
      cases hat with
      | first hname => cases hname
      | next hname => cases hname
  | cons c t' =>
      by_cases hc : c = '\x7d'
      · subst hc
        have hleft : object (value depth) t ≠ .error (.limit l) := by simp [object, hs]
        refine iff_of_false hleft ?_
        rintro ⟨u, hat, hu⟩
        cases hat with
        | first hname => cases hname
        | next hname => cases hname
      · simp only [object, hs, if_neg hc]
        rw [map_eq_limit_iff]
        constructor
        · exact memberAt_of_members
        · rintro ⟨u, hat, hu⟩
          exact members_of_memberAt (leaves_value depth) hat hu (Nat.le_refl _)

theorem overflows_of_scalar {depth : Nat} (h : scalar t = .error (.limit l)) :
    Overflows depth t l := by
  obtain ⟨count, hlong | ⟨u, rfl, hlong⟩, rfl⟩ := scalar_eq_limit_iff.mp h
  · exact Overflows.integer hlong
  · exact Overflows.negative hlong

theorem overflows_of_value {depth : Nat} (h : value depth t = .error (.limit l)) :
    Overflows depth t l := by
  induction depth generalizing t with
  | zero =>
      by_cases harr : t.head? = some (CodePoint.ofChar '[')
      · obtain ⟨t', rfl⟩ := List.head?_eq_some_iff.mp harr
        cases h
        exact Overflows.array t'
      by_cases hobj : t.head? = some (CodePoint.ofChar '\x7b')
      · obtain ⟨t', rfl⟩ := List.head?_eq_some_iff.mp hobj
        cases h
        exact Overflows.object t'
      rw [value_eq_scalar harr hobj] at h
      exact overflows_of_scalar h
  | succ depth ih =>
      by_cases harr : t.head? = some (CodePoint.ofChar '[')
      · obtain ⟨t', rfl⟩ := List.head?_eq_some_iff.mp harr
        rw [value_array] at h
        obtain ⟨u, hat, hu⟩ := array_eq_limit_iff.mp h
        exact Overflows.item hat (ih hu)
      by_cases hobj : t.head? = some (CodePoint.ofChar '\x7b')
      · obtain ⟨t', rfl⟩ := List.head?_eq_some_iff.mp hobj
        rw [value_object] at h
        obtain ⟨u, hat, hu⟩ := object_eq_limit_iff.mp h
        exact Overflows.member hat (ih hu)
      rw [value_eq_scalar harr hobj] at h
      exact overflows_of_scalar h

theorem value_of_overflows {depth : Nat} (h : Overflows depth t l) :
    value depth t = .error (.limit l) := by
  induction h with
  | @integer depth count t hlong =>
      obtain ⟨d, u, rfl, hd⟩ := hlong.exists_cons
      have harr : d ≠ '[' := ne_ofChar_of_isDigit hd (by decide)
      have hobj : d ≠ '\x7b' := ne_ofChar_of_isDigit hd (by decide)
      have hscalar : value depth (d :: u) = scalar (d :: u) :=
        value_eq_scalar (fun h ↦ harr (Option.some.inj h)) (fun h ↦ hobj (Option.some.inj h))
      rw [hscalar]
      exact scalar_eq_limit_iff.mpr ⟨count, Or.inl hlong, rfl⟩
  | @negative depth count t hlong =>
      have hscalar : value depth (CodePoint.ofChar '-' :: t) = scalar (CodePoint.ofChar '-' :: t) :=
        value_eq_scalar (by simp; decide) (by simp; decide)
      rw [hscalar]
      exact scalar_eq_limit_iff.mpr ⟨count, Or.inr ⟨t, rfl, hlong⟩, rfl⟩
  | array t => rfl
  | object t => rfl
  | item hat _ ih =>
      rw [value_array]
      exact array_eq_limit_iff.mpr ⟨_, hat, ih⟩
  | member hat _ ih =>
      rw [value_object]
      exact object_eq_limit_iff.mpr ⟨_, hat, ih⟩

theorem value_eq_limit_iff {depth : Nat} :
    value depth t = .error (.limit l) ↔ Overflows depth t l :=
  ⟨overflows_of_value, value_of_overflows⟩

/-! ## Texts -/

/-- Reading a text goes beyond a limit: behind the white space at its front, and not behind a byte
order mark, the reader comes to a long integer or to a container nested too deep. -/
def ExceedsLimit (t : Text) (l : Limit) : Prop :=
  t.head? ≠ some byteOrderMark ∧ Overflows maxNesting (skipSpace t) l

theorem read_eq_limit_iff : read t = .error (.limit l) ↔ ExceedsLimit t l := by
  simp only [read, readFaulty, ExceedsLimit, ← value_eq_limit_iff]
  by_cases hbom : t.head? = some byteOrderMark
  · simp [hbom]
  · simp only [if_neg hbom]
    cases hv : value maxNesting (skipSpace t) with
    | error e =>
        cases e <;> simp [hbom]
    | ok p =>
        dsimp only
        cases skipSpace p.2 <;> simp

theorem exceedsLimit_replicate {n : Nat} (hn : maxDigits < n) :
    ExceedsLimit (List.replicate n (CodePoint.ofChar '1')) (.digits n) := by
  have hlong : LongInteger (List.replicate n (CodePoint.ofChar '1')) n := by
    refine ⟨List.replicate n '1', [], (List.append_nil _).symm, List.length_replicate, hn,
      ?_, ?_, ?_, rfl, rfl⟩
    · intro d hd
      rw [List.eq_of_mem_replicate hd]
      decide
    · intro d hd
      rw [List.eq_of_mem_replicate (List.mem_of_mem_head? hd)]
      decide
    · intro c hc
      cases hc
  cases n with
  | zero => exact absurd hn (by decide)
  | succ n =>
      have hspace : skipSpace (List.replicate (n + 1) (CodePoint.ofChar '1')) =
          List.replicate (n + 1) (CodePoint.ofChar '1') := rfl
      refine ⟨?_, ?_⟩
      · rw [List.replicate_succ, List.head?_cons]
        decide
      · rw [hspace]
        exact Overflows.integer hlong

theorem overflows_brackets (depth : Nat) (t : Text) :
    Overflows depth (List.replicate (depth + 1) (CodePoint.ofChar '[') ++ t)
      (.nesting .array) := by
  induction depth with
  | zero => exact Overflows.array t
  | succ depth ih =>
      have hspace : skipSpace (List.replicate (depth + 1) (CodePoint.ofChar '[') ++ t) =
          List.replicate (depth + 1) (CodePoint.ofChar '[') ++ t := rfl
      rw [List.replicate_succ, List.cons_append]
      refine Overflows.item ?_ ih
      rw [hspace]
      exact ItemAt.first _

/-- What comes after the brackets does not matter, since the reader does not come to it. -/
theorem exceedsLimit_brackets (t : Text) :
    ExceedsLimit (List.replicate (maxNesting + 1) (CodePoint.ofChar '[') ++ t)
      (.nesting .array) := by
  have hspace : skipSpace (List.replicate (maxNesting + 1) (CodePoint.ofChar '[') ++ t) =
      List.replicate (maxNesting + 1) (CodePoint.ofChar '[') ++ t := by
    rw [List.replicate_succ]
    rfl
  refine ⟨?_, ?_⟩
  · rw [List.replicate_succ, List.cons_append, List.head?_cons]
    decide
  · rw [hspace]
    exact overflows_brackets maxNesting t

end PackageRollup.Json
