import Mathlib.Data.List.TakeDrop
import PackageRollup.Json.Reader

/-!
# What a reader leaves

The JSON reader takes a text apart into white space, brackets, words, numbers and strings. What can
be said of a text and of what is left after any such part can therefore be said of a text and of
what is left after a value. In particular every part of the reader leaves an end of the text that it
was given. Strings and names never go beyond a limit; only numbers and containers do.
-/

namespace PackageRollup.Json

variable {α β : Type} {t u : Text}

/-- The code points of JSON outside of strings. -/
def Bare (c : CodePoint) : Prop := c.val < 128 ∧ c ≠ '"'

instance : DecidablePred Bare := fun c ↦ inferInstanceAs (Decidable (c.val < 128 ∧ c ≠ '"'))

/-- A relation between texts and what is left of them, which goes over code points outside of
strings and over whole strings. -/
structure Passing (R : Text → Text → Prop) : Prop where
  refl : ∀ t, R t t
  trans : ∀ {t u v}, R t u → R u v → R t v
  point : ∀ {c : CodePoint}, Bare c → ∀ t, R (c :: t) t
  string : ∀ {opening t s rest : Text}, stringBody opening t = .ok (s, rest) →
    R (CodePoint.ofChar '"' :: t) rest

/-- The relation holds between a text and what is left to read after an item. -/
def Passes (R : Text → Text → Prop) (t : Text) (r : Read α) : Prop :=
  ∀ a rest, r = .ok (a, rest) → R t rest

/-- What is left to read after an item is an end of the text. -/
def Leaves (t : Text) (r : Read α) : Prop := Passes (fun t rest ↦ rest <:+ t) t r

def Unlimited (r : Read α) : Prop := ∀ l, r ≠ .error (.limit l)

theorem unlimited_problem (p : Problem) (t : Text) :
    Unlimited (.error (.problem p t) : Read α) := by
  intro l h
  cases h

theorem unlimited_ok (p : α × Text) : Unlimited (.ok p) := by
  intro l h
  cases h

theorem map_eq_limit_iff {r : Read α} {f : α × Text → β × Text} {l : Limit} :
    r.map f = .error (.limit l) ↔ r = .error (.limit l) := by
  cases r <;> simp [Except.map]

theorem Unlimited.map {r : Read α} (h : Unlimited r) (f : α × Text → β × Text) :
    Unlimited (r.map f) :=
  fun l hl ↦ h l (map_eq_limit_iff.mp hl)

section Passes

variable {R : Text → Text → Prop}

theorem passes_error (f : Fault) : Passes R t (.error f : Read α) := by
  intro a rest h
  cases h

theorem passes_ok (a : α) (h : R t u) : Passes R t (.ok (a, u)) := by
  intro b rest hr
  cases hr
  exact h

theorem Passes.map {r : Read α} (h : Passes R t r) (f : α → β) :
    Passes R t (r.map fun p ↦ (f p.1, p.2)) := by
  intro b rest hr
  cases r with
  | error e => cases hr
  | ok p =>
      cases hr
      exact h p.1 p.2 rfl

theorem Passing.mono (h : Passing R) {r : Read α} (hr : Passes R u r) (hu : R t u) :
    Passes R t r :=
  fun a rest hrest ↦ h.trans hu (hr a rest hrest)

end Passes

/-! ## White space, numbers and words -/

theorem skipSpace_suffix (t : Text) : skipSpace t <:+ t := List.dropWhile_suffix _

theorem takeDigits_eq (t : Text) :
    takeDigits t = (t.takeWhile CodePoint.isDigit, t.dropWhile CodePoint.isDigit) :=
  List.span_eq_takeWhile_dropWhile _ t

theorem bare_of_isSpace {c : CodePoint} (hc : isSpace c) : Bare c := by
  simp only [isSpace, Bool.or_eq_true, decide_eq_true_eq] at hc
  refine ⟨by omega, ?_⟩
  rintro rfl
  revert hc
  decide

theorem bare_of_isDigit {c : CodePoint} (hc : c.isDigit) : Bare c := by
  simp only [CodePoint.isDigit, Bool.and_eq_true, decide_eq_true_eq] at hc
  refine ⟨by omega, ?_⟩
  rintro rfl
  revert hc
  decide

theorem bare_of_mem_words {p : Text × Json} (hp : p ∈ words) : ∀ c ∈ p.1, Bare c := by
  have hwords : ∀ p ∈ words, ∀ c ∈ p.1, Bare c := by decide
  exact hwords p hp

section Passing

variable {R : Text → Text → Prop} (h : Passing R)
include h

theorem Passing.append {p : Text} (hp : ∀ c ∈ p, Bare c) (t : Text) : R (p ++ t) t := by
  induction p with
  | nil => exact h.refl t
  | cons c p ih =>
      rw [List.forall_mem_cons] at hp
      exact h.trans (h.point hp.1 _) (ih hp.2)

theorem Passing.dropWhile {q : CodePoint → Bool} (hq : ∀ c, q c → Bare c) (t : Text) :
    R t (t.dropWhile q) := by
  have hbare : ∀ c ∈ t.takeWhile q, Bare c :=
    fun c hc ↦ hq c (List.all_eq_true.mp List.all_takeWhile c hc)
  have hsplit := h.append hbare (t.dropWhile q)
  rwa [List.takeWhile_append_dropWhile] at hsplit

theorem passing_skipSpace (t : Text) : R t (skipSpace t) := h.dropWhile (fun _ ↦ bare_of_isSpace) t

theorem passing_takeDigits (t : Text) : R t (takeDigits t).2 := by
  rw [takeDigits_eq]
  exact h.dropWhile (fun _ ↦ bare_of_isDigit) t

theorem passing_fraction? {ds rest : Text} (hf : fraction? t = some (ds, rest)) : R t rest := by
  match t, hf with
  | point :: d :: t, hf =>
      simp only [fraction?, Option.ite_none_right_eq_some, Option.some.injEq] at hf
      obtain ⟨⟨rfl, _⟩, hdigits⟩ := hf
      have hrest : rest = (takeDigits (d :: t)).2 := by rw [hdigits]
      rw [hrest]
      exact h.trans (h.point (by decide) _) (passing_takeDigits h (d :: t))

theorem passing_exponentSign (t : Text) : R t (exponentSign t).2 := by
  match t with
  | [] => exact h.refl []
  | c :: t =>
      simp only [exponentSign]
      split
      next hc =>
        subst hc
        exact h.point (by decide) t
      next =>
        split
        next hc =>
          subst hc
          exact h.point (by decide) t
        next => exact h.refl (c :: t)

theorem passing_exponent? {e : Int} {rest : Text} (he : exponent? t = some (e, rest)) :
    R t rest := by
  match t, he with
  | c :: t, he =>
      simp only [exponent?, Option.ite_none_right_eq_some, Option.ite_none_left_eq_some,
        Option.some.injEq, Prod.mk.injEq] at he
      obtain ⟨hc, -, -, rfl⟩ := he
      have hpoint : R (c :: t) t := by
        rcases hc with rfl | rfl
        · exact h.point (by decide) t
        · exact h.point (by decide) t
      exact h.trans hpoint (h.trans (passing_exponentSign h t) (passing_takeDigits h _))

theorem passes_numberTail (negative : Bool) (whole t : Text) :
    Passes R t (numberTail negative whole t) := by
  simp only [numberTail]
  cases hf : fraction? t with
  | none =>
      simp only [Option.elim_none]
      cases he : exponent? t with
      | none =>
          dsimp only
          split
          · exact passes_error _
          · exact passes_ok _ (h.refl t)
      | some p => exact passes_ok _ (passing_exponent? h he)
  | some p =>
      simp only [Option.elim_some]
      have hp : R t p.2 := passing_fraction? h hf
      cases he : exponent? p.2 with
      | none => exact passes_ok _ hp
      | some q => exact passes_ok _ (h.trans hp (passing_exponent? h he))

theorem passes_number (negative : Bool) (start t : Text) :
    Passes R t (number negative start t) := by
  match t with
  | [] => exact passes_error _
  | c :: t =>
      simp only [number]
      split
      next hc =>
        subst hc
        exact h.mono (passes_numberTail h negative _ t) (h.point (by decide) t)
      next =>
        split
        · exact h.mono (passes_numberTail h negative _ _) (passing_takeDigits h (c :: t))
        · exact passes_error _

theorem passing_word? {v : Json} {rest : Text} (hw : word? t = some (v, rest)) : R t rest := by
  obtain ⟨p, hp, hv⟩ := List.exists_of_findSome?_eq_some hw
  simp only [Option.ite_none_right_eq_some, Option.some.injEq, Prod.mk.injEq] at hv
  obtain ⟨hfront, -, rfl⟩ := hv
  obtain ⟨u, rfl⟩ := List.isPrefixOf_iff_prefix.mp hfront
  rw [List.drop_left]
  exact h.append (bare_of_mem_words hp) u

theorem passes_scalar (t : Text) : Passes R t (scalar t) := by
  match t with
  | [] => exact passes_error _
  | c :: t =>
      simp only [scalar]
      split
      next hc =>
        subst hc
        have hstring : Passes R (CodePoint.ofChar '"' :: t)
            (stringBody (CodePoint.ofChar '"' :: t) t) := fun s rest hs ↦ h.string hs
        exact hstring.map Json.str
      next =>
        cases hw : word? (c :: t) with
        | some found => exact passes_ok found.1 (passing_word? h hw)
        | none =>
            dsimp only
            split
            next hc =>
              subst hc
              exact h.mono (passes_number h true _ t) (h.point (by decide) t)
            next => exact passes_number h false (c :: t) (c :: t)

/-! ## Containers -/

theorem passing_skipSpace_cons {c : CodePoint} (hs : skipSpace t = c :: u) (hc : Bare c) :
    R t u :=
  h.trans (hs ▸ passing_skipSpace h t) (h.point hc u)

theorem passes_memberName (t : Text) : Passes R t (memberName t) := by
  match t with
  | [] => exact passes_error _
  | c :: t =>
      simp only [memberName]
      split
      next hc =>
        subst hc
        cases hs : stringBody (CodePoint.ofChar '"' :: t) t with
        | error e => exact passes_error e
        | ok p =>
            dsimp only
            cases hp : skipSpace p.2 with
            | nil => exact passes_error _
            | cons d u =>
                dsimp only
                split
                next hd =>
                  have hu : R p.2 u := passing_skipSpace_cons h hp (hd ▸ by decide)
                  exact passes_ok _ (h.trans (h.string hs) (h.trans hu (passing_skipSpace h u)))
                next => exact passes_error _
      next => exact passes_error _

section Container

variable {item : Text → Read Json} (hitem : ∀ t, Passes R t (item t))
include hitem

theorem passes_items (bound : Nat) (t : Text) : Passes R t (items item bound t) := by
  induction bound generalizing t with
  | zero => exact passes_error _
  | succ bound ih =>
      simp only [items]
      cases hi : item t with
      | error e => exact passes_error e
      | ok p =>
          dsimp only
          have hp : R t p.2 := hitem t p.1 p.2 hi
          cases hs : skipSpace p.2 with
          | nil => exact passes_error _
          | cons c u =>
              dsimp only
              split
              next hc =>
                exact passes_ok _ (h.trans hp (passing_skipSpace_cons h hs (hc ▸ by decide)))
              next =>
                split
                next hc =>
                  have hu : R t u := h.trans hp (passing_skipSpace_cons h hs (hc ▸ by decide))
                  have hrest := h.mono (ih (skipSpace u)) (h.trans hu (passing_skipSpace h u))
                  cases hr : items item bound (skipSpace u) with
                  | error e => exact passes_error e
                  | ok q => exact passes_ok _ (hrest q.1 q.2 hr)
                next => exact passes_error _

theorem passes_members (bound : Nat) (t : Text) : Passes R t (members item bound t) := by
  induction bound generalizing t with
  | zero => exact passes_error _
  | succ bound ih =>
      simp only [members]
      cases hn : memberName t with
      | error e => exact passes_error e
      | ok m =>
          dsimp only
          have hm : R t m.2 := passes_memberName h t m.1 m.2 hn
          cases hi : item m.2 with
          | error e => exact passes_error e
          | ok p =>
              dsimp only
              have hp : R t p.2 := h.trans hm (hitem m.2 p.1 p.2 hi)
              cases hs : skipSpace p.2 with
              | nil => exact passes_error _
              | cons c u =>
                  dsimp only
                  split
                  next hc =>
                    exact passes_ok _
                      (h.trans hp (passing_skipSpace_cons h hs (hc ▸ by decide)))
                  next =>
                    split
                    next hc =>
                      have hu : R t u :=
                        h.trans hp (passing_skipSpace_cons h hs (hc ▸ by decide))
                      have hrest := h.mono (ih (skipSpace u)) (h.trans hu (passing_skipSpace h u))
                      cases hr : members item bound (skipSpace u) with
                      | error e => exact passes_error e
                      | ok q => exact passes_ok _ (hrest q.1 q.2 hr)
                    next => exact passes_error _

theorem passes_array (t : Text) : Passes R t (array item t) := by
  have hs := passing_skipSpace h t
  simp only [array]
  cases ht : skipSpace t with
  | nil => exact h.mono ((passes_items h hitem 1 []).map Json.arr) (ht ▸ hs)
  | cons c u =>
      dsimp only
      split
      next hc => exact passes_ok _ (passing_skipSpace_cons h ht (hc ▸ by decide))
      next => exact h.mono ((passes_items h hitem (u.length + 1) (c :: u)).map Json.arr) (ht ▸ hs)

theorem passes_object (t : Text) : Passes R t (object item t) := by
  have hs := passing_skipSpace h t
  simp only [object]
  cases ht : skipSpace t with
  | nil => exact passes_error _
  | cons c u =>
      dsimp only
      split
      next hc => exact passes_ok _ (passing_skipSpace_cons h ht (hc ▸ by decide))
      next => exact h.mono ((passes_members h hitem (u.length + 1) (c :: u)).map Json.obj) (ht ▸ hs)

end Container

theorem passes_value (depth : Nat) (t : Text) : Passes R t (value depth t) := by
  induction depth generalizing t with
  | zero =>
      match t with
      | [] => exact passes_error _
      | c :: t =>
          simp only [value]
          split
          · exact passes_error _
          · split
            · exact passes_error _
            · exact passes_scalar h (c :: t)
  | succ depth ih =>
      match t with
      | [] => exact passes_error _
      | c :: t =>
          simp only [value]
          split
          next hc => exact h.mono (passes_array h ih t) (hc ▸ h.point (by decide) t)
          next =>
            split
            next hc => exact h.mono (passes_object h ih t) (hc ▸ h.point (by decide) t)
            next => exact passes_scalar h (c :: t)

end Passing

/-! ## Strings -/

theorem Unlimited.consElement {r : Read (List Element)} (h : Unlimited r) (e : Element) :
    Unlimited (consElement e r) := by
  intro l hl
  cases r with
  | error f =>
      cases hl
      exact h l rfl
  | ok p => cases hl

theorem Passes.consElement {R : Text → Text → Prop} {r : Read (List Element)} (h : Passes R t r)
    (e : Element) : Passes R t (consElement e r) := by
  intro es rest hr
  cases r with
  | error f => cases hr
  | ok p =>
      cases hr
      exact h p.1 p.2 rfl

theorem unlimited_stringElements (opening t : Text) : Unlimited (stringElements opening t) := by
  fun_induction stringElements opening t with
  | case2 t => exact unlimited_ok _
  | case4 w x y z t n _ _ _ ih => exact ih.consElement _
  | case8 e t _ x _ _ ih => exact ih.consElement _
  | case10 c t _ _ _ ih => exact ih.consElement _
  | _ => exact unlimited_problem _ _

theorem unlimited_stringBody (opening t : Text) : Unlimited (stringBody opening t) :=
  (unlimited_stringElements opening t).map _

theorem unlimited_memberName (t : Text) : Unlimited (memberName t) := by
  match t with
  | [] => exact unlimited_problem _ _
  | c :: t =>
      simp only [memberName]
      split
      · have hbody := unlimited_stringBody (c :: t) t
        cases hs : stringBody (c :: t) t with
        | error e =>
            intro l hl
            cases hl
            exact hbody l hs
        | ok p =>
            dsimp only
            split
            · exact unlimited_problem _ _
            · split
              · exact unlimited_ok _
              · exact unlimited_problem _ _
      · exact unlimited_problem _ _

/-! ## Ends of the text -/

theorem Leaves.mono {r : Read α} (h : Leaves u r) (hu : u <:+ t) : Leaves t r :=
  fun a rest hr ↦ (h a rest hr).trans hu

theorem leaves_stringElements (opening t : Text) : Leaves t (stringElements opening t) := by
  fun_induction stringElements opening t with
  | case2 t => exact passes_ok [] (List.suffix_cons _ t)
  | case4 w x y z t n _ _ _ ih =>
      refine Passes.consElement ?_ _
      exact ih.mono (List.suffix_append [_, _, w, x, y, z] t)
  | case8 e t _ x _ _ ih =>
      refine Passes.consElement ?_ _
      exact ih.mono (List.suffix_append [_, e] t)
  | case10 c t _ _ _ ih =>
      refine Passes.consElement ?_ _
      exact ih.mono (List.suffix_cons c t)
  | _ => exact passes_error _

theorem passing_suffix : Passing fun t rest ↦ rest <:+ t where
  refl := List.suffix_refl
  trans hu hv := hv.trans hu
  point _ t := List.suffix_cons _ t
  string {opening t s rest} hs := by
    have hrest : rest <:+ t := (leaves_stringElements opening t).map joinElements s rest hs
    exact hrest.trans (List.suffix_cons _ t)

theorem leaves_memberName (t : Text) : Leaves t (memberName t) := passes_memberName passing_suffix t

theorem leaves_value (depth : Nat) (t : Text) : Leaves t (value depth t) :=
  passes_value passing_suffix depth t

end PackageRollup.Json
