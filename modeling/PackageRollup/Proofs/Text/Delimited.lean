import Mathlib.Data.List.TakeWhile
import PackageRollup.Proofs.Text.Digits

/-!
# Where a printed text ends

What is printed is delimited if it can be told, in a text that goes on behind it, what was printed
and where it ends. A number ends at the first code point that is no digit, and a list ends where no
further item begins.
-/

namespace PackageRollup.Text

variable {a b s t u v : Text}

/-! ## Texts that differ early -/

/-- Neither of two texts begins with the other. -/
def Apart (u v : Text) : Prop := u.isPrefixOf v = false ∧ v.isPrefixOf u = false

instance : Decidable (Apart u v) := inferInstanceAs (Decidable (_ ∧ _))

theorem Apart.not_begins (h : Apart u v) : ¬ u <+: v ∧ ¬ v <+: u := by
  rw [← List.isPrefixOf_iff_prefix, ← List.isPrefixOf_iff_prefix, h.1, h.2]
  exact ⟨Bool.false_ne_true, Bool.false_ne_true⟩

theorem Apart.not_begins_of_begins (h : Apart u v) (hv : v <+: s) : ¬ u <+: s := by
  intro hu
  rcases List.prefix_or_prefix_of_prefix hu hv with hbegins | hbegins
  · exact h.not_begins.1 hbegins
  · exact h.not_begins.2 hbegins

theorem Apart.not_begins_append (h : Apart u v) (s : Text) : ¬ u <+: v ++ s :=
  h.not_begins_of_begins (List.prefix_append v s)

theorem Apart.append_ne_append (h : Apart u v) (s t : Text) : u ++ s ≠ v ++ t := by
  intro heq
  exact h.not_begins_append t (heq ▸ List.prefix_append u s)

/-! ## Runs of code points -/

theorem takeWhile_append_eq {p : CodePoint → Bool} (ha : ∀ c ∈ a, p c = true)
    (hs : s.head?.any p = false) : (a ++ s).takeWhile p = a := by
  rw [List.takeWhile_append_of_pos ha]
  cases s with
  | nil => exact List.append_nil a
  | cons c s =>
      have hc : ¬ p c = true := by
        rw [Bool.not_eq_true]
        exact hs
      rw [List.takeWhile_cons_of_neg hc, List.append_nil]

theorem append_inj_of_all {p : CodePoint → Bool} (ha : ∀ c ∈ a, p c = true)
    (hb : ∀ c ∈ b, p c = true) (hs : s.head?.any p = false) (ht : t.head?.any p = false)
    (h : a ++ s = b ++ t) : a = b ∧ s = t := by
  have hab : a = b := by
    rw [← takeWhile_append_eq ha hs, h, takeWhile_append_eq hb ht]
  subst hab
  exact ⟨rfl, List.append_cancel_left h⟩

/-! ## Printers -/

section Delimited

variable {α : Type} {f : α → Text} {good : α → Prop} {behind : Text → Prop}

/-- Printed things that are as required can be told from a text that goes on behind them as
required, together with the place where they end. -/
def Delimited (good : α → Prop) (behind : Text → Prop) (f : α → Text) : Prop :=
  ∀ ⦃x y : α⦄, good x → good y → ∀ ⦃s t : Text⦄, behind s → behind t →
    f x ++ s = f y ++ t → x = y ∧ s = t

theorem Delimited.mono {good' : α → Prop} {behind' : Text → Prop} (hf : Delimited good behind f)
    (hgood : ∀ x, good' x → good x) (hbehind : ∀ s, behind' s → behind s) :
    Delimited good' behind' f := by
  intro x y hx hy s t hs ht h
  exact hf (hgood x hx) (hgood y hy) (hbehind s hs) (hbehind t ht) h

/-- Between two fixed texts, only the second one stands behind. -/
theorem Delimited.between {u v : Text} (hf : Delimited good behind f)
    (hbehind : ∀ s, behind (v ++ s)) :
    Delimited good (fun _ ↦ True) (fun x ↦ u ++ f x ++ v) := by
  intro x y hx hy s t _ _ h
  simp only [List.append_assoc] at h
  obtain ⟨hxy, hrest⟩ := hf hx hy (hbehind s) (hbehind t) (List.append_cancel_left h)
  exact ⟨hxy, List.append_cancel_left hrest⟩

/-- A list is delimited if its items are, all begin alike, and no item begins behind the list. -/
theorem Delimited.flatMap {mark : Text} (hf : Delimited good behind f) (hmark : ∀ x, mark <+: f x)
    (hbehind : ∀ s, mark <+: s → behind s) :
    Delimited (fun xs ↦ ∀ x ∈ xs, good x) (fun s ↦ behind s ∧ ¬ mark <+: s)
      (List.flatMap f) := by
  have hnext : ∀ (x : α) (xs : List α) (s : Text), mark <+: (x :: xs).flatMap f ++ s := by
    intro x xs s
    rw [List.flatMap_cons, List.append_assoc]
    exact (hmark x).trans (List.prefix_append _ _)
  -- behind an item stands the next one, or what stands behind the list
  have hitems : ∀ (xs : List α) {s : Text}, behind s → behind (xs.flatMap f ++ s) := by
    intro xs s hs
    cases xs with
    | nil => exact hs
    | cons x xs => exact hbehind _ (hnext x xs s)
  intro xs ys hxs hys s t hs ht h
  induction xs generalizing ys with
  | nil =>
      cases ys with
      | nil => exact ⟨rfl, h⟩
      | cons y ys =>
          have hs' : s = (y :: ys).flatMap f ++ t := h
          exact absurd (hs' ▸ hnext y ys t) hs.2
  | cons x xs ih =>
      cases ys with
      | nil =>
          have ht' : (x :: xs).flatMap f ++ s = t := h
          exact absurd (ht' ▸ hnext x xs s) ht.2
      | cons y ys =>
          rw [List.flatMap_cons, List.flatMap_cons, List.append_assoc, List.append_assoc] at h
          obtain ⟨hx, hxs⟩ := List.forall_mem_cons.mp hxs
          obtain ⟨hy, hys⟩ := List.forall_mem_cons.mp hys
          obtain ⟨hxy, hrest⟩ := hf hx hy (hitems xs hs.1) (hitems ys ht.1) h
          obtain ⟨hxys, hst⟩ := ih hxs hys hrest
          exact ⟨congrArg₂ List.cons hxy hxys, hst⟩

theorem Delimited.items {mark : Text} (hf : Delimited good (fun _ ↦ True) f)
    (hmark : ∀ x, mark <+: f x) :
    Delimited (fun xs ↦ ∀ x ∈ xs, good x) (fun s ↦ ¬ mark <+: s) (List.flatMap f) := by
  apply (hf.flatMap hmark fun _ _ ↦ trivial).mono fun _ hxs ↦ hxs
  exact fun _ hs ↦ ⟨trivial, hs⟩

/-- An empty list may be printed in a way of its own, if that is not taken for a list. -/
theorem Delimited.orElse {good : List α → Prop} {g : List α → Text} {nothing : Text}
    (hg : Delimited (fun xs ↦ good xs ∧ xs ≠ []) behind g)
    (hnothing : ∀ xs s t, xs ≠ [] → behind s → nothing ++ s ≠ g xs ++ t) :
    Delimited good behind (fun xs ↦ if xs.isEmpty then nothing else g xs) := by
  intro xs ys hxs hys s t hs ht h
  cases xs with
  | nil =>
      cases ys with
      | nil => exact ⟨rfl, List.append_cancel_left h⟩
      | cons y ys => exact absurd h (hnothing (y :: ys) s t (List.cons_ne_nil y ys) hs)
  | cons x xs =>
      cases ys with
      | nil => exact absurd h.symm (hnothing (x :: xs) t s (List.cons_ne_nil x xs) ht)
      | cons y ys =>
          exact hg ⟨hxs, List.cons_ne_nil x xs⟩ ⟨hys, List.cons_ne_nil y ys⟩ hs ht h

/-- An empty list may be left out, if nothing behind it begins like the others. -/
theorem Delimited.orNothing {good : List α → Prop} {g : List α → Text} {heading : Text}
    (hg : Delimited good (fun _ ↦ True) g) (hheading : ∀ xs, heading <+: g xs) :
    Delimited good (fun s ↦ ¬ heading <+: s) (fun xs ↦ if xs.isEmpty then [] else g xs) := by
  apply (hg.mono (fun _ hxs ↦ hxs.1) fun _ _ ↦ trivial).orElse
  intro xs s t _ hs heq
  rw [List.nil_append] at heq
  rw [heq] at hs
  exact hs ((hheading xs).trans (List.prefix_append _ t))

end Delimited

/-! ## Numbers -/

def EndsDigits (s : Text) : Prop := s.head?.any CodePoint.isDigit = false

theorem endsDigits_append (hu : u.head?.any (!CodePoint.isDigit ·) = true) (s : Text) :
    EndsDigits (u ++ s) := by
  cases u with
  | nil => cases hu
  | cons c u => simpa [EndsDigits] using hu

theorem delimited_ofNat : Delimited (fun _ ↦ True) EndsDigits ofNat := by
  intro m n _ _ s t hs ht h
  obtain ⟨hdigits, hst⟩ := append_inj_of_all (fun _ ↦ isDigit_of_mem_ofNat)
    (fun _ ↦ isDigit_of_mem_ofNat) hs ht h
  refine ⟨?_, hst⟩
  rw [← toNat_ofNat m, hdigits, toNat_ofNat]

theorem minus_ne_ofNat_append (n : Nat) (s t : Text) :
    CodePoint.ofChar '-' :: s ≠ ofNat n ++ t := by
  intro h
  obtain ⟨c, digits, hdigits⟩ := List.exists_cons_of_ne_nil (ofNat_ne_nil n)
  have hc : c.isDigit := isDigit_of_mem_ofNat (n := n) (hdigits ▸ List.mem_cons_self)
  rw [hdigits, List.cons_append] at h
  rw [← List.head_eq_of_cons_eq h] at hc
  exact absurd hc (by decide)

theorem delimited_ofInt : Delimited (fun _ ↦ True) EndsDigits ofInt := by
  intro m n _ _ s t hs ht h
  cases m with
  | ofNat m =>
      cases n with
      | ofNat n =>
          obtain ⟨rfl, hst⟩ := delimited_ofNat trivial trivial hs ht h
          exact ⟨rfl, hst⟩
      | negSucc n => exact absurd h.symm (minus_ne_ofNat_append m (ofNat (n + 1) ++ t) s)
  | negSucc m =>
      cases n with
      | ofNat n => exact absurd h (minus_ne_ofNat_append n (ofNat (m + 1) ++ s) t)
      | negSucc n =>
          obtain ⟨hmn, hst⟩ := delimited_ofNat trivial trivial hs ht (List.tail_eq_of_cons_eq h)
          exact ⟨congrArg Int.negSucc (Nat.succ.inj hmn), hst⟩

theorem join_cons (sep piece : Text) (pieces : List Text) :
    join sep (piece :: pieces) = piece ++ pieces.flatMap (sep ++ ·) := by
  induction pieces generalizing piece with
  | nil => simp [join]
  | cons next pieces ih => rw [join, ih, List.flatMap_cons, List.append_assoc]

end PackageRollup.Text
