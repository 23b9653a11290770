import Mathlib.Data.List.Basic
import PackageRollup.Text.Utf8

/-!
# Bytes that stand for themselves

A byte below 0x80 ends every sequence that is not complete and is a code point of its own, wherever
it stands. Bytes before it and bytes after it are therefore decoded apart from each other, and no
other bytes give a code point below 0x80.
-/

namespace PackageRollup.Utf8

variable {s : State} {b : UInt8} {xs ys : Bytes}

/-- The states that the decoder comes to: no byte below 0x80 continues a sequence, and the code
point of a sequence is not below 0x80. -/
def State.Valid : State → Prop
  | between => True
  | inside _ value low _ more => 0x80 ≤ low ∧ (2 ≤ value ∨ 0 < more ∧ 0x82 ≤ 64 * value + low)

/-- What the decoder says when it takes a byte: malformed bytes, and code points that are not below
0x80 unless the byte is the code point. -/
def Piece.From (b : UInt8) : Piece → Prop
  | point c => 0x80 ≤ c.val ∨ c.val = b.toNat
  | malformed _ => True

theorem le_val_ofNat {n : Nat} (h : 0x80 ≤ n) : 0x80 ≤ (CodePoint.ofNat n).val := by
  by_cases hn : n < 0x110000
  · rwa [CodePoint.val_ofNat hn]
  · simp [CodePoint.ofNat, hn]

theorem val_ofNat_toNat (b : UInt8) : (CodePoint.ofNat b.toNat).val = b.toNat :=
  CodePoint.val_ofNat (Nat.lt_trans b.toNat_lt (by decide))

theorem start_of_lt (hb : b.toNat < 0x80) :
    start b = (.between, [.point (CodePoint.ofNat b.toNat)]) := by
  simp [start, hb]

theorem valid_start (b : UInt8) : (start b).1.Valid := by
  simp only [start]
  split
  · trivial
  · split
    · trivial
    · split
      · exact ⟨by omega, Or.inl (by omega)⟩
      · split
        · refine ⟨by split <;> omega, Or.inr ⟨by omega, ?_⟩⟩
          split <;> omega
        · split
          · refine ⟨by split <;> omega, Or.inr ⟨by omega, ?_⟩⟩
            split <;> omega
          · trivial

theorem from_start (b : UInt8) : ∀ p ∈ (start b).2, p.From b := by
  intro p hp
  by_cases hb : b.toNat < 0x80
  · rw [start_of_lt hb, List.mem_singleton] at hp
    subst hp
    exact Or.inr (val_ofNat_toNat b)
  · simp only [start, if_neg hb] at hp
    split at hp
    · rw [List.mem_singleton.mp hp]
      trivial
    · split at hp
      · cases hp
      · split at hp
        · cases hp
        · split at hp
          · cases hp
          · rw [List.mem_singleton.mp hp]
            trivial

/-! ## One byte -/

/-- A byte below 0x80 breaks off what is not complete. -/
theorem step_of_lt (hs : s.Valid) (hb : b.toNat < 0x80) :
    step s b = (.between, finish s ++ [.point (CodePoint.ofNat b.toNat)]) := by
  cases s with
  | between => exact start_of_lt hb
  | inside seen value low high more =>
      have hlow : ¬ (low ≤ b.toNat ∧ b.toNat ≤ high) := by
        have := hs.1
        omega
      simp [step, hlow, start_of_lt hb, finish]

theorem valid_step (hs : s.Valid) (b : UInt8) : (step s b).1.Valid := by
  cases s with
  | between => exact valid_start b
  | inside seen value low high more =>
      obtain ⟨hlow, hvalue⟩ := hs
      simp only [step]
      split
      next hb =>
        cases more with
        | zero => trivial
        | succ more => exact ⟨by omega, Or.inl (by omega)⟩
      next => exact valid_start b

theorem from_step (hs : s.Valid) (b : UInt8) : ∀ p ∈ (step s b).2, p.From b := by
  intro p hp
  cases s with
  | between => exact from_start b p hp
  | inside seen value low high more =>
      obtain ⟨hlow, hvalue⟩ := hs
      simp only [step] at hp
      split at hp
      next hb =>
        cases more with
        | zero =>
            rw [List.mem_singleton.mp hp]
            exact Or.inl (le_val_ofNat (by omega))
        | succ more => cases hp
      next =>
        rcases List.mem_cons.mp hp with rfl | hp
        · trivial
        · exact from_start b p hp

/-! ## All bytes -/

theorem decodeFrom_append_cons (hs : s.Valid) (hb : b.toNat < 0x80) :
    decodeFrom s (xs ++ b :: ys) =
      decodeFrom s xs ++ .point (CodePoint.ofNat b.toNat) :: decode ys := by
  induction xs generalizing s with
  | nil => simp [decodeFrom, step_of_lt hs hb, decode]
  | cons x xs ih => simp [decodeFrom, ih (valid_step hs x)]

theorem exists_from_of_mem_decodeFrom (hs : s.Valid) {c : CodePoint}
    (hc : Piece.point c ∈ decodeFrom s xs) (hlt : c.val < 0x80) : ∃ b ∈ xs, b.toNat = c.val := by
  induction xs generalizing s with
  | nil => cases s <;> simp [decodeFrom, finish] at hc
  | cons x xs ih =>
      rw [decodeFrom_cons, List.mem_append] at hc
      rcases hc with hc | hc
      · have hfrom : 0x80 ≤ c.val ∨ c.val = x.toNat := from_step hs x _ hc
        exact ⟨x, List.mem_cons_self, by omega⟩
      · obtain ⟨b, hb, hval⟩ := ih (valid_step hs x) hc
        exact ⟨b, List.mem_cons_of_mem x hb, hval⟩

theorem decode_append_cons (hb : b.toNat < 0x80) :
    decode (xs ++ b :: ys) =
      decode xs ++ .point (CodePoint.ofNat b.toNat) :: decode ys :=
  decodeFrom_append_cons trivial hb

theorem replacement_mem_of_decode?_eq_none (h : decode? xs = none) :
    replacement ∈ decodeReplacing xs := by
  have hmalformed : ∀ ps, allPoints? ps = none → replacement ∈ ps.map Piece.replaced := by
    intro ps hps
    induction ps with
    | nil => cases hps
    | cons p ps ih =>
        cases p with
        | malformed bytes => exact List.mem_cons_self
        | point c =>
            have htail : allPoints? ps = none := by simpa [allPoints?] using hps
            exact List.mem_cons_of_mem c (ih htail)
  exact hmalformed (decode xs) h

/-- A byte below 0x80 in a text that was decoded with replacement was there before. -/
theorem exists_of_mem_decodeReplacing {c : CodePoint} (hc : c ∈ decodeReplacing xs)
    (hlt : c.val < 0x80) : ∃ b ∈ xs, b.toNat = c.val := by
  obtain ⟨p, hp, rfl⟩ := List.mem_map.mp hc
  cases p with
  | malformed bytes =>
      have hreplaced : ¬ replacement.val < 0x80 := by decide
      exact absurd hlt hreplaced
  | point c => exact exists_from_of_mem_decodeFrom (s := .between) trivial hp hlt

/-- Once inside a sequence the decoder has something to say, whatever follows. -/
theorem decodeFrom_inside_ne_nil (seen : Bytes) (value low high more : Nat) (xs : Bytes) :
    decodeFrom (.inside seen value low high more) xs ≠ [] := by
  induction xs generalizing seen value low high more with
  | nil => exact List.cons_ne_nil _ _
  | cons x xs ih =>
      rw [decodeFrom_cons, step]
      split
      · cases more with
        | zero => exact List.cons_ne_nil _ _
        | succ more => exact ih _ _ _ _ _
      · exact List.cons_ne_nil _ _

theorem decode_cons_ne_nil (b : UInt8) (xs : Bytes) : decode (b :: xs) ≠ [] := by
  simp only [decode, decodeFrom_cons, step, start]
  split
  · exact List.cons_ne_nil _ _
  split
  · exact List.cons_ne_nil _ _
  split
  · exact decodeFrom_inside_ne_nil _ _ _ _ _ xs
  split
  · exact decodeFrom_inside_ne_nil _ _ _ _ _ xs
  split
  · exact decodeFrom_inside_ne_nil _ _ _ _ _ xs
  · exact List.cons_ne_nil _ _

/-- No bytes are lost without a trace. -/
theorem decodeReplacing_eq_nil_iff : decodeReplacing xs = [] ↔ xs = [] := by
  cases xs with
  | nil => exact iff_of_true rfl rfl
  | cons b xs =>
      rw [decodeReplacing, List.map_eq_nil_iff]
      exact iff_of_false (decode_cons_ne_nil b xs) (List.cons_ne_nil b xs)

theorem decodeReplacing_append_cons (hb : b.toNat < 0x80) :
    decodeReplacing (xs ++ b :: ys) =
      decodeReplacing xs ++ CodePoint.ofNat b.toNat :: decodeReplacing ys := by
  simp [decodeReplacing, decode_append_cons hb, Piece.replaced]

theorem decodeReplacing_concat (hb : b.toNat < 0x80) :
    decodeReplacing (xs ++ [b]) = decodeReplacing xs ++ [CodePoint.ofNat b.toNat] :=
  decodeReplacing_append_cons hb

theorem decodeReplacing_cons (hb : b.toNat < 0x80) :
    decodeReplacing (b :: ys) = CodePoint.ofNat b.toNat :: decodeReplacing ys := by
  have happend : decodeReplacing ([] ++ b :: ys) =
      decodeReplacing [] ++ CodePoint.ofNat b.toNat :: decodeReplacing ys :=
    decodeReplacing_append_cons hb
  exact happend

theorem decodeReplacing_append_left (hxs : ∀ b ∈ xs.getLast?, b.toNat < 0x80) (ys : Bytes) :
    decodeReplacing (xs ++ ys) = decodeReplacing xs ++ decodeReplacing ys := by
  rcases List.eq_nil_or_concat xs with rfl | ⟨xs, b, rfl⟩
  · rfl
  · rw [List.concat_eq_append] at hxs ⊢
    have hb : b.toNat < 0x80 := hxs b List.getLast?_concat
    rw [List.append_assoc, List.singleton_append, decodeReplacing_append_cons hb,
      decodeReplacing_concat hb, List.append_assoc, List.singleton_append]

theorem decodeReplacing_append_right (xs : Bytes) (hys : ∀ b ∈ ys.head?, b.toNat < 0x80) :
    decodeReplacing (xs ++ ys) = decodeReplacing xs ++ decodeReplacing ys := by
  cases ys with
  | nil =>
      rw [List.append_nil]
      exact (List.append_nil _).symm
  | cons b ys =>
      have hb : b.toNat < 0x80 := hys b rfl
      rw [decodeReplacing_append_cons hb, decodeReplacing_cons hb]

end PackageRollup.Utf8
