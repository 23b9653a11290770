import Mathlib.Data.List.TakeWhile
import PackageRollup.Proofs.Json.Limits
import PackageRollup.Proofs.Json.Strings

/-!
# Values, printed and read

The reader takes a printed value off the front of a text, whatever comes after it, as long as that
does not continue a number. What a value must not have is what the printer or the reader cannot
carry: strings with a surrogate pair, integers that are too long, and containers that are nested too
deep. The proof follows the value; the reader is given the printed value and an arbitrary rest.
-/

namespace PackageRollup.Json

variable {layout : Layout} {rest : Text} {depth : Nat}

/-! ## Numbers -/

/-- Nothing that could continue a number stands at the front of the text. -/
def EndsNumber (t : Text) : Prop := ∀ c ∈ t.head?, ¬ c.isDigit ∧ c ≠ '.' ∧ c ≠ 'e' ∧ c ≠ 'E'

theorem endsNumber_cons {c : CodePoint} (h : ¬ c.isDigit ∧ c ≠ '.' ∧ c ≠ 'e' ∧ c ≠ 'E') (t : Text) :
    EndsNumber (c :: t) := by
  intro d hd
  cases hd
  exact h

theorem EndsNumber.fraction?_eq_none (h : EndsNumber rest) : fraction? rest = none := by
  match rest, h with
  | [], _ => rfl
  | [_], _ => rfl
  | c :: d :: t, h =>
      have hpoint : c ≠ '.' := (h c rfl).2.1
      simp [fraction?, hpoint]

theorem EndsNumber.exponent?_eq_none (h : EndsNumber rest) : exponent? rest = none := by
  cases rest with
  | nil => rfl
  | cons c t =>
      obtain ⟨-, -, hlower, hupper⟩ := h c rfl
      simp [exponent?, hlower, hupper]

/-- The digits of a number are taken as its whole digits. -/
theorem number_ofNat (negative : Bool) (start : Text) (n : Nat)
    (hrest : ∀ c ∈ rest.head?, ¬ c.isDigit) :
    number negative start (Text.ofNat n ++ rest) = numberTail negative (Text.ofNat n) rest := by
  have hdigits : ∀ d ∈ Text.ofNat n, d.isDigit := fun d hd ↦ Text.isDigit_of_mem_ofNat hd
  have htake := takeDigits_append hdigits hrest
  obtain ⟨c, t, hct⟩ := List.exists_cons_of_ne_nil (Text.ofNat_ne_nil n)
  by_cases hzero : c = '0'
  · have hn : n = 0 := Text.eq_zero_of_head?_ofNat (by rw [hct, List.head?_cons, hzero])
    subst hn
    rfl
  · have hdigit : c.isDigit := hdigits c (hct ▸ List.mem_cons_self ..)
    rw [hct, List.cons_append] at htake ⊢
    simp only [number, if_neg hzero, hdigit, if_true, htake]

theorem exponent?_ofInt (e : Int) (hrest : ∀ c ∈ rest.head?, ¬ c.isDigit) :
    exponent? (CodePoint.ofChar 'e' :: (Text.ofInt e ++ rest)) = some (e, rest) := by
  have htake : ∀ n, takeDigits (Text.ofNat n ++ rest) = (Text.ofNat n, rest) := fun n ↦
    takeDigits_append (fun d hd ↦ Text.isDigit_of_mem_ofNat hd) hrest
  have hempty : ∀ n, (Text.ofNat n).isEmpty = false := fun n ↦
    List.isEmpty_eq_false_iff.mpr (Text.ofNat_ne_nil n)
  cases e with
  | ofNat n =>
      have hsign : exponentSign (Text.ofNat n ++ rest) = (false, Text.ofNat n ++ rest) := by
        obtain ⟨c, t, hct⟩ := List.exists_cons_of_ne_nil (Text.ofNat_ne_nil n)
        have hdigit : c.isDigit := Text.isDigit_of_mem_ofNat (hct ▸ List.mem_cons_self ..)
        have hminus : c ≠ '-' := ne_ofChar_of_isDigit hdigit (by decide)
        have hplus : c ≠ '+' := ne_ofChar_of_isDigit hdigit (by decide)
        simp [hct, exponentSign, hminus, hplus]
      simp [exponent?, Text.ofInt, hsign, htake, hempty, Text.toNat_ofNat]
  | negSucc n =>
      simp [exponent?, Text.ofInt, exponentSign, htake, hempty, Text.toNat_ofNat]
      omega

theorem numberTail_int {n : Nat} (negative : Bool) (hn : n < 10 ^ maxDigits)
    (hrest : EndsNumber rest) :
    numberTail negative (Text.ofNat n) rest = .ok (.int (if negative then -n else n), rest) := by
  have hlen : (Text.ofNat n).length ≤ maxDigits :=
    (Text.length_ofNat_le_iff (by decide)).mpr hn
  simp only [numberTail, hrest.fraction?_eq_none, Option.elim_none, hrest.exponent?_eq_none,
    if_neg (Nat.not_lt_of_le hlen), Text.toNat_ofNat]

theorem numberTail_real (negative : Bool) (n : Nat) (e : Int)
    (hrest : ∀ c ∈ rest.head?, ¬ c.isDigit) :
    numberTail negative (Text.ofNat n) (CodePoint.ofChar 'e' :: (Text.ofInt e ++ rest)) =
      .ok (.real ⟨negative, n, e⟩, rest) := by
  have hfraction : fraction? (CodePoint.ofChar 'e' :: (Text.ofInt e ++ rest)) = none := by
    have hpoint : CodePoint.ofChar 'e' ≠ '.' := by decide
    cases Text.ofInt e ++ rest <;> simp [fraction?, hpoint]
  simp only [numberTail, hfraction, Option.elim_none, exponent?_ofInt e hrest, Text.toNat_ofNat]

/-- A text that begins with the digits of a number, with or without a sign, is read as a number. -/
theorem scalar_ofNat (n : Nat) (rest : Text) :
    scalar (Text.ofNat n ++ rest) =
      number false (Text.ofNat n ++ rest) (Text.ofNat n ++ rest) := by
  obtain ⟨c, t, hct⟩ := List.exists_cons_of_ne_nil (Text.ofNat_ne_nil n)
  have hdigit : c.isDigit := Text.isDigit_of_mem_ofNat (hct ▸ List.mem_cons_self ..)
  have hquote : c ≠ '"' := ne_ofChar_of_isDigit hdigit (by decide)
  have hminus : c ≠ '-' := ne_ofChar_of_isDigit hdigit (by decide)
  have hword : word? (c :: (t ++ rest)) = none := word?_eq_none (by simp) hdigit
  rw [hct, List.cons_append]
  simp only [scalar, if_neg hquote, hword, if_neg hminus]

theorem scalar_minus_ofNat (n : Nat) (rest : Text) :
    scalar (CodePoint.ofChar '-' :: (Text.ofNat n ++ rest)) =
      number true (CodePoint.ofChar '-' :: (Text.ofNat n ++ rest)) (Text.ofNat n ++ rest) := by
  obtain ⟨c, t, hct⟩ := List.exists_cons_of_ne_nil (Text.ofNat_ne_nil n)
  have hdigit : c.isDigit := Text.isDigit_of_mem_ofNat (hct ▸ List.mem_cons_self ..)
  have hquote : CodePoint.ofChar '-' ≠ '"' := by decide
  have hword : word? (CodePoint.ofChar '-' :: c :: (t ++ rest)) = none :=
    word?_eq_none (by simp) hdigit
  rw [hct, List.cons_append]
  simp only [scalar, if_neg hquote, hword, if_true]

theorem scalar_int {n : Int} (hn : n.natAbs < 10 ^ maxDigits) (hrest : EndsNumber rest) :
    scalar (Text.ofInt n ++ rest) = .ok (.int n, rest) := by
  have hdigit : ∀ c ∈ rest.head?, ¬ c.isDigit := fun c hc ↦ (hrest c hc).1
  cases n with
  | ofNat n =>
      have hsize : n < 10 ^ maxDigits := hn
      rw [Text.ofInt, scalar_ofNat, number_ofNat _ _ _ hdigit, numberTail_int _ hsize hrest]
      rfl
  | negSucc n =>
      have hsize : n + 1 < 10 ^ maxDigits := hn
      rw [Text.ofInt, List.cons_append, scalar_minus_ofNat, number_ofNat _ _ _ hdigit,
        numberTail_int _ hsize hrest]
      rfl

theorem scalar_real (d : Decimal) (hrest : ∀ c ∈ rest.head?, ¬ c.isDigit) :
    scalar (printReal d ++ rest) = .ok (.real d, rest) := by
  obtain ⟨negative, digits, exponent⟩ := d
  have hletter : ∀ c ∈ (CodePoint.ofChar 'e' :: (Text.ofInt exponent ++ rest)).head?,
      ¬ c.isDigit := by
    intro c hc
    cases hc
    decide
  cases negative with
  | false =>
      have htext : printReal ⟨false, digits, exponent⟩ ++ rest =
          Text.ofNat digits ++ CodePoint.ofChar 'e' :: (Text.ofInt exponent ++ rest) := by
        simp [printReal, Text.ofString]
      rw [htext, scalar_ofNat, number_ofNat _ _ _ hletter, numberTail_real _ _ _ hrest]
  | true =>
      have htext : printReal ⟨true, digits, exponent⟩ ++ rest = CodePoint.ofChar '-' ::
          (Text.ofNat digits ++ CodePoint.ofChar 'e' :: (Text.ofInt exponent ++ rest)) := by
        simp [printReal, Text.ofString]
      rw [htext, scalar_minus_ofNat, number_ofNat _ _ _ hletter, numberTail_real _ _ _ hrest]

theorem scalar_string {t : Text} (ht : Unpaired t) (rest : Text) :
    scalar (printString t ++ rest) = .ok (.str t, rest) := by
  have htext : printString t ++ rest = CodePoint.ofChar '"' ::
      (t.flatMap escapeOne ++ CodePoint.ofChar '"' :: rest) := by
    simp [printString, Text.ofString]
  rw [htext]
  simp only [scalar, if_true, stringBody_print ht, Except.map]

theorem scalar_word {w : Text} {v : Json} (hw : (w, v) ∈ words) (rest : Text) :
    scalar (w ++ rest) = .ok (v, rest) := by
  simp only [words, List.mem_cons, Prod.mk.injEq, List.not_mem_nil, or_false] at hw
  rcases hw with ⟨rfl, rfl⟩ | ⟨rfl, rfl⟩ | ⟨rfl, rfl⟩ | ⟨rfl, rfl⟩ | ⟨rfl, rfl⟩ | ⟨rfl, rfl⟩ <;> rfl

/-! ## White space -/

/-- Nothing but white space stands between the brackets and the items of a container. -/
structure Layout.OnlySpace (layout : Layout) : Prop where
  opening : ∀ n, ∀ c ∈ layout.opening n, isSpace c
  between : ∀ n, ∀ c ∈ layout.between n, isSpace c
  closing : ∀ n, ∀ c ∈ layout.closing n, isSpace c

theorem Layout.line_onlySpace : Layout.line.OnlySpace where
  opening _ := List.forall_mem_nil _
  between _ := by
    intro c hc
    rw [List.mem_singleton.mp hc]
    decide
  closing _ := List.forall_mem_nil _

theorem isSpace_of_mem_newLine (n : Nat) : ∀ c ∈ newLine n, isSpace c := by
  intro c hc
  rcases List.mem_cons.mp hc with rfl | hc
  · decide
  · rw [List.eq_of_mem_replicate hc]
    decide

theorem Layout.block_onlySpace : Layout.block.OnlySpace where
  opening n := isSpace_of_mem_newLine (n + 1)
  between n := isSpace_of_mem_newLine (n + 1)
  closing n := isSpace_of_mem_newLine n

theorem skipSpace_cons {c : CodePoint} (hc : isSpace c = false) (t : Text) :
    skipSpace (c :: t) = c :: t := by
  simp [skipSpace, hc]

theorem skipSpace_append {s : Text} (hs : ∀ c ∈ s, isSpace c) (t : Text) :
    skipSpace (s ++ t) = skipSpace t :=
  List.dropWhile_append_of_pos hs

theorem endsNumber_append {s t : Text} (hs : ∀ c ∈ s, isSpace c) (ht : EndsNumber t) :
    EndsNumber (s ++ t) := by
  cases s with
  | nil => exact ht
  | cons c s =>
      have hc : isSpace c := hs c (List.mem_cons_self ..)
      have hne : ∀ x : Char, ¬ isSpace (CodePoint.ofChar x) → c ≠ x := by
        rintro x hx rfl
        exact hx hc
      refine endsNumber_cons ⟨?_, hne '.' (by decide), hne 'e' (by decide), hne 'E' (by decide)⟩ _
      simp only [isSpace, Bool.or_eq_true, decide_eq_true_eq] at hc
      simp only [CodePoint.isDigit, Bool.and_eq_true, decide_eq_true_eq]
      omega

/-! ## Containers -/

/-- What is read as a value begins neither with white space nor with a closing bracket. -/
theorem exists_cons_of_value {t : Text} {p : Json × Text} (h : value depth t = .ok p) :
    ∃ c u, t = c :: u ∧ isSpace c = false ∧ c ≠ ']' := by
  cases t with
  | nil => cases depth <;> cases h
  | cons c u =>
      refine ⟨c, u, rfl, ?_, ?_⟩
      · by_contra hc
        have hblank : c = ' ' ∨ c = '\t' ∨ c = '\n' ∨ c = '\r' := by
          simp only [isSpace, Bool.not_eq_false, Bool.or_eq_true, decide_eq_true_eq] at hc
          simp only [CodePoint.ext_iff]
          rcases hc with ((hc | hc) | hc) | hc
          · exact Or.inl hc
          · exact Or.inr (Or.inl hc)
          · exact Or.inr (Or.inr (Or.inl hc))
          · exact Or.inr (Or.inr (Or.inr hc))
        rcases hblank with rfl | rfl | rfl | rfl <;> cases depth <;> cases h
      · rintro rfl
        cases depth <;> cases h

theorem value_of_scalar {t : Text} {p : Json × Text} (h : scalar t = .ok p) :
    value depth t = .ok p := by
  rw [← h]
  apply value_eq_scalar
  · intro hhead
    obtain ⟨u, rfl⟩ := List.head?_eq_some_iff.mp hhead
    cases h
  · intro hhead
    obtain ⟨u, rfl⟩ := List.head?_eq_some_iff.mp hhead
    cases h

/-- The value is read off the front of what it is printed as, whatever else comes after it. -/
def ReadsBack (layout : Layout) (depth n : Nat) (v : Json) : Prop :=
  ∀ rest, EndsNumber rest → value depth (printAt layout n v ++ rest) = .ok (v, rest)

theorem ReadsBack.skipSpace {n : Nat} {v : Json} (h : ReadsBack layout depth n v) {t : Text}
    (ht : EndsNumber t) : skipSpace (printAt layout n v ++ t) = printAt layout n v ++ t := by
  obtain ⟨c, u, hcu, hspace, -⟩ := exists_cons_of_value (h t ht)
  rw [hcu]
  exact skipSpace_cons hspace u

/-- A member as it is printed: its name, a colon and a space, and its value. -/
def printMember (layout : Layout) (n : Nat) (m : Text × Json) : Text :=
  printString m.1 ++ (CodePoint.ofChar ':' :: CodePoint.ofChar ' ' :: printAt layout (n + 1) m.2)

theorem printMember_eq_cons (layout : Layout) (n : Nat) (m : Text × Json) (t : Text) :
    printMember layout n m ++ t = CodePoint.ofChar '"' :: (m.1.flatMap escapeOne ++
      CodePoint.ofChar '"' :: CodePoint.ofChar ':' :: CodePoint.ofChar ' ' ::
        (printAt layout (n + 1) m.2 ++ t)) := by
  simp [printMember, printString, Text.ofString]

theorem skipSpace_printMember (layout : Layout) (n : Nat) (m : Text × Json) (t : Text) :
    skipSpace (printMember layout n m ++ t) = printMember layout n m ++ t := by
  rw [printMember_eq_cons]
  exact skipSpace_cons (by decide) _

theorem memberName_printMember {n : Nat} {m : Text × Json} (hname : Unpaired m.1)
    (hvalue : ReadsBack layout depth (n + 1) m.2) {t : Text} (ht : EndsNumber t) :
    memberName (printMember layout n m ++ t) = .ok (m.1, printAt layout (n + 1) m.2 ++ t) := by
  have hcolon : isSpace (CodePoint.ofChar ':') = false := by decide
  have hskip : skipSpace (CodePoint.ofChar ' ' :: (printAt layout (n + 1) m.2 ++ t)) =
      printAt layout (n + 1) m.2 ++ t := hvalue.skipSpace ht
  rw [printMember_eq_cons]
  simp only [memberName, if_true, stringBody_print hname, skipSpace_cons hcolon, hskip]

theorem length_le_printItems (layout : Layout) (n : Nat) (vs : List Json) :
    vs.length ≤ (printItems layout n vs).length := by
  induction vs with
  | nil => exact Nat.zero_le _
  | cons v vs ih =>
      simp only [printItems, List.length_append, List.length_cons, Text.ofString, List.length_map]
      have hcomma : (",".toList).length = 1 := rfl
      omega

theorem length_le_printMembers (layout : Layout) (n : Nat) (ms : List (Text × Json)) :
    ms.length ≤ (printMembers layout n ms).length := by
  induction ms with
  | nil => exact Nat.zero_le _
  | cons m ms ih =>
      simp only [printMembers, List.length_append, List.length_cons, Text.ofString, List.length_map]
      have hcomma : (",".toList).length = 1 := rfl
      omega

section Containers

variable (hlayout : layout.OnlySpace) {n bound : Nat}
include hlayout

theorem endsNumber_printItems (n : Nat) (vs : List Json) (rest : Text) :
    EndsNumber (printItems layout n vs ++ (layout.closing n ++ CodePoint.ofChar ']' :: rest)) := by
  cases vs with
  | nil =>
      have hclose : EndsNumber (CodePoint.ofChar ']' :: rest) := endsNumber_cons (by decide) rest
      rw [printItems, List.nil_append]
      exact endsNumber_append (hlayout.closing n) hclose
  | cons v vs =>
      rw [printItems]
      exact endsNumber_cons (c := CodePoint.ofChar ',') (by decide) _

theorem items_print {v : Json} {vs : List Json}
    (h : ∀ w ∈ v :: vs, ReadsBack layout depth (n + 1) w) (hbound : vs.length < bound)
    (rest : Text) :
    items (value depth) bound (printAt layout (n + 1) v ++ (printItems layout n vs ++
      (layout.closing n ++ CodePoint.ofChar ']' :: rest))) = .ok (v :: vs, rest) := by
  -- the bound is one on the items that are still to come, so it goes down with the list
  induction vs generalizing v bound with
  | nil =>
      obtain ⟨bound, rfl⟩ := Nat.exists_eq_succ_of_ne_zero (Nat.ne_of_gt hbound)
      have hread := h v (List.mem_cons_self ..) _ (endsNumber_printItems hlayout n [] rest)
      have hskip : skipSpace (printItems layout n [] ++
          (layout.closing n ++ CodePoint.ofChar ']' :: rest)) = CodePoint.ofChar ']' :: rest :=
        skipSpace_append (hlayout.closing n) _
      simp only [items, hread, hskip, if_true]
  | cons w vs ih =>
      obtain ⟨bound, rfl⟩ := Nat.exists_eq_succ_of_ne_zero (Nat.ne_of_gt (Nat.zero_lt_of_lt hbound))
      obtain ⟨hv, hvs⟩ := List.forall_mem_cons.mp h
      have hread := hv _ (endsNumber_printItems hlayout n (w :: vs) rest)
      have hends := endsNumber_printItems hlayout n vs rest
      have hrest := ih hvs (Nat.lt_of_succ_lt_succ hbound)
      have hskip := (hvs w (List.mem_cons_self ..)).skipSpace hends
      have htext : printItems layout n (w :: vs) ++
          (layout.closing n ++ CodePoint.ofChar ']' :: rest) = CodePoint.ofChar ',' ::
            (layout.between n ++ (printAt layout (n + 1) w ++ (printItems layout n vs ++
              (layout.closing n ++ CodePoint.ofChar ']' :: rest)))) := by
        simp [printItems, Text.ofString]
      have hcomma : CodePoint.ofChar ',' ≠ ']' := by decide
      rw [htext] at hread ⊢
      simp only [items, hread,
        skipSpace_cons (by decide : isSpace (CodePoint.ofChar ',') = false), if_neg hcomma, if_true,
        skipSpace_append (hlayout.between n), hskip, hrest]

theorem endsNumber_printMembers (n : Nat) (ms : List (Text × Json)) (rest : Text) :
    EndsNumber
      (printMembers layout n ms ++ (layout.closing n ++ CodePoint.ofChar '\x7d' :: rest)) := by
  cases ms with
  | nil =>
      have hclose : EndsNumber (CodePoint.ofChar '\x7d' :: rest) := endsNumber_cons (by decide) rest
      rw [printMembers, List.nil_append]
      exact endsNumber_append (hlayout.closing n) hclose
  | cons m ms =>
      rw [printMembers]
      exact endsNumber_cons (c := CodePoint.ofChar ',') (by decide) _

theorem members_print {m : Text × Json} {ms : List (Text × Json)}
    (hnames : ∀ e ∈ m :: ms, Unpaired e.1)
    (h : ∀ e ∈ m :: ms, ReadsBack layout depth (n + 1) e.2) (hbound : ms.length < bound)
    (rest : Text) :
    members (value depth) bound (printMember layout n m ++ (printMembers layout n ms ++
      (layout.closing n ++ CodePoint.ofChar '\x7d' :: rest))) = .ok (m :: ms, rest) := by
  induction ms generalizing m bound with
  | nil =>
      obtain ⟨bound, rfl⟩ := Nat.exists_eq_succ_of_ne_zero (Nat.ne_of_gt hbound)
      have hends := endsNumber_printMembers hlayout n [] rest
      have hm := h m (List.mem_cons_self ..)
      have hname := memberName_printMember (hnames m (List.mem_cons_self ..)) hm hends
      have hread := hm _ hends
      have hskip : skipSpace (printMembers layout n [] ++
          (layout.closing n ++ CodePoint.ofChar '\x7d' :: rest)) =
            CodePoint.ofChar '\x7d' :: rest :=
        skipSpace_append (hlayout.closing n) _
      simp only [members, hname, hread, hskip, if_true]
  | cons e ms ih =>
      obtain ⟨bound, rfl⟩ := Nat.exists_eq_succ_of_ne_zero (Nat.ne_of_gt (Nat.zero_lt_of_lt hbound))
      obtain ⟨hm, hms⟩ := List.forall_mem_cons.mp h
      obtain ⟨hnm, hnms⟩ := List.forall_mem_cons.mp hnames
      have hends := endsNumber_printMembers hlayout n (e :: ms) rest
      have hname := memberName_printMember hnm hm hends
      have hread := hm _ hends
      have hrest := ih hnms hms (Nat.lt_of_succ_lt_succ hbound)
      have htext : printMembers layout n (e :: ms) ++
          (layout.closing n ++ CodePoint.ofChar '\x7d' :: rest) = CodePoint.ofChar ',' ::
            (layout.between n ++ (printMember layout n e ++ (printMembers layout n ms ++
              (layout.closing n ++ CodePoint.ofChar '\x7d' :: rest)))) := by
        simp [printMembers, printMember, Text.ofString]
      have hcomma : CodePoint.ofChar ',' ≠ '\x7d' := by decide
      rw [htext] at hname hread ⊢
      simp only [members, hname, hread,
        skipSpace_cons (by decide : isSpace (CodePoint.ofChar ',') = false), if_neg hcomma, if_true,
        skipSpace_append (hlayout.between n), skipSpace_printMember, hrest]

theorem readsBack_arr {items : List Json} (h : ∀ v ∈ items, ReadsBack layout depth (n + 1) v) :
    ReadsBack layout (depth + 1) n (.arr items) := by
  intro rest _
  cases items with
  | nil => rfl
  | cons v vs =>
      have hends := endsNumber_printItems hlayout n vs rest
      have hv := h v (List.mem_cons_self ..)
      -- the reader looks for a closing bracket first, and no value begins with one
      obtain ⟨c, u, hcu, -, hclose⟩ := exists_cons_of_value (hv _ hends)
      have hlen : vs.length < u.length + 1 := by
        have hsum := congrArg List.length hcu
        have hle := length_le_printItems layout n vs
        simp only [List.length_append, List.length_cons] at hsum
        omega
      have hitems := items_print hlayout h hlen rest
      have hskip : skipSpace (layout.opening n ++ (c :: u)) = c :: u := by
        rw [skipSpace_append (hlayout.opening n), ← hcu]
        exact hv.skipSpace hends
      have htext : printAt layout n (.arr (v :: vs)) ++ rest = CodePoint.ofChar '[' ::
          (layout.opening n ++ (printAt layout (n + 1) v ++ (printItems layout n vs ++
            (layout.closing n ++ CodePoint.ofChar ']' :: rest)))) := by
        simp [printAt, Text.ofString]
      rw [htext, value_array, hcu, array, hskip]
      rw [hcu] at hitems
      simp only [if_neg hclose, hitems, Except.map]

theorem readsBack_obj {members : List (Text × Json)} (hnames : ∀ m ∈ members, Unpaired m.1)
    (h : ∀ m ∈ members, ReadsBack layout depth (n + 1) m.2) :
    ReadsBack layout (depth + 1) n (.obj members) := by
  intro rest _
  cases members with
  | nil => rfl
  | cons m ms =>
      have hclose : CodePoint.ofChar '"' ≠ '\x7d' := by decide
      have hlen : ms.length < (printMember layout n m ++ (printMembers layout n ms ++
          (layout.closing n ++ CodePoint.ofChar '\x7d' :: rest))).length := by
        have hle := length_le_printMembers layout n ms
        simp only [List.length_append, List.length_cons]
        omega
      have hmembers := members_print hlayout hnames h hlen rest
      have htext : printAt layout n (.obj (m :: ms)) ++ rest = CodePoint.ofChar '\x7b' ::
          (layout.opening n ++ (printMember layout n m ++ (printMembers layout n ms ++
            (layout.closing n ++ CodePoint.ofChar '\x7d' :: rest)))) := by
        simp [printAt, printMember, Text.ofString]
      rw [htext, value_object, object, skipSpace_append (hlayout.opening n), skipSpace_printMember]
      rw [printMember_eq_cons] at hmembers ⊢
      simp only [if_neg hclose, List.length_cons] at hmembers ⊢
      rw [hmembers]
      rfl

end Containers

/-! ## Values -/

/-- The values that are read back when they are printed, given the number of containers that may be
nested in each other. -/
inductive Printable : Nat → Json → Prop
  | null {depth : Nat} : Printable depth .null
  | bool {depth : Nat} (b : Bool) : Printable depth (.bool b)
  | int {depth : Nat} {n : Int} (h : n.natAbs < 10 ^ maxDigits) : Printable depth (.int n)
  | real {depth : Nat} (d : Decimal) : Printable depth (.real d)
  | infinite {depth : Nat} (negative : Bool) : Printable depth (.infinite negative)
  | notANumber {depth : Nat} : Printable depth .notANumber
  | str {depth : Nat} {t : Text} (h : Unpaired t) : Printable depth (.str t)
  | arr {depth : Nat} {items : List Json} (h : ∀ v ∈ items, Printable depth v) :
      Printable (depth + 1) (.arr items)
  | obj {depth : Nat} {members : List (Text × Json)} (hnames : ∀ m ∈ members, Unpaired m.1)
      (h : ∀ m ∈ members, Printable depth m.2) : Printable (depth + 1) (.obj members)

theorem readsBack_word {n : Nat} {v : Json} (h : (printAt layout n v, v) ∈ words) :
    ReadsBack layout depth n v :=
  fun rest _ ↦ value_of_scalar (scalar_word h rest)

theorem Printable.readsBack (hlayout : layout.OnlySpace) {v : Json} (h : Printable depth v)
    (n : Nat) : ReadsBack layout depth n v := by
  induction h generalizing n with
  | null => exact readsBack_word (by simp [printAt, words])
  | bool b =>
      cases b with
      | false => exact readsBack_word (by simp [printAt, words])
      | true => exact readsBack_word (by simp [printAt, words])
  | int hn => exact fun rest hrest ↦ value_of_scalar (scalar_int hn hrest)
  | real d => exact fun rest hrest ↦ value_of_scalar (scalar_real d fun c hc ↦ (hrest c hc).1)
  | infinite negative =>
      cases negative with
      | false => exact readsBack_word (by simp [printAt, words])
      | true => exact readsBack_word (by simp [printAt, words])
  | notANumber => exact readsBack_word (by simp [printAt, words])
  | str ht => exact fun rest _ ↦ value_of_scalar (scalar_string ht rest)
  | arr _ ih => exact readsBack_arr hlayout fun v hv ↦ ih v hv (n + 1)
  | obj hnames _ ih => exact readsBack_obj hlayout hnames fun m hm ↦ ih m hm (n + 1)

/-- White space after the value is passed over. -/
theorem read_print (hlayout : layout.OnlySpace) {v : Json} (h : Printable maxNesting v)
    {space : Text} (hspace : ∀ c ∈ space, isSpace c) : read (print layout v ++ space) = .ok v := by
  have hends : EndsNumber space := by
    have hnil : EndsNumber [] := by
      intro c hc
      cases hc
    simpa using endsNumber_append hspace hnil
  have hread := h.readsBack hlayout 0 space hends
  have hskip : skipSpace (print layout v ++ space) = print layout v ++ space :=
    (h.readsBack hlayout 0).skipSpace hends
  have hend : skipSpace space = [] := List.dropWhile_eq_nil_iff.mpr hspace
  have hbom : (print layout v ++ space).head? ≠ some byteOrderMark := by
    intro hhead
    obtain ⟨u, hu⟩ := List.head?_eq_some_iff.mp hhead
    rw [print] at hu
    rw [hu] at hread
    cases hread
  rw [read, readFaulty, if_neg hbom, hskip, print]
  simp only [hread, hend]

/-! ## Only ASCII is printed -/

theorem isAscii_of_isSpace {space : Text} (h : ∀ c ∈ space, isSpace c) : IsAscii space :=
  fun c hc ↦ (bare_of_isSpace (h c hc)).1

theorem isAscii_printReal (d : Decimal) : IsAscii (printReal d) := by
  have hsign : IsAscii (Text.ofString (if d.negative then "-" else "")) := by
    cases d.negative <;> decide
  simp only [printReal, isAscii_append]
  exact ⟨⟨⟨hsign, isAscii_ofNat _⟩, by decide⟩, isAscii_ofInt _⟩

mutual

theorem isAscii_printAt (hlayout : layout.OnlySpace) (n : Nat) :
    ∀ v : Json, IsAscii (printAt layout n v)
  | .null => by
      rw [printAt]
      decide
  | .bool b => by
      rw [printAt]
      cases b <;> decide
  | .int i => isAscii_ofInt i
  | .real d => isAscii_printReal d
  | .infinite negative => by
      rw [printAt]
      cases negative <;> decide
  | .notANumber => by
      rw [printAt]
      decide
  | .str t => isAscii_printString t
  | .arr [] => by
      rw [printAt]
      decide
  | .arr (v :: vs) => by
      have hopening := isAscii_of_isSpace (hlayout.opening n)
      have hclosing := isAscii_of_isSpace (hlayout.closing n)
      have hv := isAscii_printAt hlayout (n + 1) v
      have hvs := isAscii_printItems hlayout n vs
      simp only [printAt, isAscii_append]
      exact ⟨⟨⟨⟨⟨by decide, hopening⟩, hv⟩, hvs⟩, hclosing⟩, by decide⟩
  | .obj [] => by
      rw [printAt]
      decide
  | .obj ((name, v) :: ms) => by
      have hopening := isAscii_of_isSpace (hlayout.opening n)
      have hclosing := isAscii_of_isSpace (hlayout.closing n)
      have hname := isAscii_printString name
      have hv := isAscii_printAt hlayout (n + 1) v
      have hms := isAscii_printMembers hlayout n ms
      simp only [printAt, isAscii_append]
      exact ⟨⟨⟨⟨⟨⟨⟨by decide, hopening⟩, hname⟩, by decide⟩, hv⟩, hms⟩, hclosing⟩, by decide⟩

theorem isAscii_printItems (hlayout : layout.OnlySpace) (n : Nat) :
    ∀ vs : List Json, IsAscii (printItems layout n vs)
  | [] => by
      rw [printItems]
      decide
  | v :: vs => by
      have hbetween := isAscii_of_isSpace (hlayout.between n)
      have hv := isAscii_printAt hlayout (n + 1) v
      have hvs := isAscii_printItems hlayout n vs
      simp only [printItems, isAscii_append]
      exact ⟨⟨⟨by decide, hbetween⟩, hv⟩, hvs⟩

theorem isAscii_printMembers (hlayout : layout.OnlySpace) (n : Nat) :
    ∀ ms : List (Text × Json), IsAscii (printMembers layout n ms)
  | [] => by
      rw [printMembers]
      decide
  | (name, v) :: ms => by
      have hbetween := isAscii_of_isSpace (hlayout.between n)
      have hname := isAscii_printString name
      have hv := isAscii_printAt hlayout (n + 1) v
      have hms := isAscii_printMembers hlayout n ms
      simp only [printMembers, isAscii_append]
      exact ⟨⟨⟨⟨⟨by decide, hbetween⟩, hname⟩, by decide⟩, hv⟩, hms⟩

end

end PackageRollup.Json
