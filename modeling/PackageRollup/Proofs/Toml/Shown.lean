import PackageRollup.Toml.Value

/-!
# Values that can be shown

A message can show a value unless it is nested too deep or holds an integer with too many digits. If
there is more than one reason against it, the one that comes first in the value counts. So a value
that is nested too deep may still be refused for an integer that stands before the place where it
is.
-/

namespace PackageRollup.Toml.Value

mutual

/-- How deep a value is nested. -/
def depth : Value → Nat
  | array items => itemsDepth items + 1
  | table members => membersDepth members + 1
  | _ => 1

def itemsDepth : List Value → Nat
  | [] => 0
  | item :: items => max item.depth (itemsDepth items)

def membersDepth : List (Text × Value) → Nat
  | [] => 0
  | (_, value) :: members => max value.depth (membersDepth members)

end

/-- The integer has not too many digits. -/
def IsShort (n : Int) : Prop := n.natAbs < Nat.pow 10 maxDigits

instance (n : Int) : Decidable (IsShort n) :=
  inferInstanceAs (Decidable (n.natAbs < Nat.pow 10 maxDigits))

mutual

/-- Everything that is in the way of showing a value which may be nested so deep, in the order in
which the value is written. -/
def troubles : Nat → Value → List Unshowable
  | 0, _ => [.nesting]
  | _ + 1, integer n => if IsShort n then [] else [.digits]
  | depth + 1, array items => itemsTroubles depth items
  | depth + 1, table members => membersTroubles depth members
  | _ + 1, _ => []

def itemsTroubles (depth : Nat) : List Value → List Unshowable
  | [] => []
  | item :: items => troubles depth item ++ itemsTroubles depth items

def membersTroubles (depth : Nat) : List (Text × Value) → List Unshowable
  | [] => []
  | (_, value) :: members => troubles depth value ++ membersTroubles depth members

end

/-- The value is not nested too deep, or an integer with too many digits stands before the place
where it first is. -/
def Passable (v : Value) : Prop :=
  v.depth ≤ maxShownNesting ∨ (troubles maxShownNesting v).head? = some .digits

/-- Why a computation failed, if it did. -/
def errorOf? {ε α : Type} : Except ε α → Option ε
  | .ok _ => none
  | .error e => some e

section

variable {ε α β γ : Type}

theorem errorOf?_bind_pure {x : Except ε α} {f : α → β} :
    errorOf? (do return f (← x)) = errorOf? x := by
  cases x <;> rfl

theorem errorOf?_bind_bind_pure {x : Except ε α} {y : Except ε β} {f : α → β → γ} :
    errorOf? (do let a ← x; return f a (← y)) = (errorOf? x).or (errorOf? y) := by
  cases x with
  | error e => rfl
  | ok a => cases y <;> rfl

end

theorem errorOf?_shownInteger (n : Int) :
    errorOf? (shownInteger n) = if IsShort n then none else some .digits := by
  by_cases h : IsShort n
  · have hlt : n.natAbs < Nat.pow 10 maxDigits := h
    rw [shownInteger, if_pos hlt, if_pos h, errorOf?]
  · have hge : ¬ n.natAbs < Nat.pow 10 maxDigits := h
    rw [shownInteger, if_neg hge, if_neg h, errorOf?]

/-! ## The first trouble is reported -/

mutual

theorem errorOf?_shownWithin :
    ∀ (depth : Nat) (v : Value), errorOf? (shownWithin depth v) = (troubles depth v).head?
  | 0, v => by
      rw [shownWithin, troubles]
      rfl
  | depth + 1, .integer n => by
      rw [shownWithin, troubles, errorOf?_shownInteger]
      split <;> rfl
  | depth + 1, .array items => by
      rw [shownWithin, errorOf?_bind_pure, errorOf?_shownItems depth items, troubles]
  | depth + 1, .table members => by
      rw [shownWithin, errorOf?_bind_pure, errorOf?_shownMembers depth members, troubles]
  | depth + 1, .text t => by simp [shownWithin, troubles, errorOf?]
  | depth + 1, .float x => by simp [shownWithin, troubles, errorOf?]
  | depth + 1, .boolean b => by simp [shownWithin, troubles, errorOf?]
  | depth + 1, .date d => by simp [shownWithin, troubles, errorOf?]
  | depth + 1, .time t => by simp [shownWithin, troubles, errorOf?]
  | depth + 1, .dateTime d t offset => by simp [shownWithin, troubles, errorOf?]

theorem errorOf?_shownItems :
    ∀ (depth : Nat) (items : List Value),
      errorOf? (shownItems depth items) = (itemsTroubles depth items).head?
  | depth, [] => by
      rw [shownItems, itemsTroubles]
      rfl
  | depth, item :: items => by
      rw [shownItems, errorOf?_bind_bind_pure, errorOf?_shownWithin depth item,
        errorOf?_shownItems depth items, itemsTroubles, List.head?_append]

theorem errorOf?_shownMembers :
    ∀ (depth : Nat) (members : List (Text × Value)),
      errorOf? (shownMembers depth members) = (membersTroubles depth members).head?
  | depth, [] => by
      rw [shownMembers, membersTroubles]
      rfl
  | depth, (name, value) :: members => by
      rw [shownMembers, errorOf?_bind_bind_pure, errorOf?_shownWithin depth value,
        errorOf?_shownMembers depth members, membersTroubles, List.head?_append]

end

/-! ## What is nested too deep -/

mutual

theorem nesting_mem_troubles_iff :
    ∀ (depth : Nat) (v : Value), .nesting ∈ troubles depth v ↔ depth < v.depth
  | 0, v => by
      have hpos : 0 < v.depth := by cases v <;> simp [Value.depth]
      simp [troubles, hpos]
  | depth + 1, .integer n => by
      by_cases h : IsShort n <;> simp [troubles, Value.depth, h]
  | depth + 1, .array items => by
      rw [troubles, nesting_mem_itemsTroubles_iff depth items, Value.depth,
        Nat.add_lt_add_iff_right]
  | depth + 1, .table members => by
      rw [troubles, nesting_mem_membersTroubles_iff depth members, Value.depth,
        Nat.add_lt_add_iff_right]
  | depth + 1, .text t => by simp [troubles, Value.depth]
  | depth + 1, .float x => by simp [troubles, Value.depth]
  | depth + 1, .boolean b => by simp [troubles, Value.depth]
  | depth + 1, .date d => by simp [troubles, Value.depth]
  | depth + 1, .time t => by simp [troubles, Value.depth]
  | depth + 1, .dateTime d t offset => by simp [troubles, Value.depth]

theorem nesting_mem_itemsTroubles_iff :
    ∀ (depth : Nat) (items : List Value),
      .nesting ∈ itemsTroubles depth items ↔ depth < itemsDepth items
  | depth, [] => by simp [itemsTroubles, itemsDepth]
  | depth, item :: items => by
      rw [itemsTroubles, List.mem_append, nesting_mem_troubles_iff depth item,
        nesting_mem_itemsTroubles_iff depth items, itemsDepth]
      omega

theorem nesting_mem_membersTroubles_iff :
    ∀ (depth : Nat) (members : List (Text × Value)),
      .nesting ∈ membersTroubles depth members ↔ depth < membersDepth members
  | depth, [] => by simp [membersTroubles, membersDepth]
  | depth, (name, value) :: members => by
      rw [membersTroubles, List.mem_append, nesting_mem_troubles_iff depth value,
        nesting_mem_membersTroubles_iff depth members, membersDepth]
      omega

end

theorem shown_eq_nesting_iff {v : Value} : v.shown = .error .nesting ↔ ¬ v.Passable := by
  have hshown : v.shown = .error .nesting ↔ errorOf? v.shown = some .nesting := by
    cases v.shown <;> simp [errorOf?]
  have hdepth := nesting_mem_troubles_iff maxShownNesting v
  rw [hshown, shown, errorOf?_shownWithin, Passable, ← Nat.not_lt, ← hdepth]
  cases troubles maxShownNesting v with
  | nil => simp
  | cons trouble rest => cases trouble <;> simp

end PackageRollup.Toml.Value
