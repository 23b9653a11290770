/-!
# Tries

A trie gives values to lists of keys, such as the code points of a name or the names of a path.
`find?` is the view through which a change is described: `find?_put` says all there is to know about
`put`. The value at a list does not depend on those at its beginnings or at its continuations.
-/

namespace PackageRollup

/-- Values at lists of keys: the one at the empty list, and the trie behind each first key. -/
inductive Trie (κ α : Type) where
  | node (here : Option α) (children : List (κ × Trie κ α))

namespace Trie

variable {κ α : Type} [DecidableEq κ]

def empty : Trie κ α := node none []

def here : Trie κ α → Option α
  | node a _ => a

/-- The first keys with the tries behind them. -/
def children : Trie κ α → List (κ × Trie κ α)
  | node _ ts => ts

/-- The trie behind the first occurrence of a key. -/
def childIn (k : κ) : List (κ × Trie κ α) → Trie κ α
  | [] => empty
  | (j, t) :: ts => if j = k then t else childIn k ts

def child (t : Trie κ α) (k : κ) : Trie κ α := childIn k t.children

/-- Put a trie behind a key; a new key goes to the end. -/
def setChildIn (k : κ) (t : Trie κ α) : List (κ × Trie κ α) → List (κ × Trie κ α)
  | [] => [(k, t)]
  | (j, old) :: ts => if j = k then (j, t) :: ts else (j, old) :: setChildIn k t ts

/-- The trie behind a list of keys. -/
def descend (t : Trie κ α) : List κ → Trie κ α
  | [] => t
  | k :: ks => descend (t.child k) ks

def find? (t : Trie κ α) (ks : List κ) : Option α := (t.descend ks).here

def put (a : α) : List κ → Trie κ α → Trie κ α
  | [], t => node (some a) t.children
  | k :: ks, t => node t.here (setChildIn k (put a ks (t.child k)) t.children)

mutual

/-- The lists that have values, each before its continuations, behind the given keys. -/
def entriesBehind (above : List κ) : Trie κ α → List (List κ × α)
  | node a ts => (a.toList.map fun a ↦ (above, a)) ++ entriesBelow above ts

/-- The lists that have values and begin with one of some keys, behind the given ones. -/
def entriesBelow (above : List κ) : List (κ × Trie κ α) → List (List κ × α)
  | [] => []
  | (k, t) :: ts => entriesBehind (above ++ [k]) t ++ entriesBelow above ts

end

/-- The lists that have values. -/
def entries (t : Trie κ α) : List (List κ × α) := entriesBehind [] t

theorem childIn_setChildIn (k j : κ) (t : Trie κ α) (ts : List (κ × Trie κ α)) :
    childIn j (setChildIn k t ts) = if j = k then t else childIn j ts := by
  induction ts with
  | nil => simp [setChildIn, childIn, eq_comm]
  | cons e ts ih =>
    obtain ⟨i, old⟩ := e
    simp only [setChildIn]
    split
    next h =>
      subst h
      by_cases hj : j = i
      · simp [childIn, hj]
      · simp [childIn, hj, Ne.symm hj]
    next h =>
      simp only [childIn, ih]
      by_cases hj : j = k
      · subst hj; simp [h]
      · simp [hj]

theorem child_put_cons (a : α) (k j : κ) (ks : List κ) (t : Trie κ α) :
    (t.put a (k :: ks)).child j = if j = k then (t.child k).put a ks else t.child j :=
  childIn_setChildIn ..

theorem descend_append (t : Trie κ α) (ks more : List κ) :
    t.descend (ks ++ more) = (t.descend ks).descend more := by
  induction ks generalizing t with
  | nil => rfl
  | cons k ks ih => exact ih (t.child k)

theorem descend_empty (ks : List κ) : (empty : Trie κ α).descend ks = empty := by
  induction ks with
  | nil => rfl
  | cons k ks ih => exact ih

@[simp] theorem find?_empty (ks : List κ) : (empty : Trie κ α).find? ks = none := by
  rw [find?, descend_empty]
  rfl

theorem find?_put (a : α) (ks js : List κ) (t : Trie κ α) :
    (t.put a ks).find? js = if js = ks then some a else t.find? js := by
  induction ks generalizing js t with
  | nil => cases js <;> simp [put, find?, descend, child, here, children]
  | cons k ks ih =>
    cases js with
    | nil => simp [put, find?, descend, here]
    | cons j js =>
      simp only [find?, descend, child_put_cons] at ih ⊢
      by_cases hj : j = k
      · subst hj
        simpa using ih js (t.child j)
      · simp [hj]

end Trie

end PackageRollup
