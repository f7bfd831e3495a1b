import ThemedCss.Variable.Collect

/-!
# Positions in a tree of references

A position is the list of the keys on the way to a part of the tree. A write puts something at a
position, with levels on the way to it, and leaves alone what stands beside this way.

* `ReferenceTree.find?`: what stands at a position;
* `ReferenceTree.alter`: the tree after a write;
* **`find?_alter_self`**, **`find?_alter_beside`**: what stands at the position afterwards, and
  what stands beside it;
* `isLevel_find?_alter`, `find?_alter_append`: on the way to it there are levels, and below it
  stands what was written.
-/

namespace ThemedCss

namespace Entries

variable {κ α : Type} [DecidableEq κ]

theorem put_put (k : κ) (v w : α) (es : List (κ × α)) : put k v (put k w es) = put k v es := by
  induction es with
  | nil => simp [put]
  | cons e es ih =>
    obtain ⟨i, u⟩ := e
    by_cases hi : i = k
    · simp [put, hi]
    · simp [put, hi, ih]

end Entries

namespace ReferenceTree

/-- The entries of a level; where no level is there are none. -/
def entriesOf : Option ReferenceTree → List (Text × ReferenceTree)
  | some (level entries) => entries
  | _ => []

/-- What stands at a position. -/
def find? : Option ReferenceTree → List Text → Option ReferenceTree
  | tree, [] => tree
  | tree, key :: position => find? (Entries.get? key (entriesOf tree)) position

/-- The tree with what stands at a position replaced, and with levels on the way to it. -/
def alter (f : Option ReferenceTree → ReferenceTree) :
    List Text → Option ReferenceTree → ReferenceTree
  | [], tree => f tree
  | key :: position, tree =>
    level (Entries.put key (alter f position (Entries.get? key (entriesOf tree))) (entriesOf tree))

/-- The tree as a level, which it may be already. -/
def opened (tree : Option ReferenceTree) : ReferenceTree := level (entriesOf tree)

/-- Whether a level stands somewhere. -/
def IsLevel (tree : Option ReferenceTree) : Prop := tree = some (opened tree)

variable {f : Option ReferenceTree → ReferenceTree} {p q : List Text}

@[simp] theorem entriesOf_level (entries : List (Text × ReferenceTree)) :
    entriesOf (some (level entries)) = entries := rfl

theorem find?_none (p : List Text) : find? none p = none := by
  induction p with
  | nil => rfl
  | cons key p ih => exact ih

theorem find?_append (tree : Option ReferenceTree) (p q : List Text) :
    find? tree (p ++ q) = find? (find? tree p) q := by
  induction p generalizing tree with
  | nil => rfl
  | cons key p ih => exact ih _

/-- **After a write its position holds what was written.** -/
theorem find?_alter_self (f : Option ReferenceTree → ReferenceTree) (p : List Text)
    (tree : Option ReferenceTree) : find? (some (alter f p tree)) p = some (f (find? tree p)) := by
  induction p generalizing tree with
  | nil => rfl
  | cons key p ih =>
    rw [find?, alter, entriesOf_level, Entries.get?_put, if_pos rfl]
    exact ih _

theorem find?_alter_append (f : Option ReferenceTree → ReferenceTree) (p q : List Text)
    (tree : Option ReferenceTree) :
    find? (some (alter f p tree)) (p ++ q) = find? (some (f (find? tree p))) q := by
  rw [find?_append, find?_alter_self]

theorem isLevel_find?_alter (hp : p ≠ []) (tree : Option ReferenceTree) :
    IsLevel (find? (some (alter f (q ++ p) tree)) q) := by
  induction q generalizing tree with
  | nil =>
    cases p with
    | nil => exact absurd rfl hp
    | cons key p => rfl
  | cons key q ih =>
    rw [List.cons_append, find?, alter, entriesOf_level, Entries.get?_put, if_pos rfl]
    exact ih _

theorem find?_opened (hp : p ≠ []) (tree : Option ReferenceTree) :
    find? (some (opened tree)) p = find? tree p := by
  cases p with
  | nil => exact absurd rfl hp
  | cons key p => rfl

theorem find?_reference (hp : p ≠ []) (text : Text) : find? (some (reference text)) p = none := by
  cases p with
  | nil => exact absurd rfl hp
  | cons key p => exact find?_none p

/-- **A write leaves alone what stands beside its way.** -/
theorem find?_alter_beside (hpq : ¬ p <+: q) (hqp : ¬ q <+: p)
    (tree : Option ReferenceTree) : find? (some (alter f p tree)) q = find? tree q := by
  induction p generalizing q tree with
  | nil => exact absurd List.nil_prefix hpq
  | cons key p ih =>
    cases q with
    | nil => exact absurd List.nil_prefix hqp
    | cons key' q =>
      rw [find?, alter, entriesOf_level, Entries.get?_put]
      split
      · rename_i hkey
        subst hkey
        rw [List.cons_prefix_cons, and_iff_right rfl] at hpq hqp
        exact ih hpq hqp _
      · rfl

/-- A reference that stands somewhere after a write stood there, or is part of what was written. -/
theorem of_find?_alter {tree : Option ReferenceTree} {text : Text}
    (h : find? (some (alter f p tree)) q = some (reference text)) :
    find? tree q = some (reference text) ∨
      ∃ below, q = p ++ below ∧ find? (some (f (find? tree p))) below = some (reference text) := by
  by_cases hpq : p <+: q
  · obtain ⟨below, rfl⟩ := hpq
    rw [find?_alter_append] at h
    exact .inr ⟨below, rfl, h⟩
  by_cases hqp : q <+: p
  · obtain ⟨below, rfl⟩ := hqp
    have hbelow : below ≠ [] := by
      rintro rfl
      rw [List.append_nil] at hpq
      exact hpq (List.prefix_refl q)
    have hlevel := isLevel_find?_alter (f := f) (q := q) hbelow tree
    rw [h] at hlevel
    cases hlevel
  · rw [find?_alter_beside hpq hqp] at h
    exact .inl h

end ReferenceTree

end ThemedCss
