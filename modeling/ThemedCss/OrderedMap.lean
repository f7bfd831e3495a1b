/-!
# Ordered maps

Maps that list their entries in the order in which the keys came. A key that is written again
keeps its place.

* `OrderedMap`: entries with distinct keys;
* `get?`, `insert`, `erase`, `overlay`;
* **`get?_insert`**, `get?_overlay`: reading after a write;
* `keys_insert_of_mem`, `keys_insert_of_not_mem`: where a write puts its key.
-/

namespace ThemedCss

namespace Entries

variable {κ α : Type} [DecidableEq κ]

/-- The value of the first entry with a key. -/
def get? (k : κ) : List (κ × α) → Option α
  | [] => none
  | (k', v) :: es => if k' = k then some v else get? k es

/-- The entries with a key's value replaced, or with a new last entry. -/
def put (k : κ) (v : α) : List (κ × α) → List (κ × α)
  | [] => [(k, v)]
  | (k', w) :: es => if k' = k then (k', v) :: es else (k', w) :: put k v es

/-- The keys in order. -/
abbrev keys (es : List (κ × α)) : List κ := es.map Prod.fst

theorem get?_put (k j : κ) (v : α) (es : List (κ × α)) :
    get? j (put k v es) = if k = j then some v else get? j es := by
  induction es with
  | nil => simp [put, get?]
  | cons e es ih =>
    obtain ⟨i, w⟩ := e
    by_cases hi : i = k
    · subst hi; by_cases hj : i = j <;> simp [put, get?, hj]
    · by_cases hj : i = j
      · subst hj; simp [put, get?, hi, Ne.symm hi]
      · simp [put, get?, hi, hj, ih]

theorem keys_put (k : κ) (v : α) (es : List (κ × α)) :
    keys (put k v es) = if k ∈ keys es then keys es else keys es ++ [k] := by
  induction es with
  | nil => simp [put]
  | cons e es ih =>
    obtain ⟨i, w⟩ := e
    by_cases hi : i = k
    · subst hi; simp [put]
    · simp only [put, hi, ite_false, List.map_cons, ih, List.mem_cons, Ne.symm hi, false_or]
      split <;> simp

theorem put_of_not_mem {k : κ} {es : List (κ × α)} (h : k ∉ keys es) (v : α) :
    put k v es = es ++ [(k, v)] := by
  induction es with
  | nil => rfl
  | cons e es ih =>
    obtain ⟨i, w⟩ := e
    obtain ⟨hi, hes⟩ := not_or.mp (mt List.mem_cons.mpr h)
    rw [put, if_neg (Ne.symm hi), ih hes, List.cons_append]

theorem nodup_put (k : κ) (v : α) {es : List (κ × α)} (h : (keys es).Nodup) :
    (keys (put k v es)).Nodup := by
  rw [keys_put]
  split
  · exact h
  · rename_i hk
    refine List.nodup_append.mpr ⟨h, by simp, ?_⟩
    rintro a ha b hb rfl
    exact hk (List.mem_singleton.mp hb ▸ ha)

theorem get?_eq_some_iff {k : κ} {v : α} {es : List (κ × α)} (h : (keys es).Nodup) :
    get? k es = some v ↔ (k, v) ∈ es := by
  induction es with
  | nil => simp [get?]
  | cons e es ih =>
    obtain ⟨i, w⟩ := e
    obtain ⟨hi, hes⟩ := List.nodup_cons.mp h
    by_cases hk : i = k
    · subst hk
      have hv : (i, v) ∉ es := fun hm => hi (List.mem_map.mpr ⟨_, hm, rfl⟩)
      simp [get?, hv, eq_comm]
    · simp [get?, hk, Ne.symm hk, ih hes]

theorem get?_eq_none_iff (k : κ) (es : List (κ × α)) : get? k es = none ↔ k ∉ keys es := by
  induction es with
  | nil => simp [get?]
  | cons e es ih =>
    obtain ⟨i, w⟩ := e
    by_cases hi : i = k
    · simp [get?, hi]
    · simp only [get?, hi, ite_false, ih, List.map_cons, List.mem_cons, Ne.symm hi, false_or]

end Entries

/-- A map that lists its entries in the order in which their keys came. -/
structure OrderedMap (κ α : Type) where
  entries : List (κ × α)
  nodup_keys : (entries.map Prod.fst).Nodup
  deriving DecidableEq

namespace OrderedMap

variable {κ α : Type}

/-- The map without entries. -/
def empty : OrderedMap κ α := ⟨[], List.nodup_nil⟩

instance : EmptyCollection (OrderedMap κ α) := ⟨empty⟩

variable [DecidableEq κ]

/-- The keys in order. -/
def keys (m : OrderedMap κ α) : List κ := m.entries.map Prod.fst

/-- The number of entries. -/
def size (m : OrderedMap κ α) : Nat := m.entries.length

/-- Whether there are no entries. -/
def isEmpty (m : OrderedMap κ α) : Bool := m.entries.isEmpty

/-- The value of a key. -/
def get? (m : OrderedMap κ α) (k : κ) : Option α := Entries.get? k m.entries

/-- Whether a key has a value. -/
def contains (m : OrderedMap κ α) (k : κ) : Bool := (m.get? k).isSome

/-- The map with a key's value written; a new key comes last. -/
def insert (m : OrderedMap κ α) (k : κ) (v : α) : OrderedMap κ α :=
  ⟨Entries.put k v m.entries, Entries.nodup_put k v m.nodup_keys⟩

/-- The map without a key. -/
def erase (m : OrderedMap κ α) (k : κ) : OrderedMap κ α :=
  ⟨m.entries.filter (·.1 ≠ k), m.nodup_keys.sublist (List.filter_sublist.map _)⟩

/-- The map without its first entry. -/
def tail (m : OrderedMap κ α) : OrderedMap κ α :=
  ⟨m.entries.tail, m.nodup_keys.sublist ((List.tail_sublist _).map _)⟩

/-- The entries of a second map written over a first one. -/
def overlay (m n : OrderedMap κ α) : OrderedMap κ α :=
  n.entries.foldl (fun m (k, v) => m.insert k v) m

@[simp] theorem get?_empty (k : κ) : (empty : OrderedMap κ α).get? k = none := rfl

theorem get?_insert (m : OrderedMap κ α) (k j : κ) (v : α) :
    (m.insert k v).get? j = if k = j then some v else m.get? j :=
  Entries.get?_put k j v m.entries

@[simp] theorem get?_insert_self (m : OrderedMap κ α) (k : κ) (v : α) :
    (m.insert k v).get? k = some v := by simp [get?_insert]

theorem keys_insert_of_mem {m : OrderedMap κ α} {k : κ} (v : α) (h : k ∈ m.keys) :
    (m.insert k v).keys = m.keys :=
  (Entries.keys_put k v m.entries).trans (if_pos h)

theorem keys_insert_of_not_mem {m : OrderedMap κ α} {k : κ} (v : α) (h : k ∉ m.keys) :
    (m.insert k v).keys = m.keys ++ [k] :=
  (Entries.keys_put k v m.entries).trans (if_neg h)

theorem get?_eq_none_iff {m : OrderedMap κ α} {k : κ} : m.get? k = none ↔ k ∉ m.keys :=
  Entries.get?_eq_none_iff k m.entries

theorem contains_iff_mem_keys (m : OrderedMap κ α) (k : κ) : m.contains k = true ↔ k ∈ m.keys := by
  unfold contains
  rw [Option.isSome_iff_ne_none, ne_eq, get?_eq_none_iff, Decidable.not_not]

theorem get?_eq_some_iff {m : OrderedMap κ α} {k : κ} {v : α} :
    m.get? k = some v ↔ (k, v) ∈ m.entries :=
  Entries.get?_eq_some_iff m.nodup_keys

/-- Of two maps written over each other, the second one is read first. -/
theorem get?_overlay (m n : OrderedMap κ α) (k : κ) :
    (m.overlay n).get? k = (n.get? k).or (m.get? k) := by
  suffices h : ∀ (es : List (κ × α)) (m : OrderedMap κ α), (Entries.keys es).Nodup →
      (es.foldl (fun m (k, v) => m.insert k v) m).get? k = (Entries.get? k es).or (m.get? k) from
    h n.entries m n.nodup_keys
  intro es
  induction es with
  | nil => intro m _; rfl
  | cons e es ih =>
    obtain ⟨i, v⟩ := e
    intro m h
    obtain ⟨hi, hes⟩ := List.nodup_cons.mp h
    rw [List.foldl_cons, ih _ hes, get?_insert]
    by_cases hk : i = k
    · subst hk
      rw [(Entries.get?_eq_none_iff i es).mpr hi]
      simp [Entries.get?]
    · simp [Entries.get?, hk]

end OrderedMap

end ThemedCss
