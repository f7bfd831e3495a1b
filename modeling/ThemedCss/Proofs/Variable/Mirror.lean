import ThemedCss.Proofs.Variable.Growth

/-!
# The references that a collection answers

What a caller gets back for a tree holds a reference for each leaf: with the leaf's text behind it,
or without, and then the root or the light partition has the leaf's name.

* `ReferenceTree.texts`: the references of a tree;
* `Leaf.Answers`: what the reference to a leaf may be;
* `Collection.IsAnswered`: the references so far are those of some leaves;
* **`collect_isAnswered`**: the references of a tree are those of its leaves.
-/

namespace ThemedCss

open Variable

namespace ReferenceTree

mutual

/-- The references of a tree. -/
def texts : ReferenceTree → List Text
  | reference text => [text]
  | level entries => textsIn entries

/-- The references of the entries of a level. -/
def textsIn : List (Text × ReferenceTree) → List Text
  | [] => []
  | (_, tree) :: entries => texts tree ++ textsIn entries

end

variable {text key : Text} {tree : ReferenceTree} {entries : List (Text × ReferenceTree)}

theorem mem_textsIn_put (h : text ∈ textsIn (Entries.put key tree entries)) :
    text ∈ texts tree ∨ text ∈ textsIn entries := by
  induction entries with
  | nil => simpa [Entries.put, textsIn] using h
  | cons e entries ih =>
    obtain ⟨k, other⟩ := e
    by_cases hk : k = key
    · simp only [Entries.put, hk, if_true, textsIn, List.mem_append] at h ⊢
      exact h.imp_right .inr
    · simp only [Entries.put, hk, if_false, textsIn, List.mem_append] at h ⊢
      rcases h with h | h
      · exact .inr (.inl h)
      · exact (ih h).imp_right .inr

theorem mem_textsIn_of_get? (h : Entries.get? key entries = some tree) (htext : text ∈ texts tree) :
    text ∈ textsIn entries := by
  induction entries with
  | nil => cases h
  | cons e entries ih =>
    obtain ⟨k, other⟩ := e
    rw [textsIn, List.mem_append]
    rw [Entries.get?] at h
    split at h
    · cases h
      exact .inl htext
    · exact .inr (ih h)

theorem mem_textsIn_of_below (h : text ∈ textsIn (Collection.below key entries)) :
    text ∈ textsIn entries := by
  unfold Collection.below at h
  split at h
  · rename_i level hlevel
    exact mem_textsIn_of_get? hlevel (by rwa [texts])
  · rw [textsIn] at h
    cases h

end ReferenceTree

/-! ## One leaf -/

/-- What the reference to a leaf may be: it has the leaf's text behind it, or the root or the light
partition has the leaf's name. -/
def Leaf.Answers (l : Leaf) (s : Store) (text : Text) : Prop :=
  text = inlineReference (reference l.path) l.text ∨
    text = bareReference (reference l.path) ∧ s.Declares (name l.path)

theorem Leaf.answers_resolve (l : Leaf) (r : Registry) :
    l.Answers r.store (r.resolve (reference l.path) l.text) := by
  unfold Registry.resolve
  split
  · rename_i h
    refine .inr ⟨rfl, h.imp_left fun hroot => ?_⟩
    exact Option.isSome_of_eq_some hroot
  · exact .inl rfl

theorem Leaf.Answers.mono {l : Leaf} {s s' : Store} {text : Text} (h : l.Answers s text)
    (hs : s.GrowsTo s') : l.Answers s' text :=
  h.imp_right fun hbare => ⟨hbare.1, hs.declares hbare.2⟩

/-! ## A whole walk -/

namespace Collection

open ReferenceTree

/-- Every reference so far is that of one of some leaves. -/
def IsAnswered (c : Collection) (ls : List Leaf) : Prop :=
  ∀ text ∈ textsIn c.references, ∃ l ∈ ls, l.Answers c.registry.store text

variable {c : Collection} {ls ls' : List Leaf}

theorem IsAnswered.mono (h : c.IsAnswered ls) (hsub : ls ⊆ ls') {r : Registry}
    (hs : c.registry.store.GrowsTo r.store) : IsAnswered ⟨r, c.references⟩ ls' := by
  intro text htext
  obtain ⟨l, hl, hanswers⟩ := h text htext
  exact ⟨l, hsub hl, hanswers.mono hs⟩

theorem IsAnswered.leaf (h : c.IsAnswered ls) (o : CollectOptions) (path : List Text) (key : Text)
    (mode : Option Mode) (v : Value) :
    (leaf o path key mode v c).IsAnswered (ls ++ leafOf o path mode v) := by
  unfold Collection.leaf leafOf
  cases v.css? with
  | none => simpa using h
  | some text =>
    let l : Leaf := ⟨o.target? mode, path, text⟩
    have hold : IsAnswered ⟨l.record c.registry, c.references⟩ (ls ++ [l]) :=
      h.mono (List.subset_append_left ls [l]) (l.growsTo_record c.registry)
    intro t ht
    rcases mem_textsIn_put ht with ht | ht
    · obtain rfl := List.mem_singleton.mp (by simpa only [texts] using ht)
      exact ⟨l, by simp [l], l.answers_resolve (l.record c.registry)⟩
    · exact hold t ht

theorem IsAnswered.foldl_leaf (h : c.IsAnswered ls) (o : CollectOptions) (path : List Text)
    (key : Text) (values : List (Mode × Value)) :
    (values.foldl (fun c (m, v) => Collection.leaf o path key (some m) v c) c).IsAnswered
      (ls ++ leavesOfModes o path values) := by
  induction values generalizing c ls with
  | nil => simpa [leavesOfModes] using h
  | cons e values ih =>
    rw [leavesOfModes, List.flatMap_cons, ← List.append_assoc]
    exact ih (h.leaf o path key (some e.1) e.2)

mutual

/-- **The references of a walk are those of its leaves.** -/
theorem walk_isAnswered (o : CollectOptions) (path : List Text) (mode : Option Mode)
    (fields : List (Scalar × Value)) (c : Collection) (ls : List Leaf) (h : c.IsAnswered ls) :
    (walk o path mode fields c).IsAnswered (ls ++ leaves o path mode fields) := by
  match fields with
  | [] =>
    rw [walk, leaves, List.append_nil]
    exact h
  | (k, v) :: fields =>
    rw [walk, leaves, ← List.append_assoc]
    exact walk_isAnswered o path mode fields _ _ (visit_isAnswered o path mode k.display v c ls h)

theorem visit_isAnswered (o : CollectOptions) (path : List Text) (mode : Option Mode) (key : Text)
    (v : Value) (c : Collection) (ls : List Leaf) (h : c.IsAnswered ls) :
    (visit o path mode key v c).IsAnswered (ls ++ leavesAt o path mode key v) := by
  match v with
  | .map fields =>
    rw [visit, leavesAt]
    cases o.scopeOf? key with
    | some m => exact walk_isAnswered o path (some m) fields c ls h
    | none =>
      cases if o.themeKeys = .scope then modeLeaves? fields else none with
      | some values => exact h.foldl_leaf o _ key (lightFirst values)
      | none =>
        -- the walk starts from the level that is there already, and its result replaces it
        let below : Collection := ⟨c.registry, below key c.references⟩
        have hbelow : below.IsAnswered ls := fun text ht => h text (mem_textsIn_of_below ht)
        have hwalked := walk_isAnswered o (path ++ [segment key]) mode fields below ls hbelow
        have hgrows := Leaf.growsTo_foldl_record c.registry
          (leaves o (path ++ [segment key]) mode fields)
        rw [← walk_registry o _ mode fields below] at hgrows
        intro text ht
        rcases mem_textsIn_put ht with ht | ht
        · exact hwalked text (by rwa [texts] at ht)
        · exact h.mono (List.subset_append_left ls _) hgrows text ht
  | .list items => rw [visit, leavesAt]; exact h.leaf o _ key mode _
  | .scalar s => rw [visit, leavesAt]; exact h.leaf o _ key mode _
  | .pair first second => rw [visit, leavesAt]; exact h.leaf o _ key mode _
  | .set members => rw [visit, leavesAt]; exact h.leaf o _ key mode _

end

end Collection

/-- **The references of a tree are those of its leaves.** -/
theorem collect_isAnswered {o : CollectOptions} {name values : Value} {r : Registry} {c : Collection}
    (h : collect o name values r = .ok c) : c.IsAnswered (leavesOf o name values) := by
  obtain ⟨mode, path, fields, rfl, hleaves⟩ := exists_walk_of_collect h
  have hnone : Collection.IsAnswered ⟨r, []⟩ [] := by
    intro text ht
    rw [ReferenceTree.textsIn] at ht
    cases ht
  rw [hleaves]
  exact Collection.walk_isAnswered o path mode fields _ _ hnone

end ThemedCss
