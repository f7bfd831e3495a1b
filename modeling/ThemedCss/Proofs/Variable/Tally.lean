import Mathlib.Algebra.GroupWithZero.Nat
import Mathlib.Data.List.Induction
import ThemedCss.Proofs.Variable.Promotion

/-!
# The table of uses as a tally

What a table holds under a literal is settled by the references behind which the literal has been
seen, in the order in which they came; hoisting only adds its marks.

* `Usage.ofReferences`: the usage of a literal that was seen behind some references;
* `keys_uses_ofReferences`, `sum_uses_ofReferences`: its references come in first-seen order, and
  their counts add up to its own;
* `Tallies`: a table holds what was seen, marks aside;
* **`Tallies.trackAll`**, `Tallies.hoist`: counting and hoisting keep it.
-/

namespace ThemedCss

theorem Entries.sum_put_succ {κ : Type} [DecidableEq κ] (k : κ) (es : List (κ × Nat)) :
    ((put k ((get? k es).getD 0 + 1) es).map Prod.snd).sum = (es.map Prod.snd).sum + 1 := by
  induction es with
  | nil => rfl
  | cons e es ih =>
    obtain ⟨i, n⟩ := e
    by_cases hi : i = k
    · simp only [put, get?, hi, if_true, Option.getD_some, List.map_cons, List.sum_cons]
      omega
    · simp only [put, get?, hi, if_false, List.map_cons, List.sum_cons, ih]
      omega

namespace Usage

variable {value reference : Text} {refs : List Text} {u : Usage}

/-- The usage of a literal that was seen behind some references. -/
def ofReferences (value : Text) (refs : List Text) : Usage :=
  refs.foldl Usage.track { value := value }

/-- A usage without the mark of a promotion. -/
def unmarked (u : Usage) : Usage := { u with promoted := false }

theorem ofReferences_concat (value : Text) (refs : List Text) (reference : Text) :
    ofReferences value (refs ++ [reference]) = (ofReferences value refs).track reference :=
  List.foldl_append

theorem value_ofReferences (value : Text) (refs : List Text) :
    (ofReferences value refs).value = value := by
  induction refs using List.reverseRecOn with
  | nil => rfl
  | append_singleton refs reference ih =>
    rw [ofReferences_concat]
    exact ih

/-- **The references of a literal come in the order in which they were first seen.** -/
theorem keys_uses_ofReferences (value : Text) (refs : List Text) :
    (ofReferences value refs).uses.keys = refs.eraseDups := by
  induction refs using List.reverseRecOn with
  | nil => rfl
  | append_singleton refs reference ih =>
    rw [ofReferences_concat, track, List.eraseDups_append, ← ih]
    by_cases h : reference ∈ refs
    · have hkeys : reference ∈ (ofReferences value refs).uses.keys := by
        rw [ih]
        exact List.mem_eraseDups.mpr h
      rw [OrderedMap.keys_insert_of_mem _ hkeys]
      simp [List.removeAll, h]
    · have hkeys : reference ∉ (ofReferences value refs).uses.keys := by
        rw [ih]
        exact fun hmem => h (List.mem_eraseDups.mp hmem)
      rw [OrderedMap.keys_insert_of_not_mem _ hkeys]
      simp [List.removeAll, List.eraseDups_cons, h]

/-- **The counts of a literal's references add up to its own.** -/
theorem sum_uses_ofReferences (value : Text) (refs : List Text) :
    ((ofReferences value refs).uses.entries.map Prod.snd).sum = (ofReferences value refs).count := by
  induction refs using List.reverseRecOn with
  | nil => rfl
  | append_singleton refs reference ih =>
    rw [ofReferences_concat]
    refine (Entries.sum_put_succ reference _).trans ?_
    rw [ih]
    rfl

end Usage

namespace UsageTable

/-- The references behind which a literal has been seen, in the order in which they came. -/
def referencesOf (value : Text) (seen : List (Text × Text)) : List Text :=
  (seen.filter (·.2 = value)).map Prod.fst

/-- A table holds what has been seen, and nothing else, but for the marks of promotions. -/
def Tallies (t : UsageTable) (seen : List (Text × Text)) : Prop :=
  ∀ value, (t.get? value).map Usage.unmarked =
    if referencesOf value seen = [] then none
    else some (Usage.ofReferences value (referencesOf value seen))

theorem referencesOf_concat (reference value other : Text) (seen : List (Text × Text)) :
    referencesOf other (seen ++ [(reference, value)]) =
      referencesOf other seen ++ if value = other then [reference] else [] := by
  unfold referencesOf
  by_cases h : value = other <;> simp [h]

namespace Tallies

variable {t : UsageTable} {seen : List (Text × Text)}

theorem empty : Tallies ∅ [] := fun _ => rfl

theorem unmarked_entryD (h : t.Tallies seen) (value : Text) :
    (t.entryD value).unmarked = Usage.ofReferences value (referencesOf value seen) := by
  have hvalue := h value
  unfold entryD
  cases hu : t.get? value with
  | none =>
    rw [hu] at hvalue
    by_cases hnil : referencesOf value seen = []
    · rw [hnil]
      rfl
    · rw [if_neg hnil] at hvalue
      cases hvalue
  | some u =>
    rw [hu] at hvalue
    by_cases hnil : referencesOf value seen = []
    · rw [if_pos hnil] at hvalue
      cases hvalue
    · rw [if_neg hnil] at hvalue
      exact Option.some.inj hvalue

theorem track (h : t.Tallies seen) (reference value : Text) :
    (t.track reference value).Tallies (seen ++ [(reference, value)]) := by
  intro other
  rw [get?_track, referencesOf_concat]
  by_cases hv : value = other
  · subst hv
    have hne : referencesOf value seen ++ [reference] ≠ [] := by simp
    rw [if_pos rfl, if_pos rfl, if_neg hne, Usage.ofReferences_concat, ← h.unmarked_entryD value]
    rfl
  · rw [if_neg hv, if_neg hv, List.append_nil]
    exact h other

theorem trackAll (h : t.Tallies seen) (uses : List (Text × Text)) :
    (t.trackAll uses).Tallies (seen ++ uses) := by
  induction uses generalizing t seen with
  | nil => rwa [List.append_nil]
  | cons use uses ih =>
    rw [List.append_cons]
    exact ih (h.track use.1 use.2)

theorem usage_eq (h : t.Tallies seen) {value : Text} {u : Usage} (hu : t.get? value = some u) :
    u.value = value ∧ u.count = (u.uses.entries.map Prod.snd).sum ∧
      u.uses.keys = (referencesOf value seen).eraseDups := by
  have hunmarked : u.unmarked = Usage.ofReferences value (referencesOf value seen) := by
    rw [← h.unmarked_entryD, entryD, hu]
    rfl
  change u.unmarked.value = value ∧ u.unmarked.count = (u.unmarked.uses.entries.map Prod.snd).sum ∧
    u.unmarked.uses.keys = (referencesOf value seen).eraseDups
  rw [hunmarked]
  exact ⟨Usage.value_ofReferences _ _, (Usage.sum_uses_ofReferences _ _).symm,
    Usage.keys_uses_ofReferences _ _⟩

end Tallies

end UsageTable

namespace Registry

variable {r : Registry} {seen : List (Text × Text)} {threshold : Nat}

theorem tallies_mark {literal : Text} {u : Usage} (hu : r.table.get? literal = some u)
    (h : r.table.Tallies seen) : (r.mark literal u).table.Tallies seen := by
  intro value
  rw [get?_mark, ← h value]
  by_cases hv : literal = value
  · subst hv
    rw [if_pos rfl, hu]
    rfl
  · rw [if_neg hv]

/-- **Hoisting sees nothing new.** -/
theorem tallies_hoist (h : r.table.Tallies seen) : (r.hoist threshold).1.table.Tallies seen := by
  refine hoist_induction (P := fun r => r.table.Tallies seen) (fun r literal u hu h => ?_) h
  rcases promote_cases threshold r literal u with he | ⟨_, _, _, _, ⟨_, he⟩ | ⟨_, he⟩⟩
  · rwa [he]
  · rw [he]
    exact tallies_mark hu h
  · rw [he]
    exact tallies_mark hu h

end Registry

end ThemedCss
