import Mathlib.Data.List.Basic
import Mathlib.Data.List.Induction
import ThemedCss.Variable.Store

/-!
# What the store gives back

A variable is held under its name with the two leading hyphens, and a write may leave these out. What
is read under the full name is what was last written to the variable, in whichever spelling; under a
name without the hyphens nothing is ever found, not even behind a write of this very name.

* `Store.Write`, `Store.after`: writes and clearings, and the store behind some of them;
* `Store.IsLastWrite`: what was last written to a variable since everything was cleared;
* **`Store.get?_after_dashed`**: what is read under the full name;
* **`Store.reads_last_write`**: all that is read behind some writes;
* `Store.undashed_name_unread`: a name without the hyphens.
-/

namespace ThemedCss.Store

/-- A write to a store, or its clearing. -/
inductive Write
  | set (m : Mode) (name value : Text)
  | reset

namespace Write

/-- What a write gives to a variable, which either of its spellings names. -/
def value? (m : Mode) (name : Text) : Write → Option Text
  | set m' name' value => if m' = m ∧ dashed name' = dashed name then some value else none
  | reset => none

/-- Whether a write leaves a variable as it is. -/
def Spares (m : Mode) (name : Text) : Write → Prop
  | set m' name' _ => ¬ (m' = m ∧ dashed name' = dashed name)
  | reset => False

/-- Whether a write can change the variables of a mode. -/
def concerns (m : Mode) : Write → Bool
  | set m' _ _ => m' = m
  | reset => true

end Write

/-- The store behind a write. -/
def write (s : Store) : Write → Store
  | .set m name value => s.set m name value
  | .reset => empty

/-- The store behind some writes to an empty one. -/
def after (writes : List Write) : Store := writes.foldl write empty

/-- What was last written to a variable since everything was cleared. -/
def IsLastWrite (writes : List Write) (m : Mode) (name value : Text) : Prop :=
  ∃ earlier w later, writes = earlier ++ w :: later ∧ w.value? m name = some value ∧
    ∀ w' ∈ later, w'.Spares m name

variable {s : Store} {m n : Mode} {name value : Text} {writes : List Write} {w : Write}

@[simp] theorem get?_empty (m : Mode) (name : Text) : empty.get? m name = none := by
  cases m <;> rfl

/-! ## Names -/

theorem dashed_of_isPrefixOf (h : ("--" : Text).isPrefixOf name) : dashed name = name := if_pos h

@[simp] theorem dashed_dashed (name : Text) : dashed (dashed name) = dashed name := by
  refine dashed_of_isPrefixOf ?_
  unfold dashed
  split
  · assumption
  · rfl

/-! ## One write -/

theorem bindings_set_of_ne (h : m ≠ n) (s : Store) (name value : Text) :
    (s.set m name value).bindings n = s.bindings n := by
  rw [set, bindings_withBindings, if_neg h]

theorem get?_write_dashed (s : Store) (w : Write) (m : Mode) (name : Text) :
    (s.write w).get? m (dashed name) = some value ↔
      w.value? m name = some value ∨ w.Spares m name ∧ s.get? m (dashed name) = some value := by
  cases w with
  | set m' name' v =>
    rw [write, get?_set, Write.value?, Write.Spares]
    split
    · simp_all
    · simp_all
  | reset => simp [write, Write.value?, Write.Spares]

/-! ## Runs -/

theorem after_concat (writes : List Write) (w : Write) :
    after (writes ++ [w]) = (after writes).write w := by
  rw [after, List.foldl_append]
  rfl

theorem isLastWrite_concat : IsLastWrite (writes ++ [w]) m name value ↔
    w.value? m name = some value ∨ w.Spares m name ∧ IsLastWrite writes m name value := by
  constructor
  · rintro ⟨earlier, w', later, heq, hvalue, hspares⟩
    rcases List.eq_nil_or_concat' later with rfl | ⟨later, last, rfl⟩
    · obtain ⟨-, hw⟩ := List.append_inj' heq rfl
      obtain rfl := List.singleton_inj.mp hw
      exact .inl hvalue
    · rw [← List.cons_append, ← List.append_assoc] at heq
      obtain ⟨rfl, hw⟩ := List.append_inj' heq rfl
      obtain rfl := List.singleton_inj.mp hw
      rw [List.forall_mem_append] at hspares
      exact .inr ⟨List.forall_mem_singleton.mp hspares.2, earlier, w', later, rfl, hvalue, hspares.1⟩
  · rintro (hvalue | ⟨hspares, earlier, w', later, rfl, hvalue, hlater⟩)
    · exact ⟨writes, w, [], rfl, hvalue, List.forall_mem_nil _⟩
    · refine ⟨earlier, w', later ++ [w], by simp, hvalue, ?_⟩
      exact List.forall_mem_append.mpr ⟨hlater, List.forall_mem_singleton.mpr hspares⟩

/-- **Under its full name a variable has what was last written to it**, in whichever spelling. -/
theorem get?_after_dashed (writes : List Write) (m : Mode) (name value : Text) :
    (after writes).get? m (dashed name) = some value ↔ IsLastWrite writes m name value := by
  induction writes using List.reverseRecOn generalizing value with
  | nil =>
    refine iff_of_false (by simp [after]) ?_
    rintro ⟨earlier, w, later, heq, -⟩
    cases earlier <;> cases heq
  | append_singleton writes w ih =>
    rw [after_concat, get?_write_dashed, isLastWrite_concat, ih]

theorem dashed_of_get?_after (h : (after writes).get? m name = some value) : dashed name = name := by
  induction writes using List.reverseRecOn generalizing value with
  | nil => simp [after] at h
  | append_singleton writes w ih =>
    rw [after_concat] at h
    cases w with
    | set m' name' v =>
      rw [write, get?_set] at h
      split at h
      · rename_i hsame
        rw [← hsame.2, dashed_dashed]
      · exact ih h
    | reset => simp [write] at h

theorem bindings_after_filter (writes : List Write) (m : Mode) :
    (after (writes.filter (Write.concerns m))).bindings m = (after writes).bindings m := by
  induction writes using List.reverseRecOn with
  | nil => rfl
  | append_singleton writes w ih =>
    rw [List.filter_append, after_concat]
    cases w with
    | set m' name v =>
      by_cases hm : m' = m
      · rw [List.filter_cons_of_pos (by simpa [Write.concerns] using hm), List.filter_nil, after_concat]
        simp only [write, set, bindings_withBindings, hm, ih]
      · rw [List.filter_cons_of_neg (by simpa [Write.concerns] using hm), List.filter_nil,
          List.append_nil, ih, write, bindings_set_of_ne hm]
    | reset =>
      rw [List.filter_cons_of_pos (by rfl), List.filter_nil, after_concat]
      rfl

/-! ## What is read -/

theorem has_iff (s : Store) (m : Mode) (name : Text) : s.has m name = true ↔ s.get? m name ≠ none :=
  Option.isSome_iff_ne_none

theorem defines_iff (s : Store) (name : Text) :
    s.defines name = true ↔ ∃ m, s.has m name = true := by
  rw [defines, List.any_eq_true]
  refine exists_congr fun m => and_iff_right ?_
  cases m <;> decide

/-- **What the store gives back.** The full name of a variable gives what was last written to it in
whichever spelling, and no other name gives anything. A name is there when it gives something, it is
defined when it is there in some mode, and writes to one mode do not change another. -/
theorem reads_last_write (writes : List Write) :
    (∀ m name value, (after writes).get? m (dashed name) = some value ↔
      IsLastWrite writes m name value) ∧
    (∀ m name, (after writes).get? m name =
      if dashed name = name then (after writes).get? m (dashed name) else none) ∧
    (∀ m name, (after writes).has m name = true ↔ (after writes).get? m name ≠ none) ∧
    (∀ name, (after writes).defines name = true ↔ ∃ m, (after writes).has m name = true) ∧
    ∀ m, (after (writes.filter (Write.concerns m))).bindings m = (after writes).bindings m := by
  refine ⟨get?_after_dashed writes, fun m name => ?_, has_iff (after writes), defines_iff (after writes),
    bindings_after_filter writes⟩
  split
  · rename_i hname
    rw [hname]
  · rename_i hname
    exact Option.eq_none_iff_forall_ne_some.mpr fun value h => hname (dashed_of_get?_after h)

/-- **A name without its hyphens is not found** where it has just been written. -/
theorem undashed_name_unread : ¬ ∀ (writes : List Write) (m : Mode) (name value : Text),
    IsLastWrite writes m name value → (after writes).get? m name = some value := by
  intro h
  have hread := h [.set .root "gap" "1rem"] .root "gap" "1rem"
    ⟨[], _, [], rfl, by decide, List.forall_mem_nil _⟩
  exact absurd hread (by decide)

end ThemedCss.Store
