import ThemedCss.Proofs.Session.History

/-!
# What hoisting does to the meaning of references

A reference selects the binding of its name where there is one, and its fallback otherwise. Hoisting
binds names that were free, so that a reference with another fallback than the hoisted one selects a
new text.

* `Store.environment`: the variables that hold in a colour mode;
* `Bindings.select`: the text that a reference selects;
* `Follows.get?_environment`: every variable that was written holds its value;
* **`select_environment_iff`**: when a reference selects the same text with and without hoisting;
* `hoisting_changes_select`: two fallbacks behind one name.
-/

namespace ThemedCss

open Variable

/-- The variables that a style sheet declares in the light or the dark mode. -/
def Store.environment (s : Store) (dark : Bool) : Bindings :=
  if dark then (Sheet.lightBindings s).overlay s.dark else Sheet.lightBindings s

/-- The text that a reference with a fallback selects. -/
def Bindings.select (e : Bindings) (reference fallback : Text) : Text :=
  (e.get? (ofReference reference)).getD fallback

theorem Store.get?_environment (s : Store) (dark : Bool) (n : Text) :
    (s.environment dark).get? n =
      (if dark then s.dark.get? n else none).or ((s.light.get? n).or (s.root.get? n)) := by
  cases dark with
  | false => exact OrderedMap.get?_overlay s.root s.light n
  | true =>
    refine (OrderedMap.get?_overlay (s.root.overlay s.light) s.dark n).trans ?_
    rw [OrderedMap.get?_overlay]
    rfl

theorem Bindings.select_of_get?_eq_some {e : Bindings} {reference v : Text}
    (h : e.get? (ofReference reference) = some v) (fallback : Text) :
    e.select reference fallback = v := by
  rw [select, h]
  rfl

theorem Bindings.select_of_get?_eq_none {e : Bindings} {reference : Text}
    (h : e.get? (ofReference reference) = none) (fallback : Text) :
    e.select reference fallback = fallback := by
  rw [select, h]
  rfl

namespace Session

namespace Follows

variable {written : Registry} {compiled : List Text} {s : Session}

theorem get?_environment (h : Follows written compiled s) {dark : Bool} {n v : Text}
    (hv : (written.store.environment dark).get? n = some v) :
    (s.registry.store.environment dark).get? n = some v := by
  rw [Store.get?_environment] at hv ⊢
  rw [h.registry.light, h.registry.dark]
  rcases Option.or_eq_some_iff.mp hv with hd | ⟨hd, hv⟩
  · rw [hd]
    rfl
  rw [hd, Option.none_or]
  rcases Option.or_eq_some_iff.mp hv with hl | ⟨hl, hv⟩
  · rw [hl]
    rfl
  · rw [hl, Option.none_or]
    exact h.registry.root n v hv

theorem hoisted_of_get?_environment (h : Follows written compiled s) {dark : Bool} {n v : Text}
    (hn : (written.store.environment dark).get? n = none)
    (hv : (s.registry.store.environment dark).get? n = some v) :
    ∃ reference, n = ofReference reference ∧
      s.config.hoistThreshold ≤ s.registry.table.usesOf reference v := by
  rw [Store.get?_environment] at hn hv
  rw [h.registry.light, h.registry.dark] at hv
  obtain ⟨hdark, hn⟩ := Option.or_eq_none_iff.mp hn
  obtain ⟨hlight, hroot⟩ := Option.or_eq_none_iff.mp hn
  rw [hdark, hlight, Option.none_or, Option.none_or] at hv
  exact h.registry.added n v hroot hv

theorem usesOf_le (h : Follows written compiled s) (reference value : Text) :
    s.registry.table.usesOf reference value ≤ written.table.usesOf reference value +
      (compiled.flatMap allReferences).count (reference, value) := by
  rw [h.uses]
  conv_rhs =>
    rw [← List.take_append_drop s.scanned compiled, List.flatMap_append, List.count_append]
  omega

end Follows

/-- The variables that hold in a colour mode at the end of a run. -/
def environmentOf (config : Config) (calls : List Call) (dark : Bool) : Bindings :=
  ((start config).run calls).1.registry.store.environment dark

/-- The variables that would hold then if nothing had been hoisted. -/
def writtenEnvironmentOf (config : Config) (calls : List Call) (dark : Bool) : Bindings :=
  (collected config calls).store.environment dark

/-- **A reference selects the same text with and without hoisting exactly when its name was written
anyway, or is not bound, or is bound to its own fallback.** Where the texts differ, the name was not
written, and the run uses the new text behind it often enough to be hoisted. -/
theorem select_environment_iff (config : Config) {calls : List Call}
    (hr : ∀ call ∈ calls, call.resets = false) (dark : Bool) (reference fallback : Text) :
    ((environmentOf config calls dark).select reference fallback =
        (writtenEnvironmentOf config calls dark).select reference fallback ↔
      (writtenEnvironmentOf config calls dark).get? (ofReference reference) ≠ none ∨
      (environmentOf config calls dark).get? (ofReference reference) = none ∨
      (environmentOf config calls dark).get? (ofReference reference) = some fallback) ∧
    ∀ text, (environmentOf config calls dark).select reference fallback = text →
      (writtenEnvironmentOf config calls dark).select reference fallback ≠ text →
      (writtenEnvironmentOf config calls dark).get? (ofReference reference) = none ∧
      text ≠ fallback ∧ config.hoistThreshold ≤ usesIn config calls reference text := by
  have h := follows_run config hr
  cases hw : (writtenEnvironmentOf config calls dark).get? (ofReference reference) with
  | some w =>
    have he : (environmentOf config calls dark).get? (ofReference reference) = some w :=
      h.get?_environment hw
    rw [Bindings.select_of_get?_eq_some hw, Bindings.select_of_get?_eq_some he]
    exact ⟨⟨fun _ => .inl (Option.some_ne_none w), fun _ => rfl⟩, fun text ht hne => absurd ht hne⟩
  | none =>
    rw [Bindings.select_of_get?_eq_none hw]
    cases he : (environmentOf config calls dark).get? (ofReference reference) with
    | none =>
      rw [Bindings.select_of_get?_eq_none he]
      exact ⟨⟨fun _ => .inr (.inl rfl), fun _ => rfl⟩, fun text ht hne => absurd ht hne⟩
    | some v =>
      rw [Bindings.select_of_get?_eq_some he]
      refine ⟨⟨fun hv => .inr (.inr (congrArg some hv)), ?_⟩, ?_⟩
      · rintro (hn | hn | hv)
        · exact absurd rfl hn
        · cases hn
        · exact Option.some.inj hv
      · rintro text rfl hne
        refine ⟨rfl, hne.symm, ?_⟩
        obtain ⟨r, hname, huses⟩ := h.hoisted_of_get?_environment hw he
        obtain rfl : reference = r := List.append_cancel_left hname
        rw [config_run] at huses
        exact Nat.le_trans huses (h.usesOf_le reference v)

/-- Three references to a gap with one fallback and a fourth one with another. -/
def gapCalls : List Call :=
  [.createStyle (.style (.rules [(.text "a", .rules [(.text "margin",
      .property (.scalar (.text "var(--gap, 1px) var(--gap, 1px) var(--gap, 1px)")))]),
    (.text "b", .rules [(.text "margin", .property (.scalar (.text "var(--gap, 2px)")))])])) none,
    .css true none]

theorem select_environment_gap :
    (∀ call ∈ gapCalls, call.resets = false) ∧
    (environmentOf {} gapCalls false).select "gap" "1px" =
      (writtenEnvironmentOf {} gapCalls false).select "gap" "1px" ∧
    (environmentOf {} gapCalls false).select "gap" "2px" = "1px" ∧
    (writtenEnvironmentOf {} gapCalls false).select "gap" "2px" = "2px" ∧
    3 ≤ usesIn {} gapCalls "gap" "1px" := by
  have hr : ∀ call ∈ gapCalls, call.resets = false := by decide
  have he : (environmentOf {} gapCalls false).get? "--gap" = some "1px" := by decide +kernel
  have hafter : (environmentOf {} gapCalls false).select "gap" "2px" = "1px" := by decide +kernel
  have hbefore : (writtenEnvironmentOf {} gapCalls false).select "gap" "2px" = "2px" := by
    decide +kernel
  have hne : (writtenEnvironmentOf {} gapCalls false).select "gap" "2px" ≠ "1px" := by
    rw [hbefore]
    decide
  refine ⟨hr, ?_, hafter, hbefore, ?_⟩
  · exact ((select_environment_iff {} hr false "gap" "1px").1).mpr (.inr (.inr he))
  · exact ((select_environment_iff {} hr false "gap" "2px").2 "1px" hafter hne).2.2

/-- **Hoisting does not keep the text that every reference selects**: the fourth reference selected
its own fallback, and selects the hoisted one. -/
theorem hoisting_changes_select :
    ¬ ∀ (config : Config) (calls : List Call), (∀ call ∈ calls, call.resets = false) →
      ∀ (dark : Bool), ∀ css ∈ compiled config calls, ∀ use ∈ allReferences css,
        (environmentOf config calls dark).select use.1 use.2 =
          (writtenEnvironmentOf config calls dark).select use.1 use.2 := by
  intro h
  have hlast : ((("gap" : Text), ("2px" : Text)) : Text × Text) ∈
      (compiled {} gapCalls).flatMap allReferences := by decide +kernel
  obtain ⟨css, hmem, huse⟩ := List.mem_flatMap.mp hlast
  have hsame := h {} gapCalls (by decide) false css hmem _ huse
  exact absurd hsame (by decide +kernel)

end Session

end ThemedCss
