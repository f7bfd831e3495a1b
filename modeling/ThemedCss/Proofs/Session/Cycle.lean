import Mathlib.Logic.Relation
import ThemedCss.Proofs.Session.Counting
import ThemedCss.Proofs.Session.Meaning
import ThemedCss.Proofs.Variable.Growth

/-!
# Cycles of custom properties

A hoisted fallback may hold references of its own, and nothing keeps hoisting from closing a cycle of
them. Where no collected leaf holds a reference, every link between custom properties is one of a
fallback that the chunks repeat behind its name.

* `mentions`: the custom properties that a text refers to, with or without a fallback;
* `Store.Links`: a name is linked to the names that its values mention;
* `RepeatLinks`: the links of the fallbacks that are repeated often enough to be hoisted;
* **`links_acyclic`**: links are links of hoisted fallbacks, so that there is no cycle unless the
  repeated fallbacks have one;
* `hoisting_closes_cycle`: two fallbacks that refer to each other's names.
-/

namespace ThemedCss

open Variable

namespace Variable

/-- The code points of a name that is mentioned. -/
def isMentionChar (c : Char) : Bool := !(Text.isBlank c || c = ',' || c = '(' || c = ')')

/-- The custom property that is mentioned at the front of a text, with or without a fallback. -/
def mention? (t : Text) : Option Text := do
  let inner ← ("var(" : Text).isPrefixOf? t
  let named ← ("--" : Text).isPrefixOf? (inner.dropWhile Text.isBlank)
  let behind := (named.dropWhile isMentionChar).dropWhile Text.isBlank
  if behind.head? = some ')' ∨ behind.head? = some ',' then
    some (ofReference (named.takeWhile isMentionChar))
  else none

/-- The custom properties that a text mentions. -/
def mentions (t : Text) : List Text := t.tails.filterMap mention?

example : mentions "calc(var(--a) + var( --b , var(--c, 1px)) * 2)" = ["--a", "--b", "--c"] := by
  decide

end Variable

/-- A store links a name to the names that its values mention. -/
def Store.Links (s : Store) (n m : Text) : Prop :=
  ∃ mode v, s.get? mode n = some v ∧ m ∈ mentions v

namespace Session

/-- Whether the chunks that were compiled since the last reset have a fallback behind a name often
enough to be hoisted. -/
def Repeats (config : Config) (calls : List Call) (n v : Text) : Prop :=
  ∃ reference, n = ofReference reference ∧
    config.hoistThreshold ≤ ((chunksIn config calls).flatMap nestedReferences).count (reference, v)

/-- The repeated fallbacks link the names that they stand behind to the names that they mention. -/
def RepeatLinks (config : Config) (calls : List Call) (n m : Text) : Prop :=
  ∃ v, Repeats config calls n v ∧ m ∈ mentions v

variable {config : Config} {calls : List Call} {n v : Text}

theorem usesOf_foldl_record_eq_zero {leaves : List Leaf} (h : ∀ l ∈ leaves, l.text ≠ v)
    (reference : Text) : (leaves.foldl Leaf.record {}).table.usesOf reference v = 0 := by
  rw [usesOf_foldl_record, List.countP_eq_zero]
  intro l hl huse
  exact h l hl (of_decide_eq_true huse).2

/-- **A value that no leaf has is one that hoisting has added**: it stands in the root under a name
that no leaf writes there, and is repeated behind it. -/
theorem repeats_of_get? {mode : Mode} (hleaves : ∀ l ∈ leavesIn config calls, l.text ≠ v)
    (hv : ((start config).run calls).1.registry.store.get? mode n = some v) :
    mode = .root ∧ (∀ l ∈ leavesIn config calls, l.target = some .root → name l.path ≠ n) ∧
      Repeats config calls n v := by
  have h := follows_sinceReset config calls
  have hwritten : ∀ mode,
      ((leavesIn config calls).foldl Leaf.record {}).store.get? mode n ≠ some v := by
    intro mode hmode
    rcases Leaf.get?_foldl_record hmode with hempty | ⟨l, hl, -, -, htext⟩
    · cases mode <;> cases hempty
    · exact hleaves l hl htext
  cases mode with
  | light => exact absurd ((congrArg (·.get? n) h.registry.light).symm.trans hv) (hwritten .light)
  | dark => exact absurd ((congrArg (·.get? n) h.registry.dark).symm.trans hv) (hwritten .dark)
  | root =>
    cases hroot : ((leavesIn config calls).foldl Leaf.record {}).store.root.get? n with
    | some w =>
      have hw : some w = some v := (h.registry.root n w hroot).symm.trans hv
      exact absurd (hroot.trans hw) (hwritten .root)
    | none =>
      obtain ⟨reference, hname, huses⟩ := h.registry.added n v hroot hv
      refine ⟨rfl, fun l hl htarget hn => ?_, reference, hname, ?_⟩
      · have hhas : (((leavesIn config calls).foldl Leaf.record {}).store.root.get? n).isSome :=
          hn ▸ Leaf.has_foldl_record {} hl htarget
        rw [hroot] at hhas
        cases hhas
      · have hcount := h.usesOf_le reference v
        rw [usesOf_foldl_record_eq_zero hleaves, Nat.zero_add] at hcount
        rw [config_run] at huses
        rw [funext nestedReferences_eq]
        exact Nat.le_trans huses hcount

/-- **Where no leaf mentions a custom property, only hoisting links names.** A value with mentions
stands in the root under a name that no leaf writes there, and the chunks repeat it behind that name;
so there is no cycle unless the repeated fallbacks have one. -/
theorem links_acyclic (config : Config) (calls : List Call)
    (hleaves : ∀ l ∈ leavesIn config calls, mentions l.text = []) :
    let store := ((start config).run calls).1.registry.store
    (∀ mode n v, store.get? mode n = some v → mentions v ≠ [] →
      mode = .root ∧ (∀ l ∈ leavesIn config calls, l.target = some .root → name l.path ≠ n) ∧
        Repeats config calls n v) ∧
    ((∀ n, ¬ Relation.TransGen (RepeatLinks config calls) n n) →
      ∀ n, ¬ Relation.TransGen store.Links n n) := by
  intro store
  have hhoisted : ∀ mode n v, store.get? mode n = some v → mentions v ≠ [] →
      mode = .root ∧ (∀ l ∈ leavesIn config calls, l.target = some .root → name l.path ≠ n) ∧
        Repeats config calls n v := by
    intro mode n v hv hmentions
    refine repeats_of_get? (fun l hl htext => hmentions ?_) hv
    rw [← htext]
    exact hleaves l hl
  have hlinks : store.Links ≤ RepeatLinks config calls := by
    rintro n m ⟨mode, v, hv, hm⟩
    obtain ⟨-, -, hrepeats⟩ := hhoisted mode n v hv (List.ne_nil_of_mem hm)
    exact ⟨v, hrepeats, hm⟩
  exact ⟨hhoisted, fun hacyclic n hcycle => hacyclic n (Relation.TransGen.mono hlinks n n hcycle)⟩

/-- A variable, and a style that repeats a reference with a reference to the variable behind it. -/
def nestedCalls : List Call :=
  [.createVars (.map [(.text "b", .scalar (.text "1px"))]) (.scalar (.text "")),
    .createStyle (.style (.rules [(.text "p", .rules [(.text "margin", .property (.scalar (.text
      "var(--a, var(--b, 1px)) var(--a, var(--b, 1px)) var(--a, var(--b, 1px))")))])])) none,
    .css true none]

theorem links_acyclic_nested :
    (∀ l ∈ leavesIn {} nestedCalls, mentions l.text = []) ∧
    ((start {}).run nestedCalls).1.registry.store.Links "--a" "--b" ∧
    ∀ n, ¬ Relation.TransGen ((start {}).run nestedCalls).1.registry.store.Links n n := by
  have hleaves : ∀ l ∈ leavesIn {} nestedCalls, mentions l.text = [] := by decide +kernel
  have huses : ∀ use ∈ (chunksIn {} nestedCalls).flatMap allReferences, ∀ m ∈ mentions use.2,
      ofReference use.1 = "--a" ∧ m = "--b" := by decide +kernel
  have honly : ∀ n m, RepeatLinks {} nestedCalls n m → n = "--a" ∧ m = "--b" := by
    rintro n m ⟨v, ⟨reference, rfl, hcount⟩, hm⟩
    rw [funext nestedReferences_eq] at hcount
    exact huses (reference, v) (List.count_pos_iff.mp (Nat.lt_of_lt_of_le (by decide) hcount)) m hm
  refine ⟨hleaves, ⟨.root, "var(--b, 1px)", by decide +kernel, by decide⟩, ?_⟩
  refine (links_acyclic {} nestedCalls hleaves).2 fun n hcycle => ?_
  obtain ⟨first, hfirst, -⟩ := Relation.TransGen.head'_iff.mp hcycle
  obtain ⟨last, -, hlast⟩ := Relation.TransGen.tail'_iff.mp hcycle
  exact absurd ((honly n first hfirst).1.symm.trans (honly last n hlast).2) (by decide)

/-- Two references with a reference to the other name behind each of them. The inner fallback goes to
a third name, so that both outer ones are hoisted. -/
def cycleCalls : List Call :=
  [.createStyle (.style (.rules [(.text "p", .rules [
      (.text "margin", .property (.scalar (.text
        "var(--c, 1px) var(--c, 1px) var(--c, 1px)"))),
      (.text "padding", .property (.scalar (.text
        "var(--a, var(--b, 1px)) var(--a, var(--b, 1px)) var(--a, var(--b, 1px))"))),
      (.text "inset", .property (.scalar (.text
        "var(--b, var(--a, 1px)) var(--b, var(--a, 1px)) var(--b, var(--a, 1px))")))])])) none,
    .css true none]

/-- **Hoisting can make custom properties cyclic**, though no leaf mentions one. -/
theorem hoisting_closes_cycle : ¬ ∀ (config : Config) (calls : List Call),
    (∀ call ∈ calls, ∀ l ∈ call.leaves config, mentions l.text = []) →
    ∀ n, ¬ Relation.TransGen ((start config).run calls).1.registry.store.Links n n := by
  intro h
  have hroot : ((start {}).run cycleCalls).1.registry.store.root.entries =
      ([("--c", "1px"), ("--a", "var(--b, 1px)"), ("--b", "var(--a, 1px)")] : List (Text × Text)) := by
    decide +kernel
  have hthere : ((start {}).run cycleCalls).1.registry.store.Links "--a" "--b" :=
    ⟨.root, "var(--b, 1px)", congrArg (Entries.get? ("--a" : Text)) hroot, by decide⟩
  have hback : ((start {}).run cycleCalls).1.registry.store.Links "--b" "--a" :=
    ⟨.root, "var(--a, 1px)", congrArg (Entries.get? ("--b" : Text)) hroot, by decide⟩
  exact h {} cycleCalls (by decide) "--a" (.tail (.single hthere) hback)

end Session

end ThemedCss
