import ThemedCss.Proofs.Selector.Split

/-!
# Selector lists compile part by part

Below a list of selectors a tree has the same blocks as below each part of the list; only the
headers of its rules differ, and list the selectors for all the parts. Inside an at-rule that no
selector scopes nothing depends on the list.

* `Layout.AreUnions`: blocks with the headers of two other sequences of blocks;
* `Level.areUnions_layouts`: the blocks of a level below parents of which one is the union;
* **`areUnions_layoutsBelow`**: compiling below a list and below two halves of it.
-/

namespace ThemedCss

open Selector

namespace Layout

/-- Blocks that list at each rule the selectors of two other sequences of blocks. The declarations
and the at-rules around them are the same, and so is all of an at-rule that no selector scopes. -/
inductive AreUnions : List Layout → List Layout → List Layout → Prop
  | nil : AreUnions [] [] []
  | rule {a b c declarations ls ms ns} : split a = split b ++ split c → AreUnions ls ms ns →
      AreUnions (.rule a declarations :: ls) (.rule b declarations :: ms)
        (.rule c declarations :: ns)
  | group {header is js ks ls ms ns} : AtRule.isStatement header = false → AreUnions is js ks →
      AreUnions ls ms ns →
      AreUnions (.group header is :: ls) (.group header js :: ms) (.group header ks :: ns)
  | statement {l ls ms ns} : AtRule.isStatement l.header = true → AreUnions ls ms ns →
      AreUnions (l :: ls) (l :: ms) (l :: ns)

namespace AreUnions

variable {ls ms ns : List Layout}

theorem append {is js ks : List Layout} (h : AreUnions ls ms ns) (h' : AreUnions is js ks) :
    AreUnions (ls ++ is) (ms ++ js) (ns ++ ks) := by
  induction h with
  | nil => exact h'
  | rule hs _ ih => exact .rule hs ih
  | group hh hi _ _ ih => exact .group hh hi ih
  | statement hh _ ih => exact .statement hh ih

theorem ofDeclarations {a b c : Text} (h : split a = split b ++ split c)
    (declarations : List Text) :
    AreUnions (Layout.ofDeclarations a declarations) (Layout.ofDeclarations b declarations)
      (Layout.ofDeclarations c declarations) := by
  rw [Layout.ofDeclarations, Layout.ofDeclarations, Layout.ofDeclarations]
  split
  · exact .nil
  · exact .rule h .nil

theorem ofInner {header : Text} (hh : AtRule.isStatement header = false) (h : AreUnions ls ms ns) :
    AreUnions (Layout.ofInner header ls) (Layout.ofInner header ms) (Layout.ofInner header ns) := by
  cases h with
  | nil => exact .nil
  | rule hs hr => exact .group hh (.rule hs hr) .nil
  | group hh' hi hr => exact .group hh (.group hh' hi hr) .nil
  | statement hs hr => exact .group hh (.statement hs hr) .nil

theorem of_statements (h : ∀ l ∈ ls, AtRule.isStatement l.header = true) : AreUnions ls ls ls := by
  induction ls with
  | nil => exact .nil
  | cons l ls ih =>
    exact .statement (h l List.mem_cons_self) (ih fun m hm => h m (List.mem_cons_of_mem l hm))

end AreUnions

end Layout

namespace Style

open Layout

/-- Whether a list of selectors is made of two others. -/
structure IsUnion (a b c : Text) : Prop where
  whole : IsSound a
  left : IsSound b
  right : IsSound c
  split_eq : split a = split b ++ split c

namespace IsUnion

variable {a b c key : Text} {ts : List Text}

theorem nest (h : IsUnion a b c) (hk : IsSound key) :
    IsUnion (Selector.nest key a) (Selector.nest key b) (Selector.nest key c) := by
  refine ⟨hk.nest h.whole, hk.nest h.left, hk.nest h.right, ?_⟩
  rw [split_nest hk h.whole, split_nest hk h.left, split_nest hk h.right, h.split_eq,
    List.flatMap_append]

theorem combined (h : IsUnion a b c) (hts : ∀ t ∈ ts, IsSound t) (hne : ts ≠ []) :
    IsUnion (List.intercalate ", " (Selector.combined ts a))
      (List.intercalate ", " (Selector.combined ts b))
      (List.intercalate ", " (Selector.combined ts c)) := by
  have hsound : ∀ {s}, IsSound s → IsSound (List.intercalate ", " (Selector.combined ts s)) :=
    fun hs => .intercalate (hs.combined hts) fun hnil => hne (hs.combined_eq_nil_iff.mp hnil)
  refine ⟨hsound h.whole, hsound h.left, hsound h.right, ?_⟩
  rw [split_intercalate_combined hts h.whole, split_intercalate_combined hts h.left,
    split_intercalate_combined hts h.right, h.split_eq, List.flatMap_append]

end IsUnion

variable {o : Options} {entries : List (Scalar × Style)} {p : Scalar → Value → Prop} {a b c : Text}

theorem statement_of_mem_alone {header : Text} {declarations : List Text} {ls : List Layout}
    (hs : AtRule.isStatement header = true) :
    ∀ l ∈ ofDeclarations header declarations ++ ofInner header ls,
      AtRule.isStatement l.header = true := by
  intro l hl
  rw [ofDeclarations, ofInner] at hl
  rcases List.mem_append.mp hl with hl | hl <;> split at hl <;> cases hl
  · exact hs
  · contradiction
  · exact hs
  · contradiction

/-- Below a union of parents the blocks of a level are unions. -/
theorem Level.areUnions_layouts (h : Level p IsSound entries) (hu : IsUnion a b c) :
    AreUnions (layouts o a entries) (layouts o b entries) (layouts o c entries) := by
  induction h generalizing a b c with
  | nil => exact .nil
  | property _ _ ih => exact ih hu
  | @rules k inner entries hk _ _ ihi ih =>
    refine AreUnions.append ?_ (ih hu)
    rw [layoutsOf, layoutsOf, layoutsOf, Placement.ofKey, Placement.ofKey, Placement.ofKey]
    cases hheader : AtRule.header? o.themeKeys k.display with
    | none =>
      have hnest := hu.nest hk
      exact (AreUnions.ofDeclarations hnest.split_eq _).append (ihi hnest)
    | some header =>
      dsimp only
      rw [Placement.ofHeader, Placement.ofHeader, Placement.ofHeader]
      by_cases hs : AtRule.isStatement header = true
      · rw [if_pos (.inr hs), if_pos (.inr hs), if_pos (.inr hs)]
        exact .of_statements (statement_of_mem_alone hs)
      · have hinside : ∀ {s}, IsSound s → ¬ (s = [] ∨ AtRule.isStatement header = true) :=
          fun hs' => not_or_intro hs'.ne_nil hs
        rw [if_neg (hinside hu.whole), if_neg (hinside hu.left), if_neg (hinside hu.right)]
        exact .ofInner (Bool.eq_false_iff.mpr hs)
          ((AreUnions.ofDeclarations hu.split_eq _).append (ihi hu))
  | @marker k inner entries selectors hts _ _ ihi ih =>
    refine AreUnions.append ?_ (ih hu)
    rw [layoutsOf, layoutsOf, layoutsOf, markerTexts_map]
    by_cases hne : selectors = []
    · rw [if_pos (hu.whole.combined_eq_nil_iff.mpr hne),
        if_pos (hu.left.combined_eq_nil_iff.mpr hne), if_pos (hu.right.combined_eq_nil_iff.mpr hne)]
      exact .nil
    · have hjoined := hu.combined hts hne
      rw [if_neg (mt hu.whole.combined_eq_nil_iff.mp hne),
        if_neg (mt hu.left.combined_eq_nil_iff.mp hne),
        if_neg (mt hu.right.combined_eq_nil_iff.mp hne)]
      exact (AreUnions.ofDeclarations hjoined.split_eq _).append (ihi hjoined)

/-- **Below a list of selectors a tree compiles to the union of what it compiles to below its
parts.** -/
theorem areUnions_layoutsBelow (h : Level (fun _ _ => True) IsSound entries) {P Q : List Text}
    (hP : P ≠ []) (hQ : Q ≠ []) (hparts : ∀ s ∈ P ++ Q, IsPart s) (o : Options) :
    (∀ parent, compile o parent (.rules entries) =
      .ok (joinBlocks ((layoutsBelow o parent (.rules entries)).map (write o)))) ∧
    AreUnions (layoutsBelow o (List.intercalate ", " (P ++ Q)) (.rules entries))
      (layoutsBelow o (List.intercalate ", " P) (.rules entries))
      (layoutsBelow o (List.intercalate ", " Q) (.rules entries)) := by
  have hleft : ∀ s ∈ P, IsPart s := fun s hs => hparts s (List.mem_append_left Q hs)
  have hright : ∀ s ∈ Q, IsPart s := fun s hs => hparts s (List.mem_append_right P hs)
  have hsound : ∀ {ts : List Text}, ts ≠ [] → (∀ s ∈ ts, IsPart s) →
      IsSound (List.intercalate ", " ts) := fun hne hts =>
    .intercalate (fun s hs => (hts s hs).isSound) hne
  have hu : IsUnion (List.intercalate ", " (P ++ Q)) (List.intercalate ", " P)
      (List.intercalate ", " Q) := by
    refine ⟨hsound (List.append_ne_nil_of_left_ne_nil hP Q) hparts, hsound hP hleft,
      hsound hQ hright, ?_⟩
    rw [split_intercalate fun s hs => (hparts s hs).closed,
      split_intercalate fun s hs => (hleft s hs).closed,
      split_intercalate fun s hs => (hright s hs).closed, List.flatMap_append]
  refine ⟨compile_eq h o, ?_⟩
  exact (AreUnions.ofDeclarations hu.split_eq _).append (h.areUnions_layouts hu)

/-- A state of buttons, and an animation. -/
def buttonEntries : List (Scalar × Style) :=
  [(.text "&:hover, &:focus", .rules [(.text "color", .property (.scalar (.text "red")))]),
    (.text "@keyframes fade", .rules
      [(.text "from", .rules [(.text "opacity", .property (.scalar (.int 0)))])])]

theorem areUnions_layoutsBelow_buttons :
    Level (fun _ _ => True) IsSound buttonEntries ∧
    (∀ s ∈ [("button" : Text), ".link"] ++ [("input:is([type=submit], .go)" : Text)], IsPart s) ∧
    AreUnions (layoutsBelow {} "button, .link, input:is([type=submit], .go)" (.rules buttonEntries))
      (layoutsBelow {} "button, .link" (.rules buttonEntries))
      (layoutsBelow {} "input:is([type=submit], .go)" (.rules buttonEntries)) := by
  have hlevel : Level (fun _ _ => True) IsSound buttonEntries :=
    .rules ⟨by decide, by decide, by decide⟩ (.property trivial .nil)
      (.rules ⟨by decide, by decide, by decide⟩
        (.rules ⟨by decide, by decide, by decide⟩ (.property trivial .nil) .nil) .nil)
  have hparts : ∀ s ∈ [("button" : Text), ".link"] ++ [("input:is([type=submit], .go)" : Text)],
      IsPart s := by
    rintro s (_ | ⟨_, _ | ⟨_, _ | ⟨_, hs⟩⟩⟩)
    · exact ⟨by decide, by decide, by decide, by decide⟩
    · exact ⟨by decide, by decide, by decide, by decide⟩
    · exact ⟨by decide, by decide, by decide, by decide⟩
    · cases hs
  exact ⟨hlevel, hparts, (areUnions_layoutsBelow hlevel (by decide) (by decide) hparts {}).2⟩

end Style

end ThemedCss
