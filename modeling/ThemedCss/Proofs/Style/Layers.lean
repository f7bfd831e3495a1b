import ThemedCss.Proofs.Selector.Nesting
import ThemedCss.Proofs.Style.Entries

/-!
# Layers of selectors

A tree may stand inside keys and markers, layer by layer. What they select is all that matters for its
text: a conditional at-rule may be put around the tree, around all layers, or between any two, and a
marker with one selector is as good as a key.

* `Layer`, `within`: a key or a marker, and a level inside some of them;
* `Leads`: the selector below some layers, when none of them selects nothing;
* `Leads.compile_within`: a level inside layers is compiled below the selector they lead to;
* `compile_header`: a conditional at-rule is wrapped around what it holds;
* **`compile_within_header`**: where on the path such an at-rule stands does not matter;
* **`compile_nested_eq_key`**: a marker with one selector is the key of this selector.
-/

namespace ThemedCss.Style

/-! ## Layers -/

/-- A key of a selector, or a marker under whatever key. -/
inductive Layer
  | key (k : Scalar)
  | marker (k : Scalar) (selectors : List Value)

/-- The level whose only entry is a layer around a level. -/
def Layer.around : Layer → List (Scalar × Style) → List (Scalar × Style)
  | key k, entries => [(k, rules entries)]
  | marker k selectors, entries => [(k, nested selectors (rules entries))]

/-- A level inside layers, of which the first is the outermost. -/
def within (path : List Layer) (entries : List (Scalar × Style)) : List (Scalar × Style) :=
  path.foldr Layer.around entries

/-- Layers that lead from a parent to a selector: keys that are neither at-rules nor theme scopes, and
markers, where what is selected behind each of them is not empty. -/
inductive Leads (themeKeys : ThemeKeys) : Text → List Layer → Text → Prop
  | nil (parent : Text) : Leads themeKeys parent [] parent
  | key {k parent path selector} : AtRule.header? themeKeys k.display = none →
      Selector.nest k.display parent ≠ [] →
      Leads themeKeys (Selector.nest k.display parent) path selector →
      Leads themeKeys parent (.key k :: path) selector
  | marker {k selectors combined parent path selector} : combine selectors parent = .ok combined →
      List.intercalate ", " combined ≠ [] →
      Leads themeKeys (List.intercalate ", " combined) path selector →
      Leads themeKeys parent (.marker k selectors :: path) selector

variable {o : Options} {themeKeys : ThemeKeys} {parent selector : Text} {path outer inner : List Layer}
  {entries : List (Scalar × Style)}

theorem header?_eq_none_iff {key : Text} : AtRule.header? themeKeys key = none ↔
    key.head? ≠ some '@' ∧ (themeKeys = .scope → Mode.ofThemeKey? key = none) := by
  unfold AtRule.header? AtRule.isHeader
  split_ifs with hat htheme
  · exact iff_of_false not_false fun h => h.1 (of_decide_eq_true hat)
  · refine iff_of_false not_false fun h => ?_
    exact Option.isSome_iff_ne_none.mp htheme.2 (h.2 htheme.1)
  · simp_all

theorem within_append (outer inner : List Layer) (entries : List (Scalar × Style)) :
    within (outer ++ inner) entries = within outer (within inner entries) :=
  List.foldr_append

theorem declarations_within (o : Options) (h : path ≠ []) (entries : List (Scalar × Style)) :
    declarations o (within path entries) = [] := by
  obtain ⟨l, path, rfl⟩ := List.exists_cons_of_ne_nil h
  cases l <;> rfl

namespace Leads

theorem append (h : Leads themeKeys parent (outer ++ inner) selector) :
    ∃ between, Leads themeKeys parent outer between ∧ Leads themeKeys between inner selector := by
  induction outer generalizing parent with
  | nil => exact ⟨parent, .nil parent, h⟩
  | cons l outer ih =>
    cases h with
    | key hk hne h =>
      obtain ⟨between, houter, hinner⟩ := ih h
      exact ⟨between, .key hk hne houter, hinner⟩
    | marker hc hne h =>
      obtain ⟨between, houter, hinner⟩ := ih h
      exact ⟨between, .marker hc hne houter, hinner⟩

theorem ne_nil (h : Leads themeKeys parent path selector) (hpath : path ≠ [] ∨ parent ≠ []) :
    selector ≠ [] := by
  induction h with
  | nil parent => simpa using hpath
  | key _ hne _ ih => exact ih (.inr hne)
  | marker _ hne _ ih => exact ih (.inr hne)

end Leads

/-! ## Levels inside layers -/

theorem block_nested {selectors : List Value} {combined : List Text}
    (hc : combine selectors parent = .ok combined) (hne : combined ≠ []) (key : Text) :
    block o key parent (.nested selectors (.rules entries)) =
      compile o (List.intercalate ", " combined) (.rules entries) := by
  rw [block, hc]
  cases entries with
  | nil =>
    -- empty styles are not compiled, which comes to the same
    exact if_pos (.inr rfl)
  | cons entry entries => exact if_neg (not_or_intro hne Bool.false_ne_true)

/-- **A level inside layers is compiled below the selector that these lead to.** -/
theorem Leads.compile_within (h : Leads o.themeKeys parent path selector)
    (entries : List (Scalar × Style)) :
    compile o parent (.rules (within path entries)) = compile o selector (.rules entries) := by
  induction h with
  | nil parent => rfl
  | @key k parent path selector hk _ _ ih =>
    rw [← ih, within, List.foldr_cons, Layer.around, compile_single o parent k rfl, block,
      Placement.ofKey, hk]
    rfl
  | @marker k selectors combined parent path selector hc hne _ ih =>
    have hcombined : combined ≠ [] := fun hnil => hne (by rw [hnil]; rfl)
    rw [← ih, within, List.foldr_cons, Layer.around, compile_single o parent k rfl,
      block_nested hc hcombined]
    rfl

/-! ## Conditional at-rules -/

theorem standing_nil (o : Options) (header : Text) (blocks : List Text) :
    standing o header [] blocks = wrap o header (joinBlocks blocks) := by
  have hlevel : level header [] [] = [] := rfl
  unfold standing
  rw [hlevel]
  generalize wrap o header (joinBlocks blocks) = css
  by_cases hcss : css = []
  · simp [hcss, joinBlocks]
  · simp [hcss, joinBlocks_singleton]

/-- A conditional at-rule is wrapped around what the level in it compiles to: below a selector, and
also without one when the level has no properties. -/
theorem compile_header {q : Scalar} (hq : AtRule.isHeader q.display = true)
    (hs : AtRule.isStatement q.display = false) (h : parent ≠ [] ∨ declarations o entries = []) :
    compile o parent (.rules [(q, .rules entries)]) =
      wrap o q.display <$> compile o parent (.rules entries) := by
  have hheader : AtRule.header? o.themeKeys q.display = some q.display := if_pos hq
  rw [compile_single o parent q rfl, block, Placement.ofKey, hheader]
  dsimp only
  rw [Placement.ofHeader, hs, compile]
  by_cases hparent : parent = []
  · obtain hne | hdeclarations := h
    · exact absurd hparent hne
    · rw [if_pos (.inl hparent), hdeclarations, hparent]
      dsimp only
      cases blocks o [] entries with
      | error f => rfl
      | ok texts => exact congrArg Except.ok (standing_nil o q.display texts)
  · rw [if_neg (not_or_intro hparent Bool.false_ne_true)]
    dsimp only
    cases blocks o parent entries <;> rfl

theorem Leads.compile_within_wrap (h : Leads o.themeKeys parent (outer ++ inner) selector) {q : Scalar}
    (hq : AtRule.isHeader q.display = true) (hs : AtRule.isStatement q.display = false)
    (hne : outer ++ inner ≠ [] ∨ parent ≠ []) (entries : List (Scalar × Style)) :
    compile o parent (.rules (within (outer ++ .key q :: inner) entries)) =
      wrap o q.display <$> compile o parent (.rules (within (outer ++ inner) entries)) := by
  obtain ⟨between, houter, hinner⟩ := h.append
  have hbetween : between ≠ [] ∨ declarations o (within inner entries) = [] := by
    by_cases hinnerNil : inner = []
    · left
      rw [hinnerNil, List.append_nil] at hne
      exact houter.ne_nil hne
    · exact .inr (declarations_within o hinnerNil entries)
  rw [within_append, within_append, houter.compile_within, houter.compile_within]
  exact compile_header hq hs hbetween

/-- **Where on a path of selectors a conditional at-rule stands does not matter**: around all layers,
around none, or between any two. With a selector it is wrapped around the text that the path compiles
to without it. -/
theorem compile_within_header (h : Leads o.themeKeys parent path selector) {q : Scalar}
    (hq : AtRule.isHeader q.display = true) (hs : AtRule.isStatement q.display = false)
    (entries : List (Scalar × Style)) (hpath : outer ++ inner = path) :
    (∀ outer' inner', outer' ++ inner' = path →
      compile o parent (.rules (within (outer ++ .key q :: inner) entries)) =
        compile o parent (.rules (within (outer' ++ .key q :: inner') entries))) ∧
    (path ≠ [] ∨ parent ≠ [] →
      compile o parent (.rules (within (outer ++ .key q :: inner) entries)) =
        wrap o q.display <$> compile o parent (.rules (within path entries))) := by
  have hwrap : path ≠ [] ∨ parent ≠ [] → ∀ outer inner, outer ++ inner = path →
      compile o parent (.rules (within (outer ++ .key q :: inner) entries)) =
        wrap o q.display <$> compile o parent (.rules (within path entries)) := by
    rintro hne outer inner rfl
    exact h.compile_within_wrap hq hs hne entries
  refine ⟨fun outer' inner' hpath' => ?_, fun hne => hwrap hne outer inner hpath⟩
  by_cases hnil : path = []
  · -- without a layer there is one place only
    rw [hnil] at hpath hpath'
    obtain ⟨rfl, rfl⟩ := List.append_eq_nil_iff.mp hpath
    obtain ⟨rfl, rfl⟩ := List.append_eq_nil_iff.mp hpath'
    rfl
  · rw [hwrap (.inl hnil) outer inner hpath, hwrap (.inl hnil) outer' inner' hpath']

/-- A card that is pointed at, or one of its links that has the focus. -/
def cardPath : List Layer :=
  [.key (.text ".card"), .marker (.text "states") [.scalar (.text "&:hover"), .scalar (.text "a:focus")]]

/-- A colour, and the margin of what is marked. -/
def cardEntries : List (Scalar × Style) :=
  [(.text "color", .property (.scalar (.text "red"))),
    (.text "mark", .rules [(.text "margin", .property (.scalar (.int 0)))])]

theorem compile_within_header_card :
    Leads .literal "" cardPath ".card:hover, .card a:focus" ∧
    AtRule.isHeader "@media print" = true ∧ AtRule.isStatement "@media print" = false ∧
    compile {} "" (.rules (within (.key (.text "@media print") :: cardPath) cardEntries)) =
      compile {} "" (.rules (within (cardPath ++ [.key (.text "@media print")]) cardEntries)) ∧
    compile {} "" (.rules (within (.key (.text "@media print") :: cardPath) cardEntries)) =
      wrap {} "@media print" <$> compile {} "" (.rules (within cardPath cardEntries)) := by
  have hleads : Leads .literal "" cardPath ".card:hover, .card a:focus" :=
    .key rfl (by decide) (.marker rfl (by decide) (.nil _))
  have hall := @compile_within_header {} "" ".card:hover, .card a:focus" cardPath [] cardPath hleads
    (.text "@media print") (by decide) (by decide) cardEntries rfl
  exact ⟨hleads, by decide, by decide, hall.1 cardPath [] (List.append_nil _),
    hall.2 (.inl (List.cons_ne_nil _ _))⟩

/-! ## Markers with one selector -/

theorem block_nested_singleton (hparent : parent = [] ∨ Selector.IsFilled parent) {s : Text}
    (hlist : Selector.isList s = false) (hs : AtRule.header? o.themeKeys s = none) (x : Text)
    (entries : List (Scalar × Style)) :
    block o x parent (.nested [.scalar (.text s)] (.rules entries)) =
      block o s parent (.rules entries) := by
  have hne : Selector.combined [s] parent ≠ [] := by
    rw [ne_eq, Selector.combined_eq_nil_iff]
    rintro (h | ⟨hnil, hsplit⟩)
    · exact List.cons_ne_nil _ _ h
    · exact (hparent.resolve_left hnil).split_ne_nil hsplit
  have hcombine : combine [.scalar (.text s)] parent = .ok (Selector.combined [s] parent) :=
    combine_map [s] parent
  have hnest : Selector.nest s parent = List.intercalate ", " (Selector.combined [s] parent) :=
    Selector.nest_eq_intercalate_combined (header?_eq_none_iff.mp hs).1 hlist hparent
  rw [block_nested hcombine hne, ← hnest, block, Placement.ofKey, hs]
  rfl

/-- **A marker with one selector is the key of this selector**, among whatever other entries: below a
list without an empty part and at the top level, unless the selector is a list or the key of a scope. -/
theorem compile_nested_eq_key (hparent : parent = [] ∨ Selector.IsFilled parent) {s : Text}
    (hlist : Selector.isList s = false) (hat : s.head? ≠ some '@')
    (htheme : o.themeKeys = .scope → Mode.ofThemeKey? s = none) (x : Scalar)
    (before after entries : List (Scalar × Style)) :
    compile o parent (.rules (before ++ (x, .nested [.scalar (.text s)] (.rules entries)) :: after)) =
      compile o parent (.rules (before ++ (.text s, .rules entries) :: after)) :=
  compile_congr_entry rfl rfl
    (block_nested_singleton hparent hlist (header?_eq_none_iff.mpr ⟨hat, htheme⟩) x.display entries)
    before after

theorem compile_nested_eq_key_hover :
    Selector.IsFilled "nav, main" ∧ Selector.isList "&:hover" = false ∧
    compile ⟨"  ", .scope⟩ "nav, main" (.rules ([(.text "color", .property (.scalar (.text "red")))] ++
        (.text "states", .nested [.scalar (.text "&:hover")] (.rules cardEntries)) :: cardEntries)) =
      compile ⟨"  ", .scope⟩ "nav, main" (.rules ([(.text "color", .property (.scalar (.text "red")))] ++
        (.text "&:hover", .rules cardEntries) :: cardEntries)) := by
  have hfilled : Selector.IsFilled "nav, main" := ⟨by decide, by decide⟩
  have hlist : Selector.isList "&:hover" = false := by decide
  exact ⟨hfilled, hlist, compile_nested_eq_key (.inr hfilled) hlist (by decide) (by decide)
    (.text "states") _ cardEntries cardEntries⟩

end ThemedCss.Style
