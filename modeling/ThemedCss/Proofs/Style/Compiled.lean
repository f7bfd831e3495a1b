import ThemedCss.Proofs.Style.Layout

/-!
# Compiled style trees

Whatever a style tree holds: when it compiles, its text is that of its blocks. In these the at-rules
are the only blocks around other blocks.

* `combine_eq_ok`, `renders_blocks`, **`compile_eq_ok`**: a compiled tree is the text of its blocks;
* `Layout.AreProper`: blocks with declarations that end with a semicolon, inside at-rules alone;
* **`areProper_layoutsBelow`**: the blocks of every tree are such.
-/

namespace ThemedCss

namespace Style

variable {o : Options}

/-! ## The text of a compiled tree -/

theorem mapM_markerTexts {selectors : List Value} {keys : List Text}
    (h : selectors.mapM (fun
      | .scalar (.text t) => Except.ok t
      | _ => .error Fault.notText) = .ok keys) : keys = markerTexts selectors := by
  induction selectors generalizing keys with
  | nil =>
    cases h
    rfl
  | cons v selectors ih =>
    rw [List.mapM_cons] at h
    obtain ⟨t, ht, h⟩ := bind_eq_ok_iff.mp h
    obtain ⟨others, hothers, hkeys⟩ := bind_eq_ok_iff.mp h
    obtain rfl := Except.ok.inj hkeys
    match v with
    | .scalar (.text _) =>
      obtain rfl := Except.ok.inj ht
      rw [ih hothers]
      rfl

theorem combine_eq_ok {selectors : List Value} {parent : Text} {combined : List Text}
    (h : combine selectors parent = .ok combined) :
    combined = Selector.combined (markerTexts selectors) parent := by
  unfold combine at h
  unfold Selector.combined
  revert h
  cases (if parent = [] then [[]] else Selector.split parent) with
  | nil => exact fun h => (Except.ok.inj h).symm
  | cons part parts =>
    intro h
    rw [combineParts] at h
    · obtain ⟨keys, hkeys, hcombined⟩ := bind_eq_ok_iff.mp h
      rw [← mapM_markerTexts hkeys]
      exact (Except.ok.inj hcombined).symm
    · intro h
      cases h

mutual

/-- **A compiled tree is the text of its blocks.** -/
theorem compile_eq_ok (o : Options) (parent : Text) (style : Style) {css : Text}
    (h : compile o parent style = .ok css) :
    css = joinBlocks ((layoutsBelow o parent style).map (Layout.write o)) := by
  match style with
  | .property _ | .nested _ _ => cases h
  | .rules entries =>
    rw [compile] at h
    obtain ⟨texts, htexts, rfl⟩ := map_eq_ok_iff.mp h
    exact (renders_blocks o parent entries htexts).level_eq parent _

theorem renders_blocks (o : Options) (parent : Text) (entries : List (Scalar × Style))
    {texts : List Text} (h : blocks o parent entries = .ok texts) :
    Renders o texts (layouts o parent entries) := by
  match entries with
  | [] =>
    cases h
    exact .nil
  | (k, style) :: entries =>
    rw [blocks] at h
    obtain ⟨css, hcss, h⟩ := bind_eq_ok_iff.mp h
    obtain ⟨others, hothers, h⟩ := bind_eq_ok_iff.mp h
    obtain rfl := Except.ok.inj h
    rw [layouts, renders_block o k.display parent style hcss]
    exact (renders_blocks o parent entries hothers).cons _

theorem renders_block (o : Options) (key parent : Text) (style : Style) {css : Text}
    (h : block o key parent style = .ok css) :
    css = joinBlocks ((layoutsOf o key parent style).map (Layout.write o)) := by
  match style with
  | .property _ =>
    cases h
    rfl
  | .nested selectors styles =>
    rw [block] at h
    obtain ⟨combined, hcombined, h⟩ := bind_eq_ok_iff.mp h
    rw [layoutsOf, ← combine_eq_ok hcombined]
    by_cases hnil : combined = []
    · rw [if_pos (.inl hnil)] at h
      rw [if_pos hnil]
      exact (Except.ok.inj h).symm
    rw [if_neg hnil]
    by_cases hempty : (!styles.isTrue) = true
    · rw [if_pos (.inr hempty)] at h
      obtain rfl := Except.ok.inj h
      match styles with
      | .rules [] | .property _ | .nested _ _ => rfl
    · rw [if_neg (not_or_intro hnil hempty)] at h
      exact compile_eq_ok o _ styles h
  | .rules entries =>
    rw [block] at h
    rw [layoutsOf]
    cases hplace : Placement.ofKey o.themeKeys key parent with
    | under selector =>
      rw [hplace] at h
      obtain ⟨texts, htexts, rfl⟩ := map_eq_ok_iff.mp h
      exact (renders_blocks o selector entries htexts).level_eq selector _
    | inside header selector =>
      rw [hplace] at h
      obtain ⟨texts, htexts, h⟩ := bind_eq_ok_iff.mp h
      obtain rfl := Except.ok.inj h
      dsimp only
      rw [(renders_blocks o selector entries htexts).level_eq selector, Renders.wrap_eq]
    | alone header =>
      rw [hplace] at h
      obtain ⟨texts, htexts, rfl⟩ := map_eq_ok_iff.mp h
      exact (renders_blocks o [] entries htexts).standing_eq header _

end

end Style

/-! ## The blocks of a tree -/

namespace Layout

/-- Blocks inside at-rules alone, with declarations that end with a semicolon. -/
inductive AreProper : List Layout → Prop
  | nil : AreProper []
  | rule {header declarations ls} : (∀ d ∈ declarations, d.getLast? = some ';') → AreProper ls →
      AreProper (.rule header declarations :: ls)
  | group {header inner ls} : header.head? = some '@' → inner ≠ [] → AreProper inner →
      AreProper ls → AreProper (.group header inner :: ls)

namespace AreProper

variable {ls ms : List Layout}

theorem append (h : AreProper ls) (h' : AreProper ms) : AreProper (ls ++ ms) := by
  induction h with
  | nil => exact h'
  | rule hd _ ih => exact .rule hd ih
  | group hh hne hi _ _ ih => exact .group hh hne hi ih

theorem ofDeclarations {header : Text} {declarations : List Text}
    (h : ∀ d ∈ declarations, d.getLast? = some ';') :
    AreProper (Layout.ofDeclarations header declarations) := by
  unfold Layout.ofDeclarations
  split
  · exact .nil
  · exact .rule h .nil

theorem ofInner {header : Text} (hh : header.head? = some '@') (h : AreProper ls) :
    AreProper (Layout.ofInner header ls) := by
  unfold Layout.ofInner
  split
  · exact .nil
  · rename_i hne
    exact .group hh hne h .nil

end AreProper

end Layout

theorem Block.getLast?_declaration (indent name value : Text) :
    (declaration indent name value).getLast? = some ';' :=
  List.getLast?_concat

namespace Style

open Layout

theorem getLast?_declarations {o : Options} {entries : List (Scalar × Style)} :
    ∀ d ∈ declarations o entries, d.getLast? = some ';' := by
  intro d hd
  obtain ⟨⟨k, style⟩, -, h⟩ := List.mem_filterMap.mp hd
  match style with
  | .property v =>
    obtain ⟨css, -, rfl⟩ := Option.map_eq_some_iff.mp h
    exact Block.getLast?_declaration _ _ _

theorem head?_of_header? {themeKeys : ThemeKeys} {key header : Text}
    (h : AtRule.header? themeKeys key = some header) : header.head? = some '@' := by
  unfold AtRule.header? at h
  by_cases hkey : AtRule.isHeader key = true
  · rw [if_pos hkey] at h
    obtain rfl := Option.some.inj h
    exact of_decide_eq_true hkey
  · rw [if_neg hkey, Option.ite_none_right_eq_some] at h
    obtain ⟨-, h⟩ := h
    obtain rfl := Option.some.inj h
    rfl

theorem head?_of_ofKey {themeKeys : ThemeKeys} {key parent header : Text}
    (h : Placement.ofKey themeKeys key parent = .alone header ∨
      ∃ selector, Placement.ofKey themeKeys key parent = .inside header selector) :
    header.head? = some '@' := by
  unfold Placement.ofKey at h
  cases hheader : AtRule.header? themeKeys key with
  | none =>
    rw [hheader] at h
    rcases h with h | ⟨_, h⟩
    · cases h
    · cases h
  | some header' =>
    rw [hheader] at h
    simp only [Placement.ofHeader] at h
    obtain rfl : header' = header := by
      split at h
      · rcases h with h | ⟨_, h⟩
        · exact Placement.alone.inj h
        · cases h
      · rcases h with h | ⟨_, h⟩
        · cases h
        · exact (Placement.inside.inj h).1
    exact head?_of_header? hheader

mutual

/-- **The blocks of a tree stand inside at-rules alone.** -/
theorem areProper_layoutsBelow (o : Options) (parent : Text) (style : Style) :
    AreProper (layoutsBelow o parent style) := by
  match style with
  | .property _ | .nested _ _ => exact .nil
  | .rules entries =>
    rw [layoutsBelow]
    exact (AreProper.ofDeclarations getLast?_declarations).append (areProper_layouts o parent entries)

theorem areProper_layouts (o : Options) (parent : Text) (entries : List (Scalar × Style)) :
    AreProper (layouts o parent entries) := by
  match entries with
  | [] => exact .nil
  | (k, style) :: entries =>
    rw [layouts]
    exact (areProper_layoutsOf o k.display parent style).append (areProper_layouts o parent entries)

theorem areProper_layoutsOf (o : Options) (key parent : Text) (style : Style) :
    AreProper (layoutsOf o key parent style) := by
  match style with
  | .property _ => exact .nil
  | .nested selectors styles =>
    rw [layoutsOf]
    split
    · exact .nil
    · exact areProper_layoutsBelow o _ styles
  | .rules entries =>
    rw [layoutsOf]
    have hlevel (selector : Text) : AreProper
        (ofDeclarations selector (declarations o entries) ++ layouts o selector entries) :=
      (AreProper.ofDeclarations getLast?_declarations).append (areProper_layouts o selector entries)
    cases hplace : Placement.ofKey o.themeKeys key parent with
    | under selector => exact hlevel selector
    | inside header selector =>
      exact (hlevel selector).ofInner (head?_of_ofKey (.inr ⟨selector, hplace⟩))
    | alone header =>
      exact (AreProper.ofDeclarations getLast?_declarations).append
        ((areProper_layouts o [] entries).ofInner (head?_of_ofKey (.inl hplace)))

end

end Style

end ThemedCss
