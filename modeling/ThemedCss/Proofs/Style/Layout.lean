import ThemedCss.Style.Compile

/-!
# The blocks of a style tree

The rules of a style tree as data: which blocks there are, in which at-rules, with which headers and
declarations. Compiling a tree writes them.

* `Style.Level`: the levels of trees whose markers hold texts and mappings;
* `Layout`, `Layout.write`: a block, and its text;
* `Style.layouts`, `Style.layoutsBelow`: the blocks that the entries of a level give rise to;
* `Renders`: texts that write some blocks, one or more each;
* **`Style.compile_eq`**: compiling never fails on such trees, and writes their blocks.
-/

namespace ThemedCss

/-! ## Trees and blocks -/

/-- The entries of a level in which every property, and every key of a rule or selector of a marker,
is as wanted. Markers hold texts, and the styles of a level. -/
inductive Style.Level (property : Scalar → Value → Prop) (selector : Text → Prop) :
    List (Scalar × Style) → Prop
  | nil : Level property selector []
  | property {k v entries} : property k v → Level property selector entries →
      Level property selector ((k, .property v) :: entries)
  | rules {k inner entries} : selector k.display → Level property selector inner →
      Level property selector entries → Level property selector ((k, .rules inner) :: entries)
  | marker {k inner entries} {selectors : List Text} : (∀ t ∈ selectors, selector t) →
      Level property selector inner → Level property selector entries →
      Level property selector
        ((k, .nested (selectors.map fun t => .scalar (.text t)) (.rules inner)) :: entries)

/-- A block of a style sheet: the declarations of a header, or blocks inside an at-rule. -/
inductive Layout
  | rule (header : Text) (declarations : List Text)
  | group (header : Text) (inner : List Layout)

namespace Layout

/-- The header of a block. -/
def header : Layout → Text
  | rule header _ => header
  | group header _ => header

/-- The block of some declarations, if there are any. -/
def ofDeclarations (header : Text) (declarations : List Text) : List Layout :=
  if declarations = [] then [] else [rule header declarations]

/-- The block of an at-rule around blocks, if there are any. -/
def ofInner (header : Text) (inner : List Layout) : List Layout :=
  if inner = [] then [] else [group header inner]

mutual

/-- The text of a block. -/
def write (o : Style.Options) : Layout → Text
  | rule header declarations => Block.write header declarations
  | group header inner =>
    Block.write header (Style.indentLines o.indent (Style.joinBlocks (writeAll o inner)))

/-- The texts of blocks. -/
def writeAll (o : Style.Options) : List Layout → List Text
  | [] => []
  | l :: ls => l.write o :: writeAll o ls

end

end Layout

/-- The selectors of a marker joined with the parts of a parent. -/
def Selector.combined (selectors : List Text) (parent : Text) : List Text :=
  (if parent = [] then [[]] else split parent).flatMap fun part => selectors.map (join · part)

theorem Selector.combined_eq_nil_iff {selectors : List Text} {parent : Text} :
    combined selectors parent = [] ↔
      selectors = [] ∨ parent ≠ [] ∧ split parent = [] := by
  rw [combined, List.flatMap_eq_nil_iff]
  simp only [List.map_eq_nil_iff]
  by_cases hp : parent = []
  · rw [if_pos hp, List.forall_mem_singleton]
    exact (or_iff_left fun h => h.1 hp).symm
  · rw [if_neg hp]
    refine ⟨fun h => ?_, ?_⟩
    · by_cases hs : selectors = []
      · exact .inl hs
      · exact .inr ⟨hp, List.eq_nil_iff_forall_not_mem.mpr fun part hpart => hs (h part hpart)⟩
    · rintro (hs | ⟨_, hsplit⟩) part hpart
      · exact hs
      · rw [hsplit] at hpart
        cases hpart

namespace Style

/-- The selectors of a marker that are texts. -/
def markerTexts (selectors : List Value) : List Text :=
  selectors.filterMap fun
    | .scalar (.text t) => some t
    | _ => none

mutual

/-- The blocks of a tree below a parent selector. -/
def layoutsBelow (o : Options) (parent : Text) : Style → List Layout
  | rules entries =>
    Layout.ofDeclarations parent (declarations o entries) ++ layouts o parent entries
  | _ => []

/-- The blocks that the entries of a level give rise to, in order. -/
def layouts (o : Options) (parent : Text) : List (Scalar × Style) → List Layout
  | [] => []
  | (k, style) :: entries => layoutsOf o k.display parent style ++ layouts o parent entries

/-- The blocks for what stands under one key. -/
def layoutsOf (o : Options) (key parent : Text) : Style → List Layout
  | property _ => []
  | nested selectors styles =>
    if Selector.combined (markerTexts selectors) parent = [] then []
    else layoutsBelow o
      (List.intercalate ", " (Selector.combined (markerTexts selectors) parent)) styles
  | rules entries =>
    match Placement.ofKey o.themeKeys key parent with
    | .under selector =>
      Layout.ofDeclarations selector (declarations o entries) ++ layouts o selector entries
    | .inside header selector =>
      Layout.ofInner header
        (Layout.ofDeclarations selector (declarations o entries) ++ layouts o selector entries)
    | .alone header =>
      Layout.ofDeclarations header (declarations o entries) ++
        Layout.ofInner header (layouts o [] entries)

end

end Style

/-! ## Writing blocks -/

namespace Layout

theorem writeAll_eq_map (o : Style.Options) (ls : List Layout) :
    writeAll o ls = ls.map (write o) := by
  induction ls with
  | nil => rfl
  | cons l ls ih => rw [writeAll, ih, List.map_cons]

theorem write_group (o : Style.Options) (header : Text) (inner : List Layout) :
    (group header inner).write o =
      Block.write header
        (Style.indentLines o.indent (Style.joinBlocks (inner.map (write o)))) := by
  rw [write, writeAll_eq_map]

end Layout

theorem Text.unlines_cons_ne_nil {l : Text} (hl : l ≠ []) (ls : List Text) :
    Text.unlines (l :: ls) ≠ [] := by
  cases ls with
  | nil =>
    rw [unlines, List.intercalate_singleton]
    exact hl
  | cons m ls =>
    rw [unlines, List.intercalate_cons_cons, List.append_assoc]
    exact List.append_ne_nil_of_left_ne_nil hl _

theorem Block.write_ne_nil (header : Text) (body : List Text) : Block.write header body ≠ [] := by
  refine Text.unlines_cons_ne_nil ?_ _
  rw [Block.opening]
  split
  · exact List.cons_ne_nil _ _
  · exact List.append_ne_nil_of_right_ne_nil _ (List.cons_ne_nil _ _)

theorem Layout.write_ne_nil (o : Style.Options) (l : Layout) : l.write o ≠ [] := by
  cases l with
  | rule header declarations => exact Block.write_ne_nil _ _
  | group header inner =>
    rw [write_group]
    exact Block.write_ne_nil _ _

namespace Style

theorem declarations_property (o : Options) (entries : List (Scalar × Style)) (k : Scalar)
    (v : Value) : declarations o ((k, .property v) :: entries) =
      (v.css?.map (Block.declaration o.indent (Text.kebab k.display))).toList ++
        declarations o entries := by
  rw [declarations, List.filterMap_cons]
  dsimp only
  cases v.css? <;> rfl

theorem joinBlocks_singleton (x : Text) : joinBlocks [x] = x := List.intercalate_singleton

theorem joinBlocks_cons {ys : List Text} (hy : ys ≠ []) (x : Text) :
    joinBlocks (x :: ys) = x ++ "\n\n" ++ joinBlocks ys :=
  List.intercalate_cons_of_ne_nil hy

theorem joinBlocks_append {xs ys : List Text} (hx : xs ≠ []) (hy : ys ≠ []) :
    joinBlocks (xs ++ ys) = joinBlocks xs ++ "\n\n" ++ joinBlocks ys := by
  induction xs with
  | nil => exact absurd rfl hx
  | cons x xs ih =>
    cases xs with
    | nil => rw [List.singleton_append, joinBlocks_cons hy, joinBlocks_singleton]
    | cons x' xs =>
      have hne : x' :: xs ≠ [] := List.cons_ne_nil _ _
      rw [List.cons_append, joinBlocks_cons (List.append_ne_nil_of_left_ne_nil hne ys), ih hne,
        joinBlocks_cons hne]
      simp only [List.append_assoc]

theorem joinBlocks_map_joinBlocks {parts : List (List Text)} (h : ∀ p ∈ parts, p ≠ []) :
    joinBlocks (parts.map joinBlocks) = joinBlocks parts.flatten := by
  induction parts with
  | nil => rfl
  | cons p parts ih =>
    have hp := h p List.mem_cons_self
    have ih' := ih fun q hq => h q (List.mem_cons_of_mem p hq)
    cases parts with
    | nil => simp [joinBlocks_singleton]
    | cons q parts =>
      have hq : (q :: parts).flatten ≠ [] :=
        List.append_ne_nil_of_left_ne_nil (h q (List.mem_cons_of_mem p List.mem_cons_self)) _
      have hne : (q :: parts).map joinBlocks ≠ [] := List.cons_ne_nil _ _
      rw [List.map_cons, joinBlocks_cons hne, ih']
      exact (joinBlocks_append hp hq).symm

theorem joinBlocks_ne_nil {o : Options} {ls : List Layout} (h : ls ≠ []) :
    joinBlocks (ls.map (Layout.write o)) ≠ [] := by
  obtain ⟨l, ls, rfl⟩ := List.exists_cons_of_ne_nil h
  cases ls with
  | nil =>
    rw [List.map_singleton, joinBlocks_singleton]
    exact l.write_ne_nil o
  | cons m ls =>
    have hne : (m :: ls).map (Layout.write o) ≠ [] := List.cons_ne_nil _ _
    rw [List.map_cons, joinBlocks_cons hne, List.append_assoc]
    exact List.append_ne_nil_of_left_ne_nil (l.write_ne_nil o) _

end Style

/-- Whether texts write some blocks, one or more each. -/
def Renders (o : Style.Options) (texts : List Text) (ls : List Layout) : Prop :=
  ∃ parts : List (List Layout), (∀ p ∈ parts, p ≠ []) ∧ parts.flatten = ls ∧
    texts = parts.map fun p => Style.joinBlocks (p.map (Layout.write o))

namespace Renders

variable {o : Style.Options} {texts : List Text} {ls : List Layout}

theorem nil : Renders o [] [] := ⟨[], nofun, rfl, rfl⟩

theorem cons (h : Renders o texts ls) (part : List Layout) :
    Renders o
      (if Style.joinBlocks (part.map (Layout.write o)) = [] then texts
        else Style.joinBlocks (part.map (Layout.write o)) :: texts)
      (part ++ ls) := by
  obtain ⟨parts, hne, hls, htexts⟩ := h
  by_cases hp : part = []
  · rw [hp]
    exact ⟨parts, hne, hls, htexts⟩
  · rw [if_neg (Style.joinBlocks_ne_nil hp)]
    refine ⟨part :: parts, ?_, ?_, ?_⟩
    · rintro p (_ | ⟨_, hmem⟩)
      · exact hp
      · exact hne p hmem
    · rw [List.flatten_cons, hls]
    · rw [htexts, List.map_cons]

theorem joinBlocks_eq (h : Renders o texts ls) :
    Style.joinBlocks texts = Style.joinBlocks (ls.map (Layout.write o)) := by
  obtain ⟨parts, hne, rfl, rfl⟩ := h
  have hparts : ∀ p ∈ parts.map (List.map (Layout.write o)), p ≠ [] := by
    intro p hp
    obtain ⟨q, hq, rfl⟩ := List.mem_map.mp hp
    exact fun hnil => hne q hq (List.map_eq_nil_iff.mp hnil)
  have hflat := Style.joinBlocks_map_joinBlocks hparts
  rwa [List.map_map, ← List.map_flatten] at hflat

/-- A level writes the block of its declarations in front of its other blocks. -/
theorem level_eq (h : Renders o texts ls) (header : Text) (declarations : List Text) :
    Style.level header declarations texts =
      Style.joinBlocks
        ((Layout.ofDeclarations header declarations ++ ls).map (Layout.write o)) := by
  rw [Style.level, Layout.ofDeclarations]
  split
  · exact h.joinBlocks_eq
  · have hcons := h.cons [.rule header declarations]
    rw [if_neg (Style.joinBlocks_ne_nil (List.cons_ne_nil _ _))] at hcons
    refine Eq.trans ?_ hcons.joinBlocks_eq
    rw [List.map_singleton, Style.joinBlocks_singleton]
    rfl

theorem wrap_eq (o : Style.Options) (header : Text) (ls : List Layout) :
    Style.wrap o header (Style.joinBlocks (ls.map (Layout.write o))) =
      Style.joinBlocks ((Layout.ofInner header ls).map (Layout.write o)) := by
  rw [Style.wrap, Layout.ofInner]
  by_cases hls : ls = []
  · rw [hls]
    rfl
  · rw [if_neg (Style.joinBlocks_ne_nil hls), if_neg hls, List.map_singleton,
      Style.joinBlocks_singleton, Layout.write_group]

/-- An at-rule that no selector scopes writes its declarations and then its blocks. -/
theorem standing_eq (h : Renders o texts ls) (header : Text) (declarations : List Text) :
    Style.standing o header declarations texts =
      Style.joinBlocks ((Layout.ofDeclarations header declarations ++
        Layout.ofInner header ls).map (Layout.write o)) := by
  have hinner := Renders.nil (o := o).cons (Layout.ofInner header ls)
  have hboth := hinner.cons (Layout.ofDeclarations header declarations)
  have hlevel := Renders.nil (o := o).level_eq header declarations
  rw [List.append_nil] at hlevel hboth
  rw [Style.standing, hlevel, h.joinBlocks_eq, wrap_eq]
  refine Eq.trans ?_ hboth.joinBlocks_eq
  congr 1
  rw [List.filter_cons, List.filter_cons, List.filter_nil]
  simp only [ne_eq, decide_not, Bool.not_eq_true', decide_eq_false_iff_not, ite_not]

end Renders

/-! ## Compiling -/

theorem Style.markerTexts_map (selectors : List Text) :
    markerTexts (selectors.map fun t => .scalar (.text t)) = selectors := by
  rw [markerTexts, List.filterMap_map]
  exact List.filterMap_some

theorem mapM_texts {f : Value → Except Fault Text} (hf : ∀ t, f (.scalar (.text t)) = .ok t)
    (ts : List Text) : (ts.map fun t => .scalar (.text t)).mapM f = .ok ts := by
  induction ts with
  | nil => rfl
  | cons t ts ih =>
    rw [List.map_cons, List.mapM_cons, hf, ih]
    rfl

theorem Style.combine_map (selectors : List Text) (parent : Text) :
    combine (selectors.map fun t => .scalar (.text t)) parent =
      .ok (Selector.combined selectors parent) := by
  rw [combine, Selector.combined]
  cases (if parent = [] then [[]] else Selector.split parent) with
  | nil => rfl
  | cons part parts =>
    rw [combineParts, mapM_texts fun _ => rfl]
    · rfl
    · exact nofun

namespace Style

/-- Whether compiling the entries of a level writes its blocks, below every parent. -/
def Compiles (o : Options) (entries : List (Scalar × Style)) : Prop :=
  ∀ parent, ∃ texts, blocks o parent entries = .ok texts ∧
    Renders o texts (layouts o parent entries)

variable {o : Options} {entries inner : List (Scalar × Style)}

theorem Compiles.compile_eq (h : Compiles o entries) (parent : Text) :
    compile o parent (.rules entries) =
      .ok (joinBlocks ((layoutsBelow o parent (.rules entries)).map (Layout.write o))) := by
  obtain ⟨texts, htexts, hrenders⟩ := h parent
  rw [compile, htexts, layoutsBelow, ← hrenders.level_eq]
  rfl

theorem Compiles.block_rules (h : Compiles o inner) (key parent : Text) :
    block o key parent (.rules inner) =
      .ok (joinBlocks ((layoutsOf o key parent (.rules inner)).map (Layout.write o))) := by
  rw [block, layoutsOf]
  cases Placement.ofKey o.themeKeys key parent with
  | under selector =>
    obtain ⟨texts, htexts, hrenders⟩ := h selector
    dsimp only
    rw [htexts, ← hrenders.level_eq]
    rfl
  | inside header selector =>
    obtain ⟨texts, htexts, hrenders⟩ := h selector
    dsimp only
    rw [htexts, ← Renders.wrap_eq, ← hrenders.level_eq]
    rfl
  | alone header =>
    obtain ⟨texts, htexts, hrenders⟩ := h []
    dsimp only
    rw [htexts, ← hrenders.standing_eq]
    rfl

theorem Compiles.block_marker (h : Compiles o inner) (key parent : Text) (selectors : List Text) :
    block o key parent (.nested (selectors.map fun t => .scalar (.text t)) (.rules inner)) =
      .ok (joinBlocks ((layoutsOf o key parent
        (.nested (selectors.map fun t => .scalar (.text t)) (.rules inner))).map
          (Layout.write o))) := by
  rw [block, layoutsOf, combine_map, markerTexts_map]
  by_cases hc : Selector.combined selectors parent = []
  · rw [if_pos hc]
    exact if_pos (.inl hc)
  · rw [if_neg hc]
    by_cases hi : inner = []
    · rw [hi]
      exact if_pos (.inr rfl)
    · refine (if_neg ?_).trans (h.compile_eq _)
      rintro (hnil | hempty)
      · exact hc hnil
      · rw [isTrue, Bool.not_not, List.isEmpty_iff] at hempty
        exact hi hempty

/-- One more entry writes its blocks in front. -/
theorem Compiles.cons (h : Compiles o entries) (k : Scalar) (style : Style)
    (hblock : ∀ parent, block o k.display parent style =
      .ok (joinBlocks ((layoutsOf o k.display parent style).map (Layout.write o)))) :
    Compiles o ((k, style) :: entries) := by
  intro parent
  obtain ⟨texts, htexts, hrenders⟩ := h parent
  refine ⟨_, ?_, hrenders.cons (layoutsOf o k.display parent style)⟩
  rw [blocks, hblock, htexts]
  rfl

theorem Level.compiles {p : Scalar → Value → Prop} {q : Text → Prop} (h : Level p q entries)
    (o : Options) : Compiles o entries := by
  induction h with
  | nil => exact fun parent => ⟨[], rfl, .nil⟩
  | @property k v entries _ _ ih => exact ih.cons k (.property v) fun parent => rfl
  | @rules k inner entries _ _ _ ihi ih => exact ih.cons k _ (ihi.block_rules k.display)
  | @marker k inner entries selectors _ _ _ ihi ih =>
    exact ih.cons k _ fun parent => ihi.block_marker k.display parent selectors

/-- **Compiling a tree writes its blocks**, with blank lines between them. -/
theorem compile_eq {p : Scalar → Value → Prop} {q : Text → Prop} (h : Level p q entries)
    (o : Options) (parent : Text) :
    compile o parent (.rules entries) =
      .ok (joinBlocks ((layoutsBelow o parent (.rules entries)).map (Layout.write o))) :=
  (h.compiles o).compile_eq parent

end Style

end ThemedCss
