import ThemedCss.Proofs.Selector.Plain
import ThemedCss.Proofs.Style.Written

/-!
# Flattening loses nothing

Every property of a style tree is written once, in the order of the tree, in the block that the
steps to it determine.

* `Style.Step`, `Style.Property`, `Style.properties`: the properties of a tree, each with the steps
  to its level;
* `Place`, `Place.walk?`: the blocks around the declarations of a level;
* `Property.item?`: the declaration of a property, if it is written;
* `Level.items_layouts`: the declarations in the blocks of a level;
* **`exists_compile_reads`**: compiled trees are read as their properties.
-/

namespace ThemedCss

open Css Layout

namespace Style

/-! ## Properties and places -/

/-- A step from a level of a tree to one below it. -/
inductive Step
  | key (key : Text)
  | marker (selectors : List Text)

/-- A property of a tree. -/
structure Property where
  /-- The steps to its level. -/
  path : List Step
  /-- The key. -/
  name : Text
  value : Value

namespace Property

/-- A property below one more step. -/
def below (s : Step) (p : Property) : Property := { p with path := s :: p.path }

end Property

/-- The properties of a level itself. -/
def ownProperties (entries : List (Scalar × Style)) : List Property :=
  entries.filterMap fun
    | (k, property v) => some ⟨[], k.display, v⟩
    | _ => none

mutual

/-- The properties of a tree, depth first: those of a level, and then those of the levels below. -/
def properties : Style → List Property
  | rules entries => ownProperties entries ++ innerProperties entries
  | _ => []

/-- The properties of the levels below one. -/
def innerProperties : List (Scalar × Style) → List Property
  | [] => []
  | (k, style) :: entries => propertiesUnder k.display style ++ innerProperties entries

/-- The properties of the level under a key. -/
def propertiesUnder (key : Text) : Style → List Property
  | property _ => []
  | nested selectors styles => (properties styles).map (.below (.marker (markerTexts selectors)))
  | rules entries => (ownProperties entries ++ innerProperties entries).map (.below (.key key))

end

/-- Where the blocks of a level stand. -/
structure Place where
  /-- The headers of the blocks around its declarations. -/
  headers : List Text
  /-- The headers of the at-rules around the blocks of the levels below. -/
  within : List Text
  /-- The parent selector of the levels below. -/
  parent : Text

namespace Place

/-- The place of a tree below a parent selector. -/
def start (parent : Text) : Place := ⟨[parent], [], parent⟩

/-- The place of the level behind a step. A marker without combined selectors leads nowhere. -/
def step? (themeKeys : ThemeKeys) (place : Place) : Step → Option Place
  | .key key =>
    match AtRule.header? themeKeys key with
    | none =>
      let selector := Selector.nest key place.parent
      some ⟨place.within ++ [selector], place.within, selector⟩
    | some header =>
      if place.parent = [] ∨ AtRule.isStatement header then
        some ⟨place.within ++ [header], place.within ++ [header], []⟩
      else some ⟨place.within ++ [header, place.parent], place.within ++ [header], place.parent⟩
  | .marker selectors =>
    let combined := Selector.combined selectors place.parent
    let selector := List.intercalate ", " combined
    if combined = [] then none
    else some ⟨place.within ++ [selector], place.within, selector⟩

/-- The place behind some steps. -/
def walk? (themeKeys : ThemeKeys) (place : Place) (path : List Step) : Option Place :=
  path.foldlM (step? themeKeys) place

end Place

/-- The declaration of a property below the headers that the steps to it determine; null and what
stands behind a marker without combined selectors have none. -/
def Property.item? (o : Options) (place : Place) (p : Property) : Option Item :=
  (place.walk? o.themeKeys p.path).bind fun place =>
    p.value.css?.map fun text =>
      ⟨place.headers.map Text.strip, Text.strip (Text.kebab p.name ++ ": " ++ text)⟩

/-! ## Declarations in blocks -/

theorem Property.item?_below (o : Options) (place : Place) (s : Step) (p : Property) :
    (p.below s).item? o place = (place.step? o.themeKeys s).bind fun next => p.item? o next := by
  rw [item?, below, Place.walk?, List.foldlM_cons]
  cases place.step? o.themeKeys s <;> rfl

theorem filterMap_item?_below (o : Options) (place : Place) (s : Step) (ps : List Property) :
    (ps.map (.below s)).filterMap (Property.item? o place) =
      match place.step? o.themeKeys s with
      | none => []
      | some next => ps.filterMap (Property.item? o next) := by
  rw [List.filterMap_map]
  cases hs : place.step? o.themeKeys s with
  | none =>
    refine List.filterMap_eq_nil_iff.mpr fun p _ => ?_
    rw [Function.comp_apply, Property.item?_below, hs]
    rfl
  | some next =>
    refine congrArg (ps.filterMap ·) (funext fun p => ?_)
    rw [Function.comp_apply, Property.item?_below, hs]
    rfl

variable {headers : List Text}

theorem itemsAll_append (ms ns : List Node) :
    Node.itemsAll headers (ms ++ ns) = Node.itemsAll headers ms ++ Node.itemsAll headers ns := by
  induction ms with
  | nil => rfl
  | cons m ms ih => rw [List.cons_append, Node.itemsAll, ih, Node.itemsAll, List.append_assoc]

theorem itemsAll_declarations (f : Text → Text) (ds : List Text) :
    Node.itemsAll headers (ds.map fun d => .declaration (f d)) =
      ds.map fun d => ⟨headers, f d⟩ := by
  induction ds with
  | nil => rfl
  | cons d ds ih =>
    rw [List.map_cons, Node.itemsAll, ih]
    rfl

variable {o : Options} {entries : List (Scalar × Style)}

theorem strip_declaration (ho : ∀ c ∈ o.indent, c = ' ' ∨ c = '\t') (name value : Text) :
    Text.strip (Block.declaration o.indent name value).dropLast =
      Text.strip (name ++ ": " ++ value) := by
  have hsemicolon : (";" : Text) = [';'] := rfl
  rw [Block.declaration, hsemicolon, List.dropLast_concat, List.append_assoc, List.append_assoc,
    Text.strip_append_of_blank (Text.isBlank_of_mem_indent ho), List.append_assoc]

theorem itemsAll_ofDeclarations (ho : ∀ c ∈ o.indent, c = ' ' ∨ c = '\t') {header : Text}
    (place : Place) (hplace : place.headers = headers ++ [header]) :
    Node.itemsAll (headers.map Text.strip)
        (nodes (ofDeclarations header (declarations o entries))) =
      (ownProperties entries).filterMap (Property.item? o place) := by
  have hitems : Node.itemsAll (headers.map Text.strip)
      (nodes (ofDeclarations header (declarations o entries))) =
      (declarations o entries).map fun d =>
        ⟨place.headers.map Text.strip, Text.strip d.dropLast⟩ := by
    rw [ofDeclarations, hplace, List.map_append]
    split
    · rename_i hnil
      rw [hnil]
      rfl
    · rw [nodes, nodes, node, Node.itemsAll, Node.itemsAll, Node.items, List.append_nil]
      exact itemsAll_declarations (fun d => Text.strip d.dropLast) _
  rw [hitems, declarations, List.map_filterMap, ownProperties, List.filterMap_filterMap]
  refine congrArg (entries.filterMap ·) (funext ?_)
  rintro ⟨k, style⟩
  cases style with
  | property v =>
    rw [Option.map_map, Option.bind_some]
    refine congrArg (v.css?.map ·) (funext fun text => ?_)
    exact congrArg (Item.mk _) (strip_declaration ho _ _)
  | rules inner => rfl
  | nested selectors styles => rfl

theorem itemsAll_ofInner (header : Text) (ls : List Layout) :
    Node.itemsAll headers (nodes (ofInner header ls)) =
      Node.itemsAll (headers ++ [Text.strip header]) (nodes ls) := by
  rw [ofInner]
  split
  · rename_i hls
    rw [hls]
    rfl
  · rw [nodes, nodes, node, Node.itemsAll, Node.itemsAll, Node.items, List.append_nil]

/-- The declarations in the blocks of a level and of those below are those of their properties, when
this holds of the levels below. -/
theorem itemsAll_level (ho : ∀ c ∈ o.indent, c = ' ' ∨ c = '\t') (headers : List Text)
    (selector parent : Text)
    (hinner : ∀ place : Place, Node.itemsAll (place.within.map Text.strip)
        (nodes (layouts o place.parent entries)) =
      (innerProperties entries).filterMap (Property.item? o place)) :
    Node.itemsAll (headers.map Text.strip) (nodes
        (ofDeclarations selector (declarations o entries) ++ layouts o parent entries)) =
      (ownProperties entries ++ innerProperties entries).filterMap
        (Property.item? o ⟨headers ++ [selector], headers, parent⟩) := by
  have hplace := hinner ⟨headers ++ [selector], headers, parent⟩
  rw [nodes_append, itemsAll_append, List.filterMap_append, ← hplace,
    itemsAll_ofDeclarations ho ⟨headers ++ [selector], headers, parent⟩ rfl]

theorem Level.items_layouts {p : Scalar → Value → Prop} {q : Text → Prop} (h : Level p q entries)
    (ho : ∀ c ∈ o.indent, c = ' ' ∨ c = '\t') (place : Place) :
    Node.itemsAll (place.within.map Text.strip) (nodes (layouts o place.parent entries)) =
      (innerProperties entries).filterMap (Property.item? o place) := by
  induction h generalizing place with
  | nil => rfl
  | @property k v entries _ _ ih => exact ih place
  | @rules k inner entries _ _ _ ihi ih =>
    rw [layouts, nodes_append, itemsAll_append, ih place, innerProperties, propertiesUnder,
      List.filterMap_append, filterMap_item?_below]
    refine congrArg (· ++ _) ?_
    rw [layoutsOf, Placement.ofKey, Place.step?]
    cases AtRule.header? o.themeKeys k.display with
    | none => exact itemsAll_level ho _ _ _ ihi
    | some header =>
      dsimp only
      rw [Placement.ofHeader]
      by_cases hh : place.parent = [] ∨ AtRule.isStatement header
      · have hplace := ihi ⟨place.within ++ [header], place.within ++ [header], []⟩
        rw [if_pos hh, if_pos hh]
        dsimp only
        rw [nodes_append, itemsAll_append, itemsAll_ofInner, List.filterMap_append, ← hplace,
          itemsAll_ofDeclarations ho ⟨place.within ++ [header], place.within ++ [header], []⟩ rfl,
          List.map_append]
        rfl
      · have hlevel := itemsAll_level ho (place.within ++ [header]) place.parent place.parent ihi
        rw [if_neg hh, if_neg hh]
        dsimp only
        rw [itemsAll_ofInner]
        rw [List.map_append, List.append_assoc] at hlevel
        exact hlevel
  | @marker k inner entries selectors _ _ _ ihi ih =>
    rw [layouts, nodes_append, itemsAll_append, ih place, innerProperties, propertiesUnder,
      List.filterMap_append, filterMap_item?_below]
    refine congrArg (· ++ _) ?_
    rw [layoutsOf, Place.step?, markerTexts_map]
    by_cases hc : Selector.combined selectors place.parent = []
    · rw [if_pos hc, if_pos hc]
      rfl
    · rw [if_neg hc, if_neg hc]
      exact itemsAll_level ho _ _ _ ihi

end Style

/-! ## Clean blocks -/

namespace Style

variable {o : Options} {entries : List (Scalar × Style)} {parent : Text}

/-- Whether a property has a name and a value without brace, semicolon and line feed. -/
def PlainProperty (k : Scalar) (v : Value) : Prop :=
  Plain k.display ∧ ∀ text ∈ v.css?, Plain text

theorem Level.plain_of_mem_declarations (h : Level PlainProperty Plain entries)
    (ho : ∀ c ∈ o.indent, c = ' ' ∨ c = '\t') {d : Text} (hd : d ∈ declarations o entries) :
    ∃ t, Plain t ∧ d = t ++ [';'] := by
  have hindent : Plain o.indent := fun c hc => by
    rcases ho c hc with rfl | rfl <;> decide
  have hcolon : Plain ": " := by decide
  induction h with
  | nil => cases hd
  | @property k v entries hkv _ ih =>
    rw [declarations_property] at hd
    rcases List.mem_append.mp hd with hd | hd
    · obtain ⟨text, htext, rfl⟩ := Option.map_eq_some_iff.mp (Option.mem_toList.mp hd)
      exact ⟨_, ((hindent.append hkv.1.kebab).append hcolon).append (hkv.2 text htext), rfl⟩
    · exact ih hd
  | rules _ _ _ _ ih => exact ih hd
  | marker _ _ _ _ ih => exact ih hd

theorem Level.areClean_ofDeclarations (h : Level PlainProperty Plain entries)
    (ho : ∀ c ∈ o.indent, c = ' ' ∨ c = '\t') {header : Text} (hh : Plain header) :
    AreClean (ofDeclarations header (declarations o entries)) := by
  rw [ofDeclarations]
  split
  · exact .nil
  · rename_i hne
    exact .rule hh hne (fun d => h.plain_of_mem_declarations ho) .nil

theorem areClean_ofInner {header : Text} {ls : List Layout} (hh : Plain header) (h : AreClean ls) :
    AreClean (ofInner header ls) := by
  rw [ofInner]
  split
  · exact .nil
  · rename_i hne
    exact .group hh hne h .nil

theorem Level.areClean_layouts (h : Level PlainProperty Plain entries)
    (ho : ∀ c ∈ o.indent, c = ' ' ∨ c = '\t') (hp : Plain parent) :
    AreClean (layouts o parent entries) := by
  induction h generalizing parent with
  | nil => exact .nil
  | property _ _ ih => exact ih hp
  | @rules k inner entries hk hi _ ihi ih =>
    refine AreClean.append ?_ (ih hp)
    rw [layoutsOf, Placement.ofKey]
    cases hheader : AtRule.header? o.themeKeys k.display with
    | none => exact (hi.areClean_ofDeclarations ho (hk.nest hp)).append (ihi (hk.nest hp))
    | some header =>
      have hh := hk.header hheader
      dsimp only
      rw [Placement.ofHeader]
      by_cases hs : parent = [] ∨ AtRule.isStatement header
      · rw [if_pos hs]
        exact (hi.areClean_ofDeclarations ho hh).append (areClean_ofInner hh (ihi .nil))
      · rw [if_neg hs]
        exact areClean_ofInner hh ((hi.areClean_ofDeclarations ho hp).append (ihi hp))
  | @marker k inner entries selectors hts hi _ ihi ih =>
    refine AreClean.append ?_ (ih hp)
    rw [layoutsOf, markerTexts_map]
    split
    · exact .nil
    · have hjoined := Plain.intercalate (Plain.combined hts hp)
      exact (hi.areClean_ofDeclarations ho hjoined).append (ihi hjoined)

/-! ## Reading compiled trees -/

theorem Place.step?_eq_none_iff {themeKeys : ThemeKeys} {place : Place} {s : Step} :
    place.step? themeKeys s = none ↔ ∃ selectors, s = .marker selectors ∧
      (selectors = [] ∨ place.parent ≠ [] ∧ Selector.split place.parent = []) := by
  cases s with
  | key key =>
    refine iff_of_false ?_ fun ⟨_, hs, _⟩ => nomatch hs
    rw [step?]
    cases AtRule.header? themeKeys key with
    | none => exact nofun
    | some header =>
      dsimp only
      split <;> exact nofun
  | marker selectors =>
    have hiff : place.step? themeKeys (.marker selectors) = none ↔
        Selector.combined selectors place.parent = [] := by
      rw [step?]
      split
      · exact iff_of_true rfl ‹_›
      · exact iff_of_false nofun ‹_›
    rw [hiff, Selector.combined_eq_nil_iff]
    exact ⟨fun h => ⟨selectors, rfl, h⟩, fun ⟨_, hs, h⟩ => by cases hs; exact h⟩

/-- **A compiled tree is read as its properties**: each is declared once, in the order of the tree
and below the headers that the steps to it determine, in blocks that are flat and not empty. Only
null and what stands behind a marker without combined selectors are left out. -/
theorem exists_compile_reads (h : Level PlainProperty Plain entries) (hp : Plain parent)
    (ho : ∀ c ∈ o.indent, c = ' ' ∨ c = '\t') :
    (∃ css nodes, compile o parent (.rules entries) = .ok css ∧ nodes? css = some nodes ∧
      Balanced css ∧ (∀ n ∈ nodes, n.isDeclaration = false) ∧ Node.AreFlat nodes ∧
      Node.itemsAll [] nodes =
        (properties (.rules entries)).filterMap (Property.item? o (.start parent))) ∧
    ∀ (place : Place) (s : Step), place.step? o.themeKeys s = none ↔
      ∃ selectors, s = .marker selectors ∧
        (selectors = [] ∨ place.parent ≠ [] ∧ Selector.split place.parent = []) := by
  have hclean : AreClean (layoutsBelow o parent (.rules entries)) :=
    (h.areClean_ofDeclarations ho hp).append (h.areClean_layouts ho hp)
  have hread := nodes?_joinBlocks hclean ho
  refine ⟨⟨_, _, compile_eq h o parent, hread, balanced_of_nodes? hread, isDeclaration_of_mem_nodes,
    hclean.areFlat, itemsAll_level ho [] parent parent (h.items_layouts ho)⟩, fun place s => ?_⟩
  exact place.step?_eq_none_iff

/-- A font, and a list of links in a media query with a marker that combines selectors. -/
def linkEntries : List (Scalar × Style) :=
  [(.text "@font-face", .rules [(.text "fontFamily", .property (.scalar (.text "Inter")))]),
    (.text "@media print", .rules
      [(.text "nav", .rules
        [(.text "margin", .property (.scalar .null)),
          (.text "links", .nested ([("a" : Text), "&:hover"].map fun t => .scalar (.text t))
            (.rules [(.text "color", .property (.scalar (.text "red")))]))])])]

theorem exists_compile_reads_links :
    Level PlainProperty Plain linkEntries ∧ Plain [] ∧ (∀ c ∈ ("  " : Text), c = ' ' ∨ c = '\t') ∧
    ∃ css nodes, compile {} [] (.rules linkEntries) = .ok css ∧ nodes? css = some nodes ∧
      Balanced css ∧ Node.AreFlat nodes ∧
      (Node.itemsAll [] nodes).map Item.headers =
        [[("@font-face" : Text)], [("@media print" : Text), "nav a, nav:hover"]] := by
  have hproperty : ∀ key text : Text, Plain key → Plain text →
      PlainProperty (.text key) (.scalar (.text text)) := fun key text hk ht =>
    ⟨hk, fun t h => by cases h; exact ht⟩
  have hlinks : Level PlainProperty Plain linkEntries := by
    refine .rules (by decide) (.property (hproperty _ _ (by decide) (by decide)) .nil)
      (.rules (by decide) (.rules (by decide) (.property ⟨by decide, nofun⟩ ?_) .nil) .nil)
    exact .marker (by decide) (.property (hproperty _ _ (by decide) (by decide)) .nil) .nil
  have hspaces : ∀ c ∈ ("  " : Text), c = ' ' ∨ c = '\t' := by
    rintro c (_ | ⟨_, _ | ⟨_, ⟨⟩⟩⟩) <;> exact .inl rfl
  obtain ⟨css, nodes, hcss, hnodes, hbalanced, _, hflat, hitems⟩ :=
    (@exists_compile_reads {} linkEntries [] hlinks .nil hspaces).1
  refine ⟨hlinks, .nil, hspaces, css, nodes, hcss, hnodes, hbalanced, hflat, ?_⟩
  rw [hitems]
  decide +kernel

end Style

end ThemedCss
