import ThemedCss.Proofs.Sheet.Conservation
import ThemedCss.Sheet.Assemble

/-!
# Merging an assembled style sheet

A style sheet is assembled from the block of the variables of the light mode, that of the dark mode
in its media query, and the blocks of compiled trees. Merging makes the rules at the top level with
one body one rule and keeps everything else.

* `themeBlocks`, **`assemble_eq_writeBlocks`**: the blocks of an assembled style sheet;
* `Tree`, `sheetBlocks`: trees that are compiled to the chunks of a style sheet, and all the blocks;
* `collapse_writeBlocks`: without merging the style sheet stays as it is;
* **`merge_assemble`**: an assembled style sheet, merged.
-/

namespace ThemedCss

mutual

theorem Layout.write_congr {o o' : Style.Options} (h : o.indent = o'.indent) (l : Layout) :
    l.write o = l.write o' := by
  match l with
  | .rule _ _ => rfl
  | .group header inner => rw [Layout.write, Layout.write, Layout.writeAll_congr h inner, h]

theorem Layout.writeAll_congr {o o' : Style.Options} (h : o.indent = o'.indent)
    (ls : List Layout) : Layout.writeAll o ls = Layout.writeAll o' ls := by
  match ls with
  | [] => rfl
  | l :: ls =>
    rw [Layout.writeAll, Layout.writeAll, Layout.write_congr h l, Layout.writeAll_congr h ls]

end

theorem Renders.congr {o o' : Style.Options} {texts : List Text} {ls : List Layout}
    (h : Renders o texts ls) (ho : o.indent = o'.indent) : Renders o' texts ls := by
  obtain ⟨parts, hne, hls, htexts⟩ := h
  refine ⟨parts, hne, hls, ?_⟩
  rw [htexts, funext (Layout.write_congr ho)]

namespace Sheet

open Layout

variable {o : Options} {s : Store}

/-! ## The blocks of an assembled style sheet -/

/-- How the blocks of a style sheet are written. -/
def Options.style (o : Options) : Style.Options := { indent := o.indent }

/-- The blocks of the variables of a store. -/
def themeBlocks (o : Options) (s : Store) : List Layout :=
  .rule ":root" (declarations o.indent (lightBindings s)) ::
    if s.dark.isEmpty then []
    else [.group ("@media " ++ o.mediaQuery) [.rule ":root" (declarations o.indent s.dark)]]

theorem getLast?_declarations {indent : Text} {b : Bindings} :
    ∀ d ∈ declarations indent b, d.getLast? = some ';' := by
  intro d hd
  obtain ⟨_, -, rfl⟩ := List.mem_map.mp hd
  exact Block.getLast?_declaration _ _ _

theorem areProper_themeBlocks (o : Options) (s : Store) : AreProper (themeBlocks o s) := by
  refine .rule getLast?_declarations ?_
  split
  · exact .nil
  · exact .group rfl (List.cons_ne_nil _ _) (.rule getLast?_declarations .nil) .nil

theorem unlines_darkLines (h : ∀ d ∈ declarations o.indent s.dark, '\n' ∉ d) :
    Text.unlines (darkLines o s) =
      (Layout.group ("@media " ++ o.mediaQuery)
        [.rule ":root" (declarations o.indent s.dark)]).write o.style := by
  have hroot : '\n' ∉ (":root" : Text) := by decide
  have hlines : Style.indentLines o.indent (Block.write ":root" (declarations o.indent s.dark)) =
      (o.indent ++ Block.opening ":root") :: declarations (o.indent ++ o.indent) s.dark ++
        [o.indent ++ Block.closing] := by
    rw [Style.indentLines, Block.lines_write hroot h, Block.lines, List.map_append, List.map_cons,
      declarations, List.map_map]
    congr 2
    refine List.map_congr_left fun entry _ => ?_
    simp [Block.declaration]
  rw [write_group, List.map_singleton, Style.joinBlocks_singleton, darkLines, darkLinesWithin,
    ← hlines]
  rfl

theorem renders_themes (h : ∀ t ∈ textsIn (themeBlocks o s), IsInline t) {texts : List Text}
    {ls : List Layout} (hls : Renders o.style texts ls) :
    Renders o.style
      ([Text.unlines (rootLines o s)] ++
        (if s.dark.isEmpty then [] else [Text.unlines (darkLines o s)]) ++ texts)
      (themeBlocks o s ++ ls) := by
  have hone : ∀ (b : Layout) {texts ls}, Renders o.style texts ls →
      Renders o.style (b.write o.style :: texts) (b :: ls) := by
    intro b texts ls hls
    have hcons := hls.cons [b]
    rw [if_neg (Style.joinBlocks_ne_nil (List.cons_ne_nil b [])), List.map_singleton,
      Style.joinBlocks_singleton] at hcons
    exact hcons
  rw [List.append_assoc]
  refine hone _ ?_
  by_cases hdark : s.dark.isEmpty = true
  · rw [if_pos hdark, if_pos hdark]
    exact hls
  · rw [if_neg hdark, if_neg hdark]
    have hdeclarations : ∀ d ∈ declarations o.indent s.dark, '\n' ∉ d := by
      intro d hd
      refine (h d ?_).1
      rw [themeBlocks, if_neg hdark]
      exact mem_textsIn.mpr ⟨_, List.mem_cons_of_mem _ List.mem_cons_self,
        List.mem_cons_of_mem _ (List.mem_append_left _ (List.mem_cons_of_mem _ hd))⟩
    rw [unlines_darkLines hdeclarations]
    exact hone _ hls

/-- **An assembled style sheet is that of its blocks**: those of the variables, and those that its
chunks write. -/
theorem assemble_eq_writeBlocks {chunks : List Text} {ls : List Layout}
    (h : ∀ t ∈ textsIn (themeBlocks o s), IsInline t)
    (hls : Renders o.style (if o.includeStyles then chunks.filter (· ≠ []) else []) ls) :
    assemble o s chunks = writeBlocks o.style (themeBlocks o s ++ ls) := by
  rw [writeBlocks, ← (renders_themes h hls).joinBlocks_eq]
  rfl

theorem collapse_writeBlocks {o : Style.Options} (hindent : IsIndentation o.indent)
    {bs : List Layout} (h : AreTidy bs) : collapse (writeBlocks o bs) = writeBlocks o bs := by
  by_cases hne : bs = []
  · rw [hne]
    rfl
  have hspaced := h.proper.spaced (o := o) hindent.feed_not_mem h.inline hne
  have htight := hspaced.isTight_unlines fun l hl => Text.feed_not_mem_of_mem_lines hl
  rw [Text.unlines_lines] at htight
  exact htight 0 ['\n']

/-- The blocks of the variables share no body: only one of them is a rule at the top level. -/
theorem mergeBlocks_themeBlocks (o : Options) (s : Store) :
    mergeBlocks (themeBlocks o s) = themeBlocks o s := by
  refine mergeBlocks_eq_self fun body => ?_
  have hdark : (themeBlocks o s).tail.filter (fun b => b.body? = some body) = [] := by
    refine List.filter_eq_nil_iff.mpr fun b hb => ?_
    dsimp only [themeBlocks, List.tail_cons] at hb
    split at hb
    · cases hb
    · rw [List.mem_singleton.mp hb]
      exact Bool.false_ne_true
  dsimp only [themeBlocks, List.tail_cons] at hdark
  rw [sharers, themeBlocks, List.filter_cons, hdark]
  split
  · exact Nat.one_lt_two
  · exact Nat.zero_lt_two

/-! ## Compiled trees -/

/-- A style tree with the parent selector below which it is compiled, and how its theme keys are
read. -/
structure Tree where
  themeKeys : ThemeKeys := .literal
  parent : Text := []
  style : Style

namespace Tree

/-- The text of a tree. -/
def compile (indent : Text) (t : Tree) : Except Fault Text :=
  Style.compile ⟨indent, t.themeKeys⟩ t.parent t.style

/-- The blocks of a tree. -/
def blocks (indent : Text) (t : Tree) : List Layout :=
  Style.layoutsBelow ⟨indent, t.themeKeys⟩ t.parent t.style

end Tree

/-- The blocks of a style sheet that is assembled from a store and trees. -/
def sheetBlocks (o : Options) (s : Store) (trees : List Tree) : List Layout :=
  themeBlocks o s ++ if o.includeStyles then trees.flatMap (Tree.blocks o.indent) else []

theorem renders_chunks {trees : List Tree} {chunks : List Text}
    (h : trees.map (Tree.compile o.indent) = chunks.map .ok) :
    Renders o.style (chunks.filter (· ≠ [])) (trees.flatMap (Tree.blocks o.indent)) := by
  induction trees generalizing chunks with
  | nil =>
    rw [List.map_eq_nil_iff.mp h.symm]
    exact .nil
  | cons t trees ih =>
    cases chunks with
    | nil => cases h
    | cons css chunks =>
      obtain ⟨hcss, hchunks⟩ := List.cons.inj h
      have hrest : Renders ⟨o.indent, t.themeKeys⟩ _ _ := (ih hchunks).congr rfl
      have hcons := hrest.cons (t.blocks o.indent)
      rw [Tree.blocks, ← Style.compile_eq_ok _ _ _ hcss] at hcons
      rw [List.flatMap_cons, List.filter_cons]
      simp only [ne_eq, decide_not, Bool.not_eq_true', decide_eq_false_iff_not, ite_not]
      simp only [ne_eq, decide_not] at hcons
      exact hcons.congr rfl

theorem areProper_sheetBlocks (o : Options) (s : Store) (trees : List Tree) :
    AreProper (sheetBlocks o s trees) := by
  refine (areProper_themeBlocks o s).append ?_
  split
  · induction trees with
    | nil => exact .nil
    | cons t trees ih => exact (Style.areProper_layoutsBelow _ _ _).append ih
  · exact .nil

/-- **Merging keeps an assembled style sheet, block by block**: for each body that rules at the top
level share which have two or more selectors, none of them a list, the first of these rules carries
their selectors, and the others are gone; every other block is there as it was, in the same order.
The blocks have one blank line between them, and the text ends with the last one and a line feed. -/
theorem merge_assemble (hindent : IsIndentation o.indent) {trees : List Tree} {chunks : List Text}
    (hchunks : trees.map (Tree.compile o.indent) = chunks.map .ok)
    (hinline : ∀ t ∈ textsIn (sheetBlocks o s trees), IsInline t) :
    assemble o s chunks = writeBlocks o.style (sheetBlocks o s trees) ∧
      merge (assemble o s chunks) = writeBlocks o.style (mergeBlocks (sheetBlocks o s trees)) ∧
      ∃ t, merge (assemble o s chunks) = t ++ "\x7d\n" := by
  have htidy : AreTidy (sheetBlocks o s trees) := ⟨areProper_sheetBlocks o s trees, hinline⟩
  have hassemble : assemble o s chunks = writeBlocks o.style (sheetBlocks o s trees) := by
    refine assemble_eq_writeBlocks (fun t ht => hinline t ?_) ?_
    · rw [sheetBlocks, textsIn_append]
      exact List.mem_append_left _ ht
    · split
      · exact renders_chunks hchunks
      · exact .nil
  have hmerge := merge_writeBlocks (o := o.style) hindent htidy
  rw [← hassemble] at hmerge
  refine ⟨hassemble, hmerge, ?_⟩
  have hne : sheetBlocks o s trees ≠ [] := List.cons_ne_nil _ _
  obtain ⟨t, ht⟩ := List.getLast?_eq_some_iff.mp (getLast?_joinBlocks o.style (mergeBlocks_ne_nil hne))
  refine ⟨t, ?_⟩
  rw [hmerge, writeBlocks, ht, List.append_assoc]
  rfl

/-- Two rules with one body around a rule with another one, a rule with a list of selectors, and a media
query. -/
def pairTree : Tree :=
  let red : Style := .rules [(.text "color", .property (.scalar (.text "red")))]
  let blue : Style := .rules [(.text "color", .property (.scalar (.text "blue")))]
  { style := .rules [(.text "a", red), (.text "b", blue), (.text "c, d", red),
      (.text "@media print", .rules [(.text "a", red)]), (.text "e", red)] }

theorem merge_assemble_pair :
    let s : Store := { dark := OrderedMap.empty.insert "--gap" "1px" }
    let chunk : Text := Text.unlines ["a \x7b", "  color: red;", "\x7d", "",
      "b \x7b", "  color: blue;", "\x7d", "", "c, d \x7b", "  color: red;", "\x7d", "",
      "@media print \x7b", "  a \x7b", "    color: red;", "  \x7d", "\x7d", "",
      "e \x7b", "  color: red;", "\x7d"]
    [pairTree].map (Tree.compile "  ") = [chunk].map .ok ∧
      merge (assemble {} s [chunk]) = writeBlocks {} (mergeBlocks (sheetBlocks {} s [pairTree])) ∧
      (mergeBlocks (sheetBlocks {} s [pairTree])).map Layout.header =
        [":root", "@media (prefers-color-scheme: dark)", "a, e", "b", "c, d", "@media print"] := by
  intro s chunk
  have hchunks : [pairTree].map (Tree.compile "  ") = [chunk].map .ok := by decide +kernel
  refine ⟨hchunks, ?_, by decide +kernel⟩
  have hindent : IsIndentation "  " :=
    ⟨by decide, fun c hc => .inl (List.eq_of_mem_replicate (n := 2) hc)⟩
  exact (merge_assemble (o := {}) hindent hchunks (by decide +kernel)).2.1

end Sheet

end ThemedCss
