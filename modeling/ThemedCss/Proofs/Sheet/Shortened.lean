import ThemedCss.Proofs.Sheet.Blocks
import ThemedCss.Proofs.Variable.Closed

/-!
# Shortening the text of blocks

Chunks are shortened as texts. Where the lines of their blocks close the references that they open,
that is shortening the headers and the declarations of the blocks.

* `Layout.mapTexts`: blocks with other headers and declarations;
* `AreTidy.shortened`: shortened blocks are as tidy as they were;
* `AreProper.isEnded`, `AreProper.lines_mapTexts`: the lines of blocks, and of shortened ones;
* `IsTidyText`: the text of blocks whose lines close what they open;
* **`IsTidyText.shortened`**: shortened, it is such a text again.
-/

namespace ThemedCss

open Variable Layout

namespace Layout

mutual

/-- A block with other headers and declarations. -/
def mapTexts (f : Text → Text) : Layout → Layout
  | rule header declarations => rule (f header) (declarations.map f)
  | group header inner => group (f header) (mapAllTexts f inner)

/-- Blocks with other headers and declarations. -/
def mapAllTexts (f : Text → Text) : List Layout → List Layout
  | [] => []
  | l :: ls => l.mapTexts f :: mapAllTexts f ls

end

variable {f : Text → Text}

theorem mapAllTexts_eq_map (f : Text → Text) (ls : List Layout) :
    mapAllTexts f ls = ls.map (mapTexts f) := by
  induction ls with
  | nil => rfl
  | cons l ls ih => rw [mapAllTexts, ih, List.map_cons]

mutual

theorem texts_mapTexts (f : Text → Text) (l : Layout) : (l.mapTexts f).texts = l.texts.map f := by
  match l with
  | rule header declarations => rfl
  | group header inner =>
    rw [mapTexts, texts, texts, List.map_cons, textsIn_mapAllTexts f inner]

theorem textsIn_mapAllTexts (f : Text → Text) (ls : List Layout) :
    textsIn (mapAllTexts f ls) = (textsIn ls).map f := by
  match ls with
  | [] => rfl
  | l :: ls =>
    rw [mapAllTexts, textsIn, textsIn, List.map_append, texts_mapTexts f l,
      textsIn_mapAllTexts f ls]

end

end Layout

/-! ## Blocks stay tidy -/

section Tidy

variable {root : Bindings} {ls bs : List Layout} {t : Text}

theorem IsInline.shorten (h : IsInline t) (root : Bindings) : IsInline (shorten root t) :=
  h.mono fun _ => mem_of_mem_shorten

theorem Layout.AreProper.shortened (h : AreProper ls) (root : Bindings) :
    AreProper (ls.map (mapTexts (shorten root))) := by
  induction h with
  | nil => exact .nil
  | rule hd _ ih =>
    refine .rule (fun d hmem => ?_) ih
    obtain ⟨e, he, rfl⟩ := List.mem_map.mp hmem
    rw [getLast?_shorten]
    exact hd e he
  | @group header inner ls hh hne _ _ ihInner ih =>
    rw [List.map_cons, mapTexts, mapAllTexts_eq_map]
    refine .group ?_ ?_ ihInner ih
    · rw [head?_shorten]
      exact hh
    · rwa [ne_eq, List.map_eq_nil_iff]

theorem Sheet.AreTidy.shortened (h : Sheet.AreTidy bs) (root : Bindings) :
    Sheet.AreTidy (bs.map (mapTexts (shorten root))) where
  proper := h.proper.shortened root
  inline t ht := by
    rw [← mapAllTexts_eq_map, textsIn_mapAllTexts] at ht
    obtain ⟨u, hu, rfl⟩ := List.mem_map.mp ht
    exact (h.inline u hu).shorten root

end Tidy

/-! ## The lines of blocks -/

section Lines

variable {root : Bindings} {o : Style.Options} {ls bs : List Layout} {b : Layout} {l t : Text}

theorem Style.lines_joinBlocks (t : Text) (ts : List Text) :
    Text.lines (joinBlocks (t :: ts)) = Text.lines t ++ ts.flatMap fun u => [] :: Text.lines u := by
  induction ts generalizing t with
  | nil => rw [joinBlocks_singleton, List.flatMap_nil, List.append_nil]
  | cons u us ih => rw [lines_joinBlocks_cons t (List.cons_ne_nil u us), ih, List.flatMap_cons]; rfl

theorem Style.lines_joinBlocks_map {f : Text → Text} (hf : f [] = []) {p q : Layout → Text}
    (h : ∀ b ∈ bs, Text.lines (q b) = (Text.lines (p b)).map f) :
    Text.lines (joinBlocks (bs.map q)) = (Text.lines (joinBlocks (bs.map p))).map f := by
  cases bs with
  | nil =>
    change [[]] = [f []]
    rw [hf]
  | cons b bs =>
    rw [List.map_cons, List.map_cons, lines_joinBlocks, lines_joinBlocks, List.map_append,
      h b List.mem_cons_self, List.flatMap_map, List.flatMap_map, List.map_flatMap]
    congr 1
    refine List.flatMap_congr fun c hc => ?_
    rw [h c (List.mem_cons_of_mem b hc), List.map_cons, hf]

theorem Style.mem_lines_joinBlocks {p : Layout → Text} (hb : b ∈ bs) (hl : l ∈ Text.lines (p b)) :
    l ∈ Text.lines (joinBlocks (bs.map p)) := by
  cases bs with
  | nil => cases hb
  | cons c bs =>
    rw [List.map_cons, lines_joinBlocks, List.mem_append, List.flatMap_map]
    rcases List.mem_cons.mp hb with rfl | hb
    · exact .inl hl
    · exact .inr (List.mem_flatMap.mpr ⟨b, hb, List.mem_cons_of_mem _ hl⟩)

theorem Style.of_mem_lines_joinBlocks {p : Layout → Text} (hl : l ∈ Text.lines (joinBlocks (bs.map p))) :
    l = [] ∨ ∃ b ∈ bs, l ∈ Text.lines (p b) := by
  cases bs with
  | nil => exact .inl (List.mem_singleton.mp hl)
  | cons c bs =>
    rw [List.map_cons, lines_joinBlocks, List.mem_append, List.flatMap_map] at hl
    rcases hl with hl | hl
    · exact .inr ⟨c, List.mem_cons_self, hl⟩
    · obtain ⟨b, hb, hl⟩ := List.mem_flatMap.mp hl
      rcases List.mem_cons.mp hl with hl | hl
      · exact .inl hl
      · exact .inr ⟨b, List.mem_cons_of_mem c hb, hl⟩

/-- A line without braces in front of its last code point, which is a semicolon or a brace. -/
def IsEnded (l : Text) : Prop := ∃ s c, l = s ++ [c] ∧ IsLineEnd c ∧ IsInline s

theorem isEnded_opening {header : Text} (h : IsInline header) :
    IsEnded (Block.opening header) := by
  by_cases hnil : header = []
  · rw [hnil]
    exact ⟨[], '\x7b', rfl, .inr (.inl rfl), by decide⟩
  · refine ⟨header ++ [' '], '\x7b', ?_, .inr (.inl rfl), h.append (by decide)⟩
    rw [Block.opening, if_neg hnil, List.append_assoc]
    rfl

theorem isEnded_closing : IsEnded Block.closing := ⟨[], '\x7d', rfl, .inr (.inr rfl), by decide⟩

/-- **The lines of blocks end with semicolons and braces**, but for the empty ones. -/
theorem Layout.AreProper.isEnded (h : AreProper ls) (hindent : IsIndentation o.indent)
    (hinline : ∀ t ∈ textsIn ls, IsInline t) (hb : b ∈ ls) (hl : l ∈ Text.lines (b.write o)) :
    l = [] ∨ IsEnded l := by
  induction h generalizing b l with
  | nil => cases hb
  | @rule header declarations ls hd _ ih =>
    rcases List.mem_cons.mp hb with rfl | hb
    · have htexts : ∀ t ∈ (Layout.rule header declarations).texts, IsInline t := fun t ht =>
        hinline t (List.mem_append_left _ ht)
      rw [lines_write_rule htexts] at hl
      rcases List.mem_cons.mp hl with rfl | hl
      · exact .inr (isEnded_opening (htexts header List.mem_cons_self))
      rcases List.mem_append.mp hl with hl | hl
      · obtain ⟨s, rfl⟩ := List.getLast?_eq_some_iff.mp (hd l hl)
        have hline := htexts _ (List.mem_cons_of_mem header hl)
        exact .inr ⟨s, ';', rfl, .inl rfl, hline.mono fun c hc => List.mem_append_left _ hc⟩
      · rw [List.mem_singleton.mp hl]
        exact .inr isEnded_closing
    · exact ih (fun t ht => hinline t (List.mem_append_right _ ht)) hb hl
  | @group header inner ls _ _ _ _ ihInner ih =>
    rcases List.mem_cons.mp hb with rfl | hb
    · have hheader := hinline header (List.mem_append_left _ List.mem_cons_self)
      rw [lines_write_group hindent.feed_not_mem hheader.1] at hl
      rcases List.mem_cons.mp hl with rfl | hl
      · exact .inr (isEnded_opening hheader)
      rcases List.mem_append.mp hl with hl | hl
      · obtain ⟨m, hm, rfl⟩ := List.mem_map.mp hl
        by_cases hnil : m = []
        · rw [if_pos hnil]
          exact .inl rfl
        obtain ⟨c, hc, hm⟩ := (Style.of_mem_lines_joinBlocks hm).resolve_left hnil
        obtain ⟨s, d, rfl, hend, hs⟩ := (ihInner (fun t ht => hinline t
          (List.mem_append_left _ (List.mem_cons_of_mem _ ht))) hc hm).resolve_left hnil
        rw [if_neg hnil]
        exact .inr ⟨o.indent ++ s, d, (List.append_assoc _ _ _).symm, hend, hindent.isInline.append hs⟩
      · rw [List.mem_singleton.mp hl]
        exact .inr isEnded_closing
    · exact ih (fun t ht => hinline t (List.mem_append_right _ ht)) hb hl

theorem shorten_of_isLineEnd {c : Char} (hc : IsLineEnd c) (root : Bindings) :
    shorten root [c] = [c] := by
  refine shorten_of_none root ?_
  rcases hc with rfl | rfl | rfl <;> decide

theorem shorten_opening {header : Text} (h : IsClosed (Block.opening header)) (root : Bindings) :
    shorten root (Block.opening header) = Block.opening (shorten root header) := by
  by_cases hnil : header = []
  · rw [hnil, shorten_nil]
    exact shorten_of_isLineEnd (.inr (.inl rfl)) root
  have hne : shorten root header ≠ [] := by
    intro hshort
    have hhead := head?_shorten root header
    rw [hshort] at hhead
    exact hnil (List.head?_eq_none_iff.mp hhead.symm)
  have hopening : Block.opening header = header ++ [' '] ++ ['\x7b'] := by
    rw [Block.opening, if_neg hnil, List.append_assoc]
    rfl
  rw [hopening] at h ⊢
  rw [(traverses_shorten root).concat_of_isClosed h (.inr (.inl rfl)),
    shorten_append_blanks root (List.forall_mem_singleton.mpr rfl),
    Block.opening, if_neg hne, List.append_assoc]
  rfl

theorem shorten_indent (hindent : IsIndentation o.indent) (root : Bindings) (l : Text) :
    shorten root (o.indent ++ l) = o.indent ++ shorten root l :=
  shorten_append root (isClear_of_blank (Text.isBlank_of_mem_indent hindent.2) l)

theorem shorten_eq_nil_iff (root : Bindings) (l : Text) : shorten root l = [] ↔ l = [] := by
  rw [← List.head?_eq_none_iff, head?_shorten, List.head?_eq_none_iff]

theorem map_shorten_lines {header : Text} {body : List Text}
    (h : ∀ l ∈ Block.lines header body, IsClosed l) (root : Bindings) :
    (Block.lines header body).map (shorten root) =
      Block.lines (shorten root header) (body.map (shorten root)) := by
  have hopening := shorten_opening (h _ List.mem_cons_self) root
  have hclosing : shorten root Block.closing = Block.closing :=
    shorten_of_isLineEnd (.inr (.inr rfl)) root
  rw [Block.lines, Block.lines, List.map_append, List.map_cons, List.map_singleton, hopening,
    hclosing]

theorem map_shorten_indentLines (hindent : IsIndentation o.indent) {t u : Text}
    (h : Text.lines u = (Text.lines t).map (shorten root)) :
    Style.indentLines o.indent u = (Style.indentLines o.indent t).map (shorten root) := by
  rw [Style.indentLines, Style.indentLines, h, List.map_map, List.map_map]
  refine List.map_congr_left fun l _ => ?_
  simp only [Function.comp_apply, shorten_eq_nil_iff]
  split
  · exact (shorten_nil root).symm
  · exact (shorten_indent hindent root l).symm

theorem isClosed_of_indentLines (hindent : IsIndentation o.indent)
    (h : ∀ l ∈ Style.indentLines o.indent t, IsClosed l) (hl : l ∈ Text.lines t) : IsClosed l := by
  have hclosed := h _ (List.mem_map_of_mem hl)
  by_cases hnil : l = []
  · rwa [if_pos hnil, ← hnil] at hclosed
  · rw [if_neg hnil] at hclosed
    exact hclosed.of_blanks (Text.isBlank_of_mem_indent hindent.2)

/-- **Shortened lines are the lines of shortened blocks.** -/
theorem Layout.AreProper.lines_mapTexts (h : AreProper ls) (hindent : IsIndentation o.indent)
    (hinline : ∀ t ∈ textsIn ls, IsInline t) (hb : b ∈ ls)
    (hclosed : ∀ l ∈ Text.lines (b.write o), IsClosed l) (root : Bindings) :
    Text.lines ((b.mapTexts (shorten root)).write o) =
      (Text.lines (b.write o)).map (shorten root) := by
  induction h generalizing b with
  | nil => cases hb
  | @rule header declarations ls _ _ ih =>
    rcases List.mem_cons.mp hb with rfl | hb
    · have htexts : ∀ t ∈ (Layout.rule header declarations).texts, IsInline t := fun t ht =>
        hinline t (List.mem_append_left _ ht)
      have hshort : ∀ t ∈ ((Layout.rule header declarations).mapTexts (shorten root)).texts,
          IsInline t := by
        intro t ht
        rw [texts_mapTexts] at ht
        obtain ⟨u, hu, rfl⟩ := List.mem_map.mp ht
        exact (htexts u hu).shorten root
      rw [lines_write_rule htexts] at hclosed ⊢
      rw [map_shorten_lines hclosed]
      exact lines_write_rule hshort
    · exact ih (fun t ht => hinline t (List.mem_append_right _ ht)) hb hclosed
  | @group header inner ls _ _ _ _ ihInner ih =>
    rcases List.mem_cons.mp hb with rfl | hb
    · have hheader := hinline header (List.mem_append_left _ List.mem_cons_self)
      have htexts : ∀ t ∈ textsIn inner, IsInline t := fun t ht =>
        hinline t (List.mem_append_left _ (List.mem_cons_of_mem _ ht))
      rw [lines_write_group hindent.feed_not_mem hheader.1] at hclosed ⊢
      have hinner : Text.lines (Style.joinBlocks ((inner.map (mapTexts (shorten root))).map (write o)))
          = (Text.lines (Style.joinBlocks (inner.map (write o)))).map (shorten root) := by
        rw [List.map_map]
        refine Style.lines_joinBlocks_map (shorten_nil root) fun c hc => ihInner htexts hc ?_
        intro m hm
        refine isClosed_of_indentLines hindent (fun l hl => hclosed l ?_)
          (Style.mem_lines_joinBlocks hc hm)
        exact List.mem_cons_of_mem _ (List.mem_append_left _ hl)
      rw [map_shorten_lines hclosed, ← map_shorten_indentLines hindent hinner, mapTexts,
        mapAllTexts_eq_map, lines_write_group hindent.feed_not_mem (hheader.shorten root).1]
    · exact ih (fun t ht => hinline t (List.mem_append_right _ ht)) hb hclosed

/-! ## The text of blocks -/

/-- The text of tidy blocks whose lines close the references that they open. -/
def IsTidyText (o : Style.Options) (t : Text) : Prop :=
  ∃ bs, bs ≠ [] ∧ Sheet.AreTidy bs ∧ t = Style.joinBlocks (bs.map (write o)) ∧
    ∀ l ∈ Text.lines t, IsClosed l

namespace IsTidyText

theorem isEnded (h : IsTidyText o t) (hindent : IsIndentation o.indent) (hl : l ∈ Text.lines t) :
    l = [] ∨ IsEnded l := by
  obtain ⟨bs, -, htidy, rfl, -⟩ := h
  rcases Style.of_mem_lines_joinBlocks hl with hnil | ⟨b, hb, hmem⟩
  · exact .inl hnil
  · exact htidy.proper.isEnded hindent htidy.inline hb hmem

theorem isLine (h : IsTidyText o t) (hindent : IsIndentation o.indent) (hl : l ∈ Text.lines t) :
    IsLine l := by
  have hended := h.isEnded hindent hl
  obtain ⟨-, -, -, -, hclosed⟩ := h
  refine ⟨hclosed l hl, hended.imp_right ?_⟩
  rintro ⟨s, c, hs, hend, -⟩
  exact ⟨s, c, hs, hend⟩

/-- **The text of tidy blocks, shortened, is the text of the shortened blocks.** -/
theorem shortened (h : IsTidyText o t) (hindent : IsIndentation o.indent) (root : Bindings) :
    IsTidyText o (shorten root t) := by
  have hlines : ∀ l ∈ Text.lines t, IsLine l := fun l hl => h.isLine hindent hl
  obtain ⟨bs, hne, htidy, htext, hclosed⟩ := h
  have hmap : Text.lines (Style.joinBlocks ((bs.map (mapTexts (shorten root))).map (write o))) =
      (Text.lines t).map (shorten root) := by
    rw [List.map_map, htext]
    refine Style.lines_joinBlocks_map (shorten_nil root) fun b hb => ?_
    refine htidy.proper.lines_mapTexts hindent htidy.inline hb (fun l hl => hclosed l ?_) root
    rw [htext]
    exact Style.mem_lines_joinBlocks hb hl
  have hshort : shorten root t =
      Style.joinBlocks ((bs.map (mapTexts (shorten root))).map (write o)) := by
    rw [← Text.unlines_lines t, shorten_unlines hlines, ← hmap, Text.unlines_lines]
  refine ⟨_, by simpa using hne, htidy.shortened root, hshort, fun l hl => ?_⟩
  rw [hshort, hmap] at hl
  obtain ⟨m, hm, rfl⟩ := List.mem_map.mp hl
  exact (hclosed m hm).shorten root

theorem isInline_of_mem_allReferences (h : IsTidyText o t) (hindent : IsIndentation o.indent)
    {name fallback : Text} (hmem : (name, fallback) ∈ allReferences t) :
    (∀ c ∈ name, isNameChar c = true) ∧ IsInline fallback := by
  have hlines : ∀ l ∈ Text.lines t, IsLine l := fun l hl => h.isLine hindent hl
  rw [← Text.unlines_lines t, allReferences_unlines hlines] at hmem
  obtain ⟨l, hl, hmem⟩ := List.mem_flatMap.mp hmem
  rcases h.isEnded hindent hl with rfl | ⟨s, c, rfl, hend, hs⟩
  · rw [allReferences_nil] at hmem
    cases hmem
  · rw [traverses_allReferences.concat_of_isClosed (hlines _ hl).1 hend, List.append_nil] at hmem
    obtain ⟨hname, hfallback⟩ := mem_of_mem_allReferences hmem
    exact ⟨hname, hs.mono hfallback⟩

end IsTidyText

end Lines

end ThemedCss
