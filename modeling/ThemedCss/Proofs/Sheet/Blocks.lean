import ThemedCss.Proofs.Sheet.Flat
import ThemedCss.Proofs.Style.Compiled
import ThemedCss.Proofs.Text.Spacing

/-!
# Style sheets as blocks

A style sheet as the list of its top-level blocks, what merging is to make of it, and how the lines of
the blocks are read.

* `IsInline`, `Layout.textsIn`: texts on one line without braces; the headers and declarations of
  blocks;
* `Sheet.writeBlocks`: blocks with a blank line between them and a line feed at the end;
* `Sheet.mergeBlocks`: the blocks that merging leaves;
* `Sheet.AreTidy`: blocks that can be told apart by their lines;
* `Layout.isTight_write`: their texts have no more than single blank lines in them;
* **`Sheet.pieces_write_append`**: a rule at the top level is read as one, and any other block as lines.
-/

namespace ThemedCss

/-- A text on one line, without braces. -/
def IsInline (t : Text) : Prop := '\n' ∉ t ∧ t.any Block.isBrace = false

instance : DecidablePred IsInline := fun _ => inferInstanceAs (Decidable (_ ∧ _))

namespace IsInline

variable {s t : Text}

theorem mono (h : IsInline t) (hs : ∀ c ∈ s, c ∈ t) : IsInline s :=
  ⟨fun hc => h.1 (hs _ hc), List.any_eq_false.mpr fun c hc => List.any_eq_false.mp h.2 c (hs c hc)⟩

theorem append (hs : IsInline s) (ht : IsInline t) : IsInline (s ++ t) := by
  refine ⟨fun hc => ?_, ?_⟩
  · rcases List.mem_append.mp hc with hc | hc
    · exact hs.1 hc
    · exact ht.1 hc
  · rw [List.any_append, hs.2, ht.2]
    rfl

end IsInline

/-- A header that is a selector in the first column: neither a blank nor an at sign is at its front. -/
def IsSelector : Text → Prop
  | [] => False
  | c :: _ => Text.isBlank c = false ∧ c ≠ '@'

instance : DecidablePred IsSelector
  | [] => inferInstanceAs (Decidable False)
  | _ :: _ => inferInstanceAs (Decidable (_ ∧ _))

namespace IsSelector

variable {s : Text}

theorem append (h : IsSelector s) (t : Text) : IsSelector (s ++ t) := by
  cases s with
  | nil => exact h.elim
  | cons c s => exact h

theorem strip (h : IsSelector s) : IsSelector (Text.strip s) := by
  cases s with
  | nil => exact h.elim
  | cons c t =>
    have hne : Text.strip (c :: t) ≠ [] := Text.strip_ne_nil_iff.mpr ⟨c, List.mem_cons_self, h.1⟩
    have hfix : Text.strip (c :: t) = Text.stripRight (c :: t) := by
      rw [Text.strip, Text.stripLeft_cons_of_not_blank h.1]
    obtain ⟨d, u, hu⟩ := List.exists_cons_of_ne_nil hne
    obtain ⟨blanks, hblanks⟩ := Text.stripRight_isPrefix (c :: t)
    rw [← hfix, hu] at hblanks
    obtain ⟨rfl, -⟩ := List.cons.inj hblanks
    rw [hu]
    exact h

end IsSelector

namespace Layout

mutual

/-- The headers and the declarations of a block and of the blocks in it. -/
def texts : Layout → List Text
  | rule header declarations => header :: declarations
  | group header inner => header :: textsIn inner

/-- The headers and the declarations of blocks. -/
def textsIn : List Layout → List Text
  | [] => []
  | l :: ls => texts l ++ textsIn ls

end

theorem textsIn_append (ls ms : List Layout) : textsIn (ls ++ ms) = textsIn ls ++ textsIn ms := by
  induction ls with
  | nil => rfl
  | cons l ls ih => rw [List.cons_append, textsIn, ih, textsIn, List.append_assoc]

theorem mem_textsIn {ls : List Layout} {t : Text} : t ∈ textsIn ls ↔ ∃ l ∈ ls, t ∈ l.texts := by
  induction ls with
  | nil => exact iff_of_false List.not_mem_nil fun ⟨_, h, _⟩ => List.not_mem_nil h
  | cons l ls ih => rw [textsIn, List.mem_append, ih, List.exists_mem_cons_iff]

/-- Whether a block is an at-rule. -/
def isAtRule (b : Layout) : Bool := b.header.head? = some '@'

/-- The declarations of a rule that merging compares with others: it has some, and one selector, no
list of them, in the first column. -/
def body? : Layout → Option (List Text)
  | rule header declarations =>
    if IsSelector header ∧ ',' ∉ header ∧ declarations ≠ [] then some declarations else none
  | group _ _ => none

end Layout

namespace Sheet

open Layout

/-! ## Merging blocks -/

/-- The style sheet of blocks: a blank line stands between them, and a line feed at the end. -/
def writeBlocks (o : Style.Options) (bs : List Layout) : Text :=
  Style.joinBlocks (bs.map (Layout.write o)) ++ ['\n']

/-- The selectors of the rules with a body, without the blanks around them, each once, in the order in
which they first come. -/
def sharers (body : List Text) (bs : List Layout) : List Text :=
  ((bs.filter fun b => b.body? = some body).map fun b => Text.strip b.header).eraseDups

/-- What merging leaves of a block among all blocks, behind some of them: of a rule whose body has two
or more selectors, all of these in the first rule with the body, and nothing of the others. -/
def leftOf (all before : List Layout) (b : Layout) : Option Layout :=
  match b.body? with
  | none => some b
  | some body =>
    if (sharers body all).length < 2 then some b
    else if before.any fun q => q.body? = some body then none
    else some (.rule (List.intercalate ", " (sharers body all)) body)

/-- What merging leaves of each of some blocks among all blocks, behind some of them. -/
def leftFrom (all before : List Layout) : List Layout → List (Option Layout)
  | [] => []
  | b :: bs => leftOf all before b :: leftFrom all (before ++ [b]) bs

/-- The blocks that merging leaves. -/
def mergeBlocks (bs : List Layout) : List Layout := (leftFrom bs [] bs).reduceOption

/-- Blocks that can be told apart by their lines: no at-rule stands in a rule, and every header and
declaration is on a line of its own without further braces. -/
structure AreTidy (bs : List Layout) : Prop where
  proper : AreProper bs
  inline : ∀ t ∈ textsIn bs, IsInline t

namespace AreTidy

variable {b : Layout} {bs cs : List Layout}

theorem nil : AreTidy [] := ⟨.nil, nofun⟩

theorem append (h : AreTidy bs) (h' : AreTidy cs) : AreTidy (bs ++ cs) where
  proper := h.proper.append h'.proper
  inline t ht := by
    rw [textsIn_append] at ht
    rcases List.mem_append.mp ht with ht | ht
    · exact h.inline t ht
    · exact h'.inline t ht

theorem head (h : AreTidy (b :: bs)) : AreTidy [b] where
  proper := by
    cases h.proper with
    | rule hd _ => exact .rule hd .nil
    | group hh hne hi _ => exact .group hh hne hi .nil
  inline t ht := h.inline t (by
    rw [textsIn, textsIn, List.append_nil] at ht
    exact List.mem_append_left _ ht)

theorem tail (h : AreTidy (b :: bs)) : AreTidy bs where
  proper := by
    cases h.proper with
    | rule _ hls => exact hls
    | group _ _ _ hls => exact hls
  inline t ht := h.inline t (List.mem_append_right _ ht)

theorem of_mem (h : AreTidy bs) (hb : b ∈ bs) : AreTidy [b] := by
  induction bs with
  | nil => cases hb
  | cons c bs ih =>
    rcases List.mem_cons.mp hb with rfl | hb
    · exact h.head
    · exact ih h.tail hb

end AreTidy

end Sheet

/-! ## The lines of blocks -/

namespace Layout

variable {o : Style.Options} {header : Text} {inner : List Layout} {declarations : List Text}

theorem lines_write_rule (h : ∀ t ∈ (rule header declarations).texts, IsInline t) :
    Text.lines ((rule header declarations).write o) = Block.lines header declarations :=
  Block.lines_write (h header List.mem_cons_self).1 fun d hd => (h d (List.mem_cons_of_mem _ hd)).1

theorem feed_not_mem_indentLines (hindent : '\n' ∉ o.indent) (body : Text) :
    ∀ l ∈ Style.indentLines o.indent body, '\n' ∉ l := by
  intro l hl
  obtain ⟨line, hline, rfl⟩ := List.mem_map.mp hl
  have hfeed := Text.feed_not_mem_of_mem_lines hline
  split
  · exact List.not_mem_nil
  · rw [List.mem_append, not_or]
    exact ⟨hindent, hfeed⟩

theorem lines_write_group (hindent : '\n' ∉ o.indent) (hheader : '\n' ∉ header) :
    Text.lines ((group header inner).write o) =
      Block.lines header
        (Style.indentLines o.indent (Style.joinBlocks (inner.map (write o)))) := by
  rw [write_group]
  exact Block.lines_write hheader (feed_not_mem_indentLines hindent _)

theorem lines_joinBlocks_cons (t : Text) {ts : List Text} (hts : ts ≠ []) :
    Text.lines (Style.joinBlocks (t :: ts)) =
      Text.lines t ++ [] :: Text.lines (Style.joinBlocks ts) := by
  rw [Style.joinBlocks_cons hts, List.append_assoc]
  change Text.lines (t ++ '\n' :: ([] ++ '\n' :: Style.joinBlocks ts)) = _
  rw [Text.lines_append, Text.lines_append]
  rfl

theorem opening_ne_nil (header : Text) : Block.opening header ≠ [] := by
  unfold Block.opening
  split
  · exact List.cons_ne_nil _ _
  · exact List.append_ne_nil_of_right_ne_nil _ (List.cons_ne_nil _ _)

theorem spaced_block {body : List Text} (h : body = [] ∨ Text.Spaced body) :
    Text.Spaced (Block.lines header body) := by
  have hclosing : Text.Spaced [Block.closing] := .one (List.cons_ne_nil _ _)
  rcases h with rfl | h
  · exact .next (opening_ne_nil header) hclosing
  · exact .next (opening_ne_nil header) (h.append hclosing)

/-- The lines of blocks have content at both ends, and single blank lines in between. -/
theorem AreProper.spaced {ls : List Layout} (h : AreProper ls) (hindent : '\n' ∉ o.indent)
    (hinline : ∀ t ∈ textsIn ls, IsInline t) (hne : ls ≠ []) :
    Text.Spaced (Text.lines (Style.joinBlocks (ls.map (write o)))) := by
  induction h with
  | nil => exact absurd rfl hne
  | @rule header declarations ls hd _ ih =>
    have hblock : Text.Spaced (Text.lines ((Layout.rule header declarations).write o)) := by
      rw [lines_write_rule fun t ht => hinline t (List.mem_append_left _ ht)]
      refine spaced_block ?_
      by_cases hnil : declarations = []
      · exact .inl hnil
      · refine .inr (.of_ne_nil hnil fun d hmem hd' => ?_)
        have hlast := hd d hmem
        rw [hd'] at hlast
        cases hlast
    by_cases hls : ls = []
    · rw [hls, List.map_singleton, Style.joinBlocks_singleton]
      exact hblock
    · rw [List.map_cons, lines_joinBlocks_cons _ (by simpa using hls)]
      exact hblock.append_gap (ih (fun t ht => hinline t (List.mem_append_right _ ht)) hls)
  | @group header inner ls _ hinner _ _ ihInner ih =>
    have hheader := hinline header (List.mem_append_left _ List.mem_cons_self)
    have hblock : Text.Spaced (Text.lines ((Layout.group header inner).write o)) := by
      have hspaced := ihInner
        (fun t ht => hinline t (List.mem_append_left _ (List.mem_cons_of_mem _ ht))) hinner
      rw [lines_write_group hindent hheader.1]
      refine spaced_block (.inr (hspaced.map fun l => ?_))
      by_cases hl : l = []
      · simp [hl]
      · simp [hl]
    by_cases hls : ls = []
    · rw [hls, List.map_singleton, Style.joinBlocks_singleton]
      exact hblock
    · rw [List.map_cons, lines_joinBlocks_cons _ (by simpa using hls)]
      exact hblock.append_gap (ih (fun t ht => hinline t (List.mem_append_right _ ht)) hls)

theorem isTight_write {b : Layout} (hindent : '\n' ∉ o.indent) (h : AreProper [b])
    (hinline : ∀ t ∈ textsIn [b], IsInline t) : Text.IsTight (b.write o) := by
  have hspaced := h.spaced (o := o) hindent hinline (List.cons_ne_nil b [])
  rw [List.map_singleton, Style.joinBlocks_singleton] at hspaced
  have htight := hspaced.isTight_unlines fun l hl => Text.feed_not_mem_of_mem_lines hl
  rwa [Text.unlines_lines] at htight

theorem getLast?_write (o : Style.Options) (b : Layout) : (b.write o).getLast? = some '\x7d' := by
  have hblock : ∀ header body, (Block.write header body).getLast? = some '\x7d' := by
    intro header body
    have hlines : Block.write header body =
        Text.unlines (Block.opening header :: body) ++ '\n' :: Text.unlines [Block.closing] :=
      Text.unlines_append (List.cons_ne_nil _ _) (List.cons_ne_nil _ _)
    rw [hlines, List.getLast?_append_of_ne_nil _ (List.cons_ne_nil _ _)]
    rfl
  cases b with
  | rule header declarations => exact hblock _ _
  | group header inner =>
    rw [write_group]
    exact hblock _ _

theorem getLast?_joinBlocks (o : Style.Options) {bs : List Layout} (hne : bs ≠ []) :
    (Style.joinBlocks (bs.map (write o))).getLast? = some '\x7d' := by
  induction bs with
  | nil => exact absurd rfl hne
  | cons b bs ih =>
    cases bs with
    | nil =>
      rw [List.map_singleton, Style.joinBlocks_singleton]
      exact getLast?_write o b
    | cons c cs =>
      have hcs : (c :: cs).map (write o) ≠ [] := List.cons_ne_nil _ _
      rw [List.map_cons, Style.joinBlocks_cons hcs,
        List.getLast?_append_of_ne_nil _ (Style.joinBlocks_ne_nil (List.cons_ne_nil c cs))]
      exact ih (List.cons_ne_nil c cs)

end Layout

/-! ## The pieces of blocks -/

/-- A run of spaces and tabs that is not empty. -/
def IsIndentation (t : Text) : Prop := t ≠ [] ∧ ∀ c ∈ t, c = ' ' ∨ c = '\t'

theorem IsIndentation.isInline {t : Text} (h : IsIndentation t) : IsInline t := by
  refine ⟨fun hmem => ?_, List.any_eq_false.mpr fun c hc => ?_⟩
  · rcases h.2 _ hmem with h | h
    · cases h
    · cases h
  · rcases h.2 c hc with rfl | rfl <;> decide

theorem IsIndentation.feed_not_mem {t : Text} (h : IsIndentation t) : '\n' ∉ t := h.isInline.1

/-- The pieces that a block at the top level is read as. -/
def Layout.pieces (o : Style.Options) : Layout → List Sheet.Piece
  | rule header declarations =>
    if IsSelector header ∧ declarations ≠ [] then [.rule header declarations]
    else (Block.lines header declarations).map .line
  | group header inner => (Text.lines ((group header inner).write o)).map .line

namespace Sheet

variable {o : Style.Options}

theorem selectorOf?_eq_none_of_head {line : Text} {c : Char} (hc : line.head? = some c)
    (h : Text.isBlank c = true ∨ c = '@') : selectorOf? line = none := by
  unfold selectorOf?
  cases hp : ("\x7b ".toList).isPrefixOf? line.reverse with
  | none => rfl
  | some reversed =>
    have hline : line = reversed.reverse ++ " \x7b" := by
      rw [← List.reverse_reverse line, ← List.isPrefixOf?_eq_some_iff_append_eq.mp hp, List.reverse_append]
      rfl
    dsimp only
    cases hs : reversed.reverse with
    | nil => rfl
    | cons d t =>
      rw [hline, hs] at hc
      obtain rfl : d = c := Option.some.inj hc
      exact if_pos (h.imp_right .inl)

theorem head?_opening {header : Text} {c : Char} (h : header.head? = some c) :
    (Block.opening header).head? = some c := by
  cases header with
  | nil => cases h
  | cons d t => exact h

theorem selectorOf?_opening_eq_none {header : Text} (h : ¬ IsSelector header) :
    selectorOf? (Block.opening header) = none := by
  cases header with
  | nil => rfl
  | cons c t =>
    refine selectorOf?_eq_none_of_head (head?_opening rfl) ?_
    by_contra hc
    rw [not_or, Bool.not_eq_true] at hc
    exact h hc

/-- The indented lines inside an at-rule open no rule. -/
theorem selectorOf?_indentLines (hindent : IsIndentation o.indent) (body : Text) :
    ∀ l ∈ Style.indentLines o.indent body, selectorOf? l = none := by
  intro l hl
  obtain ⟨line, -, rfl⟩ := List.mem_map.mp hl
  split
  · rfl
  · obtain ⟨c, t, hct⟩ := List.exists_cons_of_ne_nil hindent.1
    have hblank := Text.isBlank_of_mem_indent hindent.2 c (by rw [hct]; exact List.mem_cons_self)
    exact selectorOf?_eq_none_of_head (by rw [hct]; rfl) (.inl hblank)

/-- **A rule at the top level is read as a rule, and any other block as lines.** -/
theorem pieces_write_append (hindent : IsIndentation o.indent) {b : Layout} (h : AreTidy [b])
    (ls : List Text) : pieces (Text.lines (b.write o) ++ ls) = b.pieces o ++ pieces ls := by
  have hinline : ∀ t ∈ b.texts, IsInline t := fun t ht =>
    h.inline t (List.mem_append_left _ ht)
  cases b with
  | rule header declarations =>
    have hbraces : ∀ l ∈ declarations, l.any Block.isBrace = false := fun l hl =>
      (hinline l (List.mem_cons_of_mem _ hl)).2
    rw [Layout.lines_write_rule hinline, Layout.pieces]
    by_cases hsel : IsSelector header
    · cases header with
      | nil => exact hsel.elim
      | cons c t =>
        have hhead : ∀ d ∈ (c :: t).head?, Text.isBlank d = false := by
          intro d hd
          obtain rfl := Option.some.inj hd
          exact hsel.1
        have hheader : c :: t ≠ [] ∧ (c :: t).head? ≠ some '@' ∧
            (c :: t).any Block.isBrace = false :=
          ⟨List.cons_ne_nil c t, fun hc => hsel.2 (Option.some.inj hc),
            (hinline _ List.mem_cons_self).2⟩
        rw [pieces_block_append hhead hbraces]
        congr 1
        exact if_congr ⟨fun hb => ⟨hsel, hb.1⟩, fun hb => ⟨hb.2, hheader⟩⟩ rfl rfl
    · rw [if_neg fun hb => hsel hb.1]
      refine pieces_append_of_selectorOf? (fun l hl => ?_) ls
      rcases List.mem_cons.mp hl with rfl | hl
      · exact selectorOf?_opening_eq_none hsel
      · exact selectorOf?_body hbraces l hl
  | group header inner =>
    have hat : header.head? = some '@' := by
      cases h.proper with
      | group hh _ _ _ => exact hh
    refine pieces_append_of_selectorOf? (fun l hl => ?_) ls
    rw [Layout.lines_write_group hindent.feed_not_mem (hinline header List.mem_cons_self).1] at hl
    rcases List.mem_cons.mp hl with rfl | hl
    · exact selectorOf?_eq_none_of_head (head?_opening hat) (.inr rfl)
    · rcases List.mem_append.mp hl with hl | hl
      · exact selectorOf?_indentLines hindent _ l hl
      · rw [List.mem_singleton.mp hl]
        rfl

end Sheet

end ThemedCss
