import ThemedCss.Proofs.Selector.Plain
import ThemedCss.Proofs.Selector.Split
import ThemedCss.Proofs.Sheet.Blocks
import ThemedCss.Proofs.Variable.Balanced

/-!
# Compiling keeps parentheses balanced

When the texts in a style tree have balanced parentheses, so has the text that the tree is compiled
to. The parts of a selector list need not be balanced by themselves, since brackets of any kind hold
a list together; but they stay in order, and what is written between them is balanced.

* `Selector.foldlM_split`: the parts of a list open and close what the list does;
* `Selector.isBalanced_nest`, `Selector.isBalanced_combined`: the selectors of keys and markers;
* `Layout.isBalanced_write`: the texts of blocks;
* `Style.texts`: the keys, the selectors of markers and the formatted values of a tree;
* **`Style.isBalanced_compile`**: a compiled tree.
-/

namespace ThemedCss

open Variable

/-! ## Selectors -/

namespace Selector

variable {key parent part : Text} {ts : List Text}

theorem depthBehind?_strip (depth : Nat) (t : Text) :
    depthBehind? depth (Text.strip t) = depthBehind? depth t := by
  obtain ⟨a, b, hab, ha, hb⟩ := Text.exists_eq_append_strip t
  rw [hab, (IsBalanced.of_blank hb).depthBehind?_append_right,
    (IsBalanced.of_blank ha).depthBehind?_append_left, ← hab]

theorem foldlM_pieces (depth : Nat) (s : Text) (d : Nat) :
    (pieces depth s).foldlM depthBehind? d = depthBehind? d s := by
  induction s generalizing depth d with
  | nil => rfl
  | cons c s ih =>
    rw [pieces]
    split
    · rename_i hc
      obtain ⟨rfl, -⟩ := hc
      rw [List.foldlM_cons]
      exact ih depth d
    · obtain ⟨p, ps, hps⟩ := List.exists_cons_of_ne_nil (pieces_ne_nil (depthAfter depth c) s)
      rw [hps, Text.consHead, List.foldlM_cons, depthBehind?_cons, depthBehind?_cons,
        Option.bind_eq_bind, Option.bind_assoc]
      refine Option.bind_congr fun e _ => ?_
      rw [← ih (depthAfter depth c) e, hps, List.foldlM_cons]
      rfl

/-- **The parts of a list open and close what the list does.** -/
theorem foldlM_split (s : Text) (d : Nat) :
    (split s).foldlM depthBehind? d = depthBehind? d s := by
  rw [← foldlM_pieces 0 s d, split]
  induction pieces 0 s generalizing d with
  | nil => rfl
  | cons p ps ih =>
    rw [List.map_cons, List.foldlM_cons, ← depthBehind?_strip d p]
    by_cases hp : Text.strip p = []
    · rw [List.filter_cons_of_neg (by simpa using hp), hp]
      exact ih d
    · rw [List.filter_cons_of_pos (by simpa using hp), List.foldlM_cons]
      exact Option.bind_congr fun e _ => ih e

theorem depthBehind?_join (hkey : IsBalanced key) (part : Text) (d : Nat) :
    depthBehind? d (join key part) = depthBehind? d part := by
  unfold join
  split
  · rename_i rest
    have hrest : IsBalanced rest := hkey
    exact hrest.depthBehind?_append_right d part
  · rename_i c rest _
    have hspace : IsBalanced (' ' :: c :: rest) := hkey
    split
    · exact hkey.depthBehind?_append_right d part
    · exact hspace.depthBehind?_append_right d part
  · split
    · rename_i hnil
      rw [hnil]
    · exact IsBalanced.depthBehind?_append_right (of_decide_eq_true rfl) d part

/-- A key below one parent stands for itself, or adds nothing to what the parent opens and
closes. -/
theorem depthBehind?_create (hkey : IsBalanced key) :
    (∀ part, create key part = key) ∨
      ∀ part d, depthBehind? d (create key part) = depthBehind? d part := by
  by_cases hat : key.head? = some '@'
  · exact .inl fun part => if_pos hat
  by_cases hhead : key.head? = some '&'
  · right
    intro part d
    rw [create, if_neg hat, if_pos hhead, depthBehind?_join hkey]
  by_cases hlist : isList key = true
  · left
    intro part
    rw [create, if_neg hat, if_neg hhead, if_pos hlist]
  · right
    intro part d
    rw [create, if_neg hat, if_neg hhead, if_neg hlist, depthBehind?_join hkey]

theorem foldlM_map_congr {f : Text → Text} (hf : ∀ t d, depthBehind? d (f t) = depthBehind? d t)
    (ts : List Text) (d : Nat) : (ts.map f).foldlM depthBehind? d = ts.foldlM depthBehind? d := by
  rw [List.foldlM_map]
  simp only [hf]

theorem isBalanced_nest (hkey : IsBalanced key) (hparent : IsBalanced parent) :
    IsBalanced (nest key parent) := by
  have hcomma : IsBalanced ", " := by decide
  rcases depthBehind?_create hkey with hsame | hadds
  · rw [nest]
    split
    · refine hcomma.intercalate fun t ht => ?_
      obtain ⟨part, -, rfl⟩ := List.mem_map.mp ht
      rwa [hsame]
    · rwa [hsame]
  · rw [nest]
    split
    · rw [IsBalanced, depthBehind?_intercalate hcomma, foldlM_map_congr hadds, foldlM_split]
      exact hparent
    · exact (hadds parent 0).trans hparent

theorem foldlM_replicate {d e : Nat} (h : depthBehind? d part = some e) (n k : Nat) :
    (List.replicate n part).foldlM depthBehind? (n * d + k) = some (n * e + k) := by
  induction n generalizing k with
  | zero => simp
  | succ n ih =>
    have hfirst := depthBehind?_add h (n * d + k)
    have hstart : (n + 1) * d + k = d + (n * d + k) := by
      rw [Nat.succ_mul]
      omega
    have hend : n * e + (e + k) = (n + 1) * e + k := by
      rw [Nat.succ_mul]
      omega
    have hnext : e + (n * d + k) = n * d + (e + k) := by omega
    rw [List.replicate_succ, List.foldlM_cons, hstart, hfirst, hnext, ← hend]
    exact ih (e + k)

theorem foldlM_flatMap_replicate {parts : List Text} {d e : Nat}
    (h : parts.foldlM depthBehind? d = some e) (n : Nat) :
    (parts.flatMap fun part => List.replicate n part).foldlM depthBehind? (n * d) =
      some (n * e) := by
  induction parts generalizing d with
  | nil =>
    obtain rfl : d = e := Option.some.inj h
    rfl
  | cons part parts ih =>
    rw [List.foldlM_cons] at h
    obtain ⟨d', hpart, hparts⟩ := Option.bind_eq_some_iff.mp h
    have hrepeated := foldlM_replicate hpart n 0
    rw [Nat.add_zero, Nat.add_zero] at hrepeated
    rw [List.flatMap_cons, List.foldlM_append, hrepeated]
    exact ih hparts

/-- The joined selectors of a marker are balanced: every part of the parent comes once for each of
them. -/
theorem isBalanced_combined (hts : ∀ t ∈ ts, IsBalanced t) (hparent : IsBalanced parent) :
    IsBalanced (List.intercalate ", " (combined ts parent)) := by
  have hcomma : IsBalanced ", " := by decide
  have hparts : (if parent = [] then [[]] else split parent).foldlM depthBehind? 0 = some 0 := by
    split
    · rfl
    · rw [foldlM_split]
      exact hparent
  have hjoin (part : Text) (d : Nat) : (ts.map (join · part)).foldlM depthBehind? d =
      (List.replicate ts.length part).foldlM depthBehind? d := by
    induction ts generalizing d with
    | nil => rfl
    | cons t ts ih =>
      rw [List.map_cons, List.foldlM_cons, depthBehind?_join (hts t List.mem_cons_self),
        List.length_cons, List.replicate_succ, List.foldlM_cons]
      exact Option.bind_congr fun e _ => ih (fun u hu => hts u (List.mem_cons_of_mem t hu)) e
  have hall (parts : List Text) (d : Nat) :
      (parts.flatMap fun part => ts.map (join · part)).foldlM depthBehind? d =
        (parts.flatMap fun part => List.replicate ts.length part).foldlM depthBehind? d := by
    induction parts generalizing d with
    | nil => rfl
    | cons part parts ih =>
      rw [List.flatMap_cons, List.foldlM_append, hjoin, List.flatMap_cons, List.foldlM_append]
      exact Option.bind_congr fun e _ => ih e
  rw [IsBalanced, depthBehind?_intercalate hcomma, combined, hall]
  have hrepeated := foldlM_flatMap_replicate hparts ts.length
  rwa [Nat.mul_zero] at hrepeated

end Selector

/-! ## Names and headers -/

theorem Text.depthBehind?_hyphenate (t : Text) (d : Nat) :
    depthBehind? d (hyphenate t) = depthBehind? d t := by
  have hsmall : ∀ n < 26, Char.ofNat (65 + n + 32) ≠ '(' ∧ Char.ofNat (65 + n + 32) ≠ ')' := by
    decide
  induction t generalizing d with
  | nil => rfl
  | cons c t ih =>
    rw [hyphenate, List.flatMap_cons]
    split
    · -- a capital is written as a hyphen and a small letter
      rename_i hc
      obtain ⟨n, hn, hletter⟩ := exists_smallLetter_eq hc
      have hopen : c ≠ '(' := by
        rintro rfl
        exact absurd hc (by decide)
      have hclose : c ≠ ')' := by
        rintro rfl
        exact absurd hc (by decide)
      rw [hletter, List.cons_append, List.cons_append, List.nil_append,
        depthBehind?_cons_of_ne (by decide) (by decide),
        depthBehind?_cons_of_ne (hsmall n hn).1 (hsmall n hn).2,
        depthBehind?_cons_of_ne hopen hclose]
      exact ih d
    · rw [depthBehind?_append, depthBehind?_cons, depthBehind?_cons, Option.bind_assoc]
      exact Option.bind_congr fun e _ => ih e

theorem isBalanced_kebab {t : Text} (h : IsBalanced t) : IsBalanced (Text.kebab t) := by
  have hyphen : IsBalanced ['-'] := by decide
  have hname : IsBalanced (Text.hyphenate t) := (Text.depthBehind?_hyphenate t 0).trans h
  rw [Text.kebab]
  split
  · exact h
  split
  · exact hyphen.append hname
  · exact hname

theorem isBalanced_colorScheme {scheme : Text} (h : IsBalanced scheme) :
    IsBalanced (AtRule.colorScheme scheme) := by
  have hquery : depthBehind? 0 "@media (prefers-color-scheme: " = some 1 := by decide
  have hend : depthBehind? 1 ")" = some 0 := by decide
  unfold IsBalanced AtRule.colorScheme
  rw [depthBehind?_append, depthBehind?_append, hquery, Option.bind_some, h.depthBehind?_eq,
    Option.bind_some, hend]

theorem isBalanced_header {themeKeys : ThemeKeys} {key header : Text} (hkey : IsBalanced key)
    (h : AtRule.header? themeKeys key = some header) : IsBalanced header := by
  rw [AtRule.header?] at h
  by_cases hat : AtRule.isHeader key = true
  · rw [if_pos hat] at h
    rwa [← Option.some.inj h]
  · rw [if_neg hat] at h
    by_cases hscheme : themeKeys = .scope ∧ (Mode.ofThemeKey? key).isSome = true
    · rw [if_pos hscheme] at h
      rw [← Option.some.inj h]
      exact isBalanced_colorScheme hkey
    · rw [if_neg hscheme] at h
      cases h

/-! ## Blocks -/

namespace Layout

variable {o : Style.Options}

theorem depthBehind?_write_block {header : Text} (h : IsBalanced header) (body : List Text)
    (d : Nat) : depthBehind? d (Block.write header body) = body.foldlM depthBehind? d := by
  have hfeed : IsBalanced "\n" := by decide
  have hbrace : IsBalanced (" \x7b" : Text) := by decide
  have hopening : IsBalanced (Block.opening header) := by
    rw [Block.opening]
    split
    · decide
    · exact h.append hbrace
  have hclosing : IsBalanced Block.closing := by decide
  rw [Block.write, Text.unlines, depthBehind?_intercalate hfeed, Block.lines, List.cons_append,
    List.foldlM_cons, hopening.depthBehind?_eq]
  refine List.foldlM_append.trans ?_
  cases hbody : body.foldlM depthBehind? d with
  | none => rfl
  | some e => exact foldlM_of_isBalanced (List.forall_mem_singleton.mpr hclosing) e

theorem foldlM_indentLines {indent : Text} (h : IsBalanced indent) (body : Text) (d : Nat) :
    (Style.indentLines indent body).foldlM depthBehind? d = depthBehind? d body := by
  have hline (l : Text) (e : Nat) :
      depthBehind? e (if l = [] then [] else indent ++ l) = depthBehind? e l := by
    split
    · rename_i hnil
      rw [hnil]
    · exact h.depthBehind?_append_left e l
  have hfeed : IsBalanced "\n" := by decide
  rw [Style.indentLines, Selector.foldlM_map_congr hline, ← depthBehind?_intercalate hfeed]
  exact congrArg (depthBehind? d) (Text.unlines_lines body)

mutual

theorem isBalanced_write (ho : IsBalanced o.indent) (l : Layout)
    (h : ∀ t ∈ l.texts, IsBalanced t) : IsBalanced (l.write o) := by
  match l with
  | .rule header declarations =>
    rw [texts, List.forall_mem_cons] at h
    rw [write, IsBalanced, depthBehind?_write_block h.1]
    exact foldlM_of_isBalanced h.2 0
  | .group header inner =>
    have hsep : IsBalanced "\n\n" := by decide
    rw [texts, List.forall_mem_cons] at h
    rw [write, IsBalanced, depthBehind?_write_block h.1, foldlM_indentLines ho]
    exact hsep.intercalate (isBalanced_writeAll ho inner h.2)

theorem isBalanced_writeAll (ho : IsBalanced o.indent) (ls : List Layout)
    (h : ∀ t ∈ textsIn ls, IsBalanced t) : ∀ t ∈ writeAll o ls, IsBalanced t := by
  match ls with
  | [] =>
    rw [writeAll]
    exact List.forall_mem_nil _
  | l :: ls =>
    rw [textsIn, List.forall_mem_append] at h
    rw [writeAll, List.forall_mem_cons]
    exact ⟨isBalanced_write ho l h.1, isBalanced_writeAll ho ls h.2⟩

end

/-- Whether all headers and declarations of blocks are balanced. -/
def AreBalanced (ls : List Layout) : Prop := ∀ t ∈ textsIn ls, IsBalanced t

variable {ls ms : List Layout} {header : Text}

theorem AreBalanced.nil : AreBalanced [] := List.forall_mem_nil _

theorem AreBalanced.append (hl : AreBalanced ls) (hm : AreBalanced ms) :
    AreBalanced (ls ++ ms) := by
  rw [AreBalanced, textsIn_append, List.forall_mem_append]
  exact ⟨hl, hm⟩

theorem AreBalanced.ofDeclarations {declarations : List Text} (hheader : IsBalanced header)
    (h : ∀ d ∈ declarations, IsBalanced d) :
    AreBalanced (Layout.ofDeclarations header declarations) := by
  rw [Layout.ofDeclarations]
  split
  · exact .nil
  · rw [AreBalanced, textsIn, textsIn, List.append_nil, texts, List.forall_mem_cons]
    exact ⟨hheader, h⟩

theorem AreBalanced.ofInner (hheader : IsBalanced header) (h : AreBalanced ls) :
    AreBalanced (Layout.ofInner header ls) := by
  rw [Layout.ofInner]
  split
  · exact .nil
  · rw [AreBalanced, textsIn, textsIn, List.append_nil, texts, List.forall_mem_cons]
    exact ⟨hheader, h⟩

end Layout

/-! ## Trees -/

namespace Style

open Layout

mutual

/-- The keys, the selectors of markers and the formatted values of a tree. -/
def texts : Style → List Text
  | property v => v.css?.toList
  | rules entries => textsIn entries
  | nested selectors styles => markerTexts selectors ++ texts styles

/-- Those of the entries of a level. -/
def textsIn : List (Scalar × Style) → List Text
  | [] => []
  | (k, style) :: entries => k.display :: (texts style ++ textsIn entries)

end

theorem texts_rules (entries : List (Scalar × Style)) :
    texts (.rules entries) = textsIn entries := by
  rw [texts]

theorem textsIn_append (e₁ e₂ : List (Scalar × Style)) :
    textsIn (e₁ ++ e₂) = textsIn e₁ ++ textsIn e₂ := by
  induction e₁ with
  | nil => rfl
  | cons entry e₁ ih =>
    obtain ⟨k, style⟩ := entry
    rw [List.cons_append, textsIn, textsIn, ih, List.cons_append, List.append_assoc]

variable {o : Options}

theorem isBalanced_declarations (ho : IsBalanced o.indent) (entries : List (Scalar × Style))
    (h : ∀ t ∈ textsIn entries, IsBalanced t) : ∀ d ∈ declarations o entries, IsBalanced d := by
  have hcolon : IsBalanced ": " := by decide
  have hsemicolon : IsBalanced ";" := by decide
  induction entries with
  | nil => exact List.forall_mem_nil _
  | cons entry entries ih =>
    obtain ⟨k, style⟩ := entry
    rw [textsIn, List.forall_mem_cons, List.forall_mem_append] at h
    obtain ⟨hk, hstyle, hentries⟩ := h
    cases style with
    | property v =>
      rw [texts] at hstyle
      rw [declarations_property, List.forall_mem_append]
      refine ⟨fun d hd => ?_, ih hentries⟩
      obtain ⟨text, htext, rfl⟩ := Option.map_eq_some_iff.mp (Option.mem_toList.mp hd)
      have hvalue := hstyle text (Option.mem_toList.mpr htext)
      exact (((ho.append (isBalanced_kebab hk)).append hcolon).append hvalue).append hsemicolon
    | rules inner => exact ih hentries
    | nested selectors styles => exact ih hentries

mutual

theorem areBalanced_layoutsBelow {parent : Text} (ho : IsBalanced o.indent)
    (hparent : IsBalanced parent) (style : Style) (h : ∀ t ∈ texts style, IsBalanced t) :
    AreBalanced (layoutsBelow o parent style) := by
  match style with
  | .property _ | .nested _ _ => exact .nil
  | .rules entries =>
    rw [texts] at h
    rw [layoutsBelow]
    exact (AreBalanced.ofDeclarations hparent (isBalanced_declarations ho entries h)).append
      (areBalanced_layouts ho hparent entries h)

theorem areBalanced_layouts {parent : Text} (ho : IsBalanced o.indent)
    (hparent : IsBalanced parent) (entries : List (Scalar × Style))
    (h : ∀ t ∈ textsIn entries, IsBalanced t) : AreBalanced (layouts o parent entries) := by
  match entries with
  | [] => exact .nil
  | (k, style) :: entries =>
    rw [textsIn, List.forall_mem_cons, List.forall_mem_append] at h
    obtain ⟨hk, hstyle, hentries⟩ := h
    rw [layouts]
    exact (areBalanced_layoutsOf ho hk hparent style hstyle).append
      (areBalanced_layouts ho hparent entries hentries)

theorem areBalanced_layoutsOf {key parent : Text} (ho : IsBalanced o.indent) (hkey : IsBalanced key)
    (hparent : IsBalanced parent) (style : Style) (h : ∀ t ∈ texts style, IsBalanced t) :
    AreBalanced (layoutsOf o key parent style) := by
  match style with
  | .property _ => exact .nil
  | .nested selectors styles =>
    rw [texts, List.forall_mem_append] at h
    rw [layoutsOf]
    split
    · exact .nil
    · exact areBalanced_layoutsBelow ho (Selector.isBalanced_combined h.1 hparent) styles h.2
  | .rules entries =>
    rw [texts] at h
    have hdeclarations := isBalanced_declarations ho entries h
    have hlevel {selector : Text} (hs : IsBalanced selector) : AreBalanced
        (ofDeclarations selector (declarations o entries) ++ layouts o selector entries) :=
      (AreBalanced.ofDeclarations hs hdeclarations).append (areBalanced_layouts ho hs entries h)
    rw [layoutsOf, Placement.ofKey]
    cases hheader : AtRule.header? o.themeKeys key with
    | none => exact hlevel (Selector.isBalanced_nest hkey hparent)
    | some header =>
      have hh := isBalanced_header hkey hheader
      dsimp only
      rw [Placement.ofHeader]
      by_cases halone : parent = [] ∨ AtRule.isStatement header = true
      · rw [if_pos halone]
        have hinner : AreBalanced (layouts o [] entries) :=
          areBalanced_layouts ho (IsBalanced.of_not_mem List.not_mem_nil List.not_mem_nil) entries h
        exact (AreBalanced.ofDeclarations hh hdeclarations).append (hinner.ofInner hh)
      · rw [if_neg halone]
        exact (hlevel hparent).ofInner hh

end

/-- **A tree of balanced texts is compiled to a balanced text.** -/
theorem isBalanced_compile {parent : Text} {style : Style} {css : Text} (ho : IsBalanced o.indent)
    (hparent : IsBalanced parent) (h : ∀ t ∈ texts style, IsBalanced t)
    (hcss : compile o parent style = .ok css) : IsBalanced css := by
  have hsep : IsBalanced "\n\n" := by decide
  rw [compile_eq_ok o parent style hcss, joinBlocks, ← writeAll_eq_map]
  exact hsep.intercalate (isBalanced_writeAll ho _ (areBalanced_layoutsBelow ho hparent style h))

end Style

end ThemedCss
