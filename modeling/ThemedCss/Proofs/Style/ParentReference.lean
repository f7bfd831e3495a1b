import ThemedCss.Proofs.Selector.Split
import ThemedCss.Proofs.Sheet.Blocks
import ThemedCss.Proofs.Style.Flattening

/-!
# References to the parent selector

In a key or a marker's selector, `&` stands for the parent. It is resolved as the first code point
alone: the selectors below hold every other one as it is.

* `Selector.mem_nest_iff`, `Selector.mem_combined_iff`: which selectors hold a reference;
* `Step.keepsReference`, `Place.mem_walk?_iff`: whether the steps of a path leave one;
* `Layout.mem_joinBlocks_iff`: written blocks hold a reference when one of their texts does;
* `Selector.split_nest_reference`: the first part of a list that starts with a reference is put
  behind every part of the parent;
* **`mem_compile_iff`**: a compiled tree holds a reference exactly when the steps to one of its
  written properties leave one.
-/

namespace ThemedCss

/-! ## Selectors -/

namespace Selector

variable {key parent : Text} {ts : List Text} {c : Char}

theorem exists_mem_pieces_iff (hc : c ≠ ',') (depth : Nat) (s : Text) :
    (∃ p ∈ pieces depth s, c ∈ p) ↔ c ∈ s := by
  constructor
  · rintro ⟨p, hp, h⟩
    exact mem_of_mem_pieces hp h
  intro h
  induction s generalizing depth with
  | nil => cases h
  | cons d s ih =>
    rw [pieces]
    rcases List.mem_cons.mp h with rfl | h
    · rw [if_neg fun hd => hc hd.1]
      obtain ⟨p, ps, hps⟩ := List.exists_cons_of_ne_nil (pieces_ne_nil (depthAfter depth c) s)
      rw [hps]
      exact ⟨c :: p, List.mem_cons_self, List.mem_cons_self⟩
    · split
      · obtain ⟨p, hp, hcp⟩ := ih depth h
        exact ⟨p, List.mem_cons_of_mem _ hp, hcp⟩
      · obtain ⟨p, hp, hcp⟩ := ih (depthAfter depth d) h
        cases hps : pieces (depthAfter depth d) s with
        | nil => exact absurd hps (pieces_ne_nil _ s)
        | cons q qs =>
          rw [hps] at hp
          rcases List.mem_cons.mp hp with rfl | hp
          · exact ⟨d :: p, List.mem_cons_self, List.mem_cons_of_mem d hcp⟩
          · exact ⟨p, List.mem_cons_of_mem _ hp, hcp⟩

theorem exists_mem_split_iff (hc : c ≠ ',') (hblank : Text.isBlank c = false) (s : Text) :
    (∃ p ∈ split s, c ∈ p) ↔ c ∈ s := by
  rw [← exists_mem_pieces_iff hc 0 s]
  constructor
  · rintro ⟨p, hp, h⟩
    obtain ⟨q, hq, rfl⟩ := List.mem_map.mp (List.mem_filter.mp hp).1
    exact ⟨q, hq, Text.mem_of_mem_strip h⟩
  · rintro ⟨q, hq, h⟩
    have hstrip : c ∈ Text.strip q := by
      obtain ⟨a, b, hab, ha, hb⟩ := Text.exists_eq_append_strip q
      rw [hab, List.mem_append, List.mem_append] at h
      rcases h with (h | h) | h
      · rw [ha c h] at hblank
        cases hblank
      · exact h
      · rw [hb c h] at hblank
        cases hblank
    refine ⟨Text.strip q, List.mem_filter.mpr ⟨List.mem_map_of_mem hq, ?_⟩, hstrip⟩
    exact decide_eq_true (List.ne_nil_of_mem hstrip)

/-- Whether a key is a list that stands for itself, whatever the parent is. -/
def replaces (key : Text) : Bool := key.head? ≠ some '&' && isList key

theorem mem_iff_of_head_ne (h : key.head? ≠ some '&') : '&' ∈ key ↔ '&' ∈ key.tail := by
  cases key with
  | nil => rfl
  | cons d key =>
    refine List.mem_cons.trans (or_iff_right ?_)
    rintro rfl
    exact h rfl

theorem mem_join_iff : '&' ∈ join key parent ↔ '&' ∈ key.tail ∨ '&' ∈ parent := by
  unfold join
  split
  · rw [List.mem_append]
    exact Or.comm
  · rename_i d rest hd
    have hkey : '&' ∈ d :: rest ↔ '&' ∈ (d :: rest).tail :=
      mem_iff_of_head_ne fun h => hd (Option.some.inj h)
    split
    · rw [List.mem_append, hkey]
      exact Or.comm
    · have hspace : '&' ∈ ' ' :: d :: rest ↔ '&' ∈ d :: rest :=
        List.mem_cons.trans (or_iff_right (by decide))
      rw [List.mem_append, hspace, hkey]
      exact Or.comm
  · split
    · rename_i hparent
      rw [hparent]
      exact (or_self_iff).symm
    · have hspace : '&' ∉ ([' '] : Text) := by decide
      rw [List.mem_append, or_iff_left hspace]
      exact (or_iff_right List.not_mem_nil).symm

/-- The selector of a key has a reference that stands behind the key's first code point, or that of
the parent unless the key stands for itself. -/
theorem mem_create_iff (hkey : AtRule.isHeader key = false) :
    '&' ∈ create key parent ↔ '&' ∈ key.tail ∨ '&' ∈ parent ∧ replaces key = false := by
  have hat : ¬ key.head? = some '@' := of_decide_eq_false hkey
  rw [create, if_neg hat]
  by_cases hhead : key.head? = some '&'
  · have hreplaces : replaces key = false := by
      rw [replaces, decide_eq_false (not_not_intro hhead), Bool.false_and]
    rw [if_pos hhead, mem_join_iff, and_iff_left hreplaces]
  · have hreplaces : replaces key = isList key := by
      rw [replaces, decide_eq_true hhead, Bool.true_and]
    rw [if_neg hhead, hreplaces]
    by_cases hlist : isList key = true
    · rw [if_pos hlist, mem_iff_of_head_ne hhead, hlist]
      exact (or_iff_left fun h => Bool.noConfusion h.2).symm
    · rw [if_neg hlist, mem_join_iff, and_iff_left (Bool.eq_false_iff.mpr hlist)]

theorem mem_nest_iff (hkey : AtRule.isHeader key = false) :
    '&' ∈ nest key parent ↔ '&' ∈ key.tail ∨ '&' ∈ parent ∧ replaces key = false := by
  rw [nest]
  split
  · rename_i hlist
    have hne : split parent ≠ [] := by
      intro hnil
      rw [isList, hnil] at hlist
      exact absurd hlist (by decide)
    obtain ⟨p, hp⟩ := List.exists_mem_of_ne_nil _ hne
    rw [Text.mem_intercalate_iff (by decide), ← exists_mem_split_iff (by decide) (by decide) parent]
    constructor
    · rintro ⟨_, ht, h⟩
      obtain ⟨q, hq, rfl⟩ := List.mem_map.mp ht
      exact (mem_create_iff hkey).mp h |>.imp_right fun h => ⟨⟨q, hq, h.1⟩, h.2⟩
    · rintro (h | ⟨⟨q, hq, h⟩, hreplaces⟩)
      · exact ⟨_, List.mem_map_of_mem hp, (mem_create_iff hkey).mpr (.inl h)⟩
      · exact ⟨_, List.mem_map_of_mem hq, (mem_create_iff hkey).mpr (.inr ⟨h, hreplaces⟩)⟩
  · exact mem_create_iff hkey

/-- The selectors of a marker have a reference that stands behind the first code point of one, or
that of the parent. -/
theorem mem_combined_iff (hne : combined ts parent ≠ []) :
    '&' ∈ List.intercalate ", " (combined ts parent) ↔
      (∃ t ∈ ts, '&' ∈ t.tail) ∨ '&' ∈ parent := by
  obtain ⟨s, hs⟩ := List.exists_mem_of_ne_nil _ hne
  obtain ⟨part, hpart, hs⟩ := List.mem_flatMap.mp hs
  obtain ⟨key, hkey, -⟩ := List.mem_map.mp hs
  have hparts : (∃ p ∈ (if parent = [] then [[]] else split parent), '&' ∈ p) ↔ '&' ∈ parent := by
    split
    · rename_i hparent
      rw [hparent]
      constructor
      · rintro ⟨p, hp, h⟩
        rwa [List.mem_singleton.mp hp] at h
      · intro h
        exact ⟨[], List.mem_singleton_self _, h⟩
    · exact exists_mem_split_iff (by decide) (by decide) parent
  rw [Text.mem_intercalate_iff (by decide), combined, ← hparts]
  simp only [List.mem_flatMap, List.mem_map]
  constructor
  · rintro ⟨_, ⟨p, hp, t, ht, rfl⟩, h⟩
    rcases mem_join_iff.mp h with h | h
    · exact .inl ⟨t, ht, h⟩
    · exact .inr ⟨p, hp, h⟩
  · rintro (⟨t, ht, h⟩ | ⟨p, hp, h⟩)
    · exact ⟨join t part, ⟨part, hpart, t, ht, rfl⟩, mem_join_iff.mpr (.inl h)⟩
    · exact ⟨join key p, ⟨p, hp, key, hkey, rfl⟩, mem_join_iff.mpr (.inr h)⟩

theorem exists_strip_cons {c : Char} (hc : Text.isBlank c = false) (t : Text) :
    ∃ r u, Text.strip (c :: t) = c :: r ∧ t = r ++ u ∧ ∀ d ∈ u, Text.isBlank d = true := by
  obtain ⟨s, u, heq, hs, hu⟩ := Text.exists_eq_append_strip (c :: t)
  obtain rfl : s = [] := by
    refine List.eq_nil_iff_forall_not_mem.mpr ?_
    cases s with
    | nil => exact fun _ => List.not_mem_nil
    | cons d s =>
      obtain ⟨rfl, -⟩ := List.cons.inj heq
      rw [hs c List.mem_cons_self] at hc
      cases hc
  have hne : Text.strip (c :: t) ≠ [] := Text.strip_ne_nil_iff.mpr ⟨c, List.mem_cons_self, hc⟩
  obtain ⟨d, r, hr⟩ := List.exists_cons_of_ne_nil hne
  rw [hr] at heq
  obtain ⟨rfl, ht⟩ := List.cons.inj heq
  exact ⟨r, u, hr, ht, hu⟩

/-- **The first part of a list that starts with a reference** is put behind every part of the
parent; its other parts are copied as they are. -/
theorem split_nest_reference {rest : Text} (hkey : IsSound ('&' :: rest)) (hp : IsSound parent) :
    ∃ first others, split ('&' :: rest) = ('&' :: first) :: others ∧
      split (nest ('&' :: rest) parent) =
        (split parent).flatMap fun part => (part ++ first) :: others := by
  obtain ⟨piece, pieces', hpieces⟩ := List.exists_cons_of_ne_nil (pieces_ne_nil 0 rest)
  have hpiecesKey : pieces 0 ('&' :: rest) = ('&' :: piece) :: pieces' := by
    rw [pieces, if_neg (by decide), show depthAfter 0 '&' = 0 from rfl, hpieces]
    rfl
  obtain ⟨first, blanks, hfirst, rfl, hblanks⟩ := exists_strip_cons (c := '&') (by decide) piece
  refine ⟨first, pieces'.map Text.strip, ?_, ?_⟩
  · rw [hkey.split_eq, hpiecesKey, List.map_cons, hfirst]
  rw [split_nest hkey hp]
  refine List.flatMap_congr fun part hpart => ?_
  have hpart := hp.isPart_of_mem_split hpart
  have hcreate : create ('&' :: rest) part = part ++ rest := rfl
  have hsound := hkey.create hpart
  rw [hcreate] at hsound ⊢
  have hfull : Text.strip (part ++ first) = part ++ first := by
    obtain ⟨hhead, hlast⟩ := Text.strip_eq_self_iff.mp hpart.strip_eq
    obtain ⟨-, hlast'⟩ := Text.strip_eq_self_iff.mp (Text.strip_strip ('&' :: (first ++ blanks)))
    refine Text.strip_eq_self_iff.mpr ⟨?_, ?_⟩
    · obtain ⟨c, r, rfl⟩ := List.exists_cons_of_ne_nil hpart.ne_nil
      exact hhead
    · intro c hc
      rw [List.getLast?_append] at hc
      rcases Option.or_eq_some_iff.mp hc with hc | ⟨-, hc⟩
      · refine hlast' c ?_
        rw [hfirst]
        exact List.getLast?_eq_some_iff.mpr <| by
          obtain ⟨r, hr⟩ := List.getLast?_eq_some_iff.mp hc
          exact ⟨'&' :: r, congrArg ('&' :: ·) hr⟩
      · exact hlast c hc
  rw [hsound.split_eq, pieces_append hpart.pieces_eq, hpart.closed, hpieces, foldr_consHead,
    List.map_cons, ← List.append_assoc, Text.strip_append_blanks hblanks, hfull]

end Selector

namespace Style

variable {o : Options} {themeKeys : ThemeKeys} {place next : Place}
  {entries : List (Scalar × Style)}

/-! ## Steps -/

/-- Whether the selector below a step holds a reference, given whether the parent does. -/
def Step.keepsReference (themeKeys : ThemeKeys) (before : Bool) : Step → Bool
  | .key fragment =>
    match AtRule.header? themeKeys fragment with
    | some header => before && !AtRule.isStatement header
    | none => decide ('&' ∈ fragment.tail) || before && !Selector.replaces fragment
  | .marker selectors => selectors.any (fun t => '&' ∈ t.tail) || before

theorem isHeader_of_header?_eq_none {key : Text} (h : AtRule.header? themeKeys key = none) :
    AtRule.isHeader key = false := by
  rw [AtRule.header?] at h
  split at h
  · cases h
  · exact Bool.eq_false_iff.mpr ‹_›

theorem Place.mem_step?_iff {s : Step} (h : place.step? themeKeys s = some next) :
    '&' ∈ next.parent ↔ s.keepsReference themeKeys (decide ('&' ∈ place.parent)) = true := by
  cases s with
  | key key =>
    rw [step?] at h
    rw [Step.keepsReference]
    cases hheader : AtRule.header? themeKeys key with
    | none =>
      rw [hheader] at h
      obtain rfl := Option.some.inj h
      rw [Bool.or_eq_true, Bool.and_eq_true, decide_eq_true_eq, decide_eq_true_eq,
        Bool.not_eq_true']
      exact Selector.mem_nest_iff (isHeader_of_header?_eq_none hheader)
    | some header =>
      rw [hheader] at h
      dsimp only at h ⊢
      by_cases hstands : place.parent = [] ∨ AtRule.isStatement header = true
      · rw [if_pos hstands] at h
        obtain rfl := Option.some.inj h
        refine iff_of_false List.not_mem_nil ?_
        rcases hstands with hparent | hstatement
        · rw [hparent]
          exact Bool.false_ne_true
        · rw [hstatement, Bool.not_true, Bool.and_false]
          exact Bool.false_ne_true
      · rw [if_neg hstands] at h
        obtain rfl := Option.some.inj h
        have hstatement := Bool.eq_false_iff.mpr (not_or.mp hstands).2
        rw [hstatement, Bool.not_false, Bool.and_true, decide_eq_true_eq]
  | marker selectors =>
    rw [step?] at h
    by_cases hnil : Selector.combined selectors place.parent = []
    · rw [if_pos hnil] at h
      cases h
    · rw [if_neg hnil] at h
      obtain rfl := Option.some.inj h
      simp only [Step.keepsReference, Bool.or_eq_true, List.any_eq_true, decide_eq_true_eq]
      exact Selector.mem_combined_iff hnil

/-- **The parent behind some steps holds a reference** when these leave one. -/
theorem Place.mem_walk?_iff {path : List Step} (h : place.walk? themeKeys path = some next) :
    '&' ∈ next.parent ↔
      path.foldl (Step.keepsReference themeKeys) (decide ('&' ∈ place.parent)) = true := by
  induction path generalizing place with
  | nil =>
    obtain rfl := Option.some.inj h
    exact decide_eq_true_iff.symm
  | cons s path ih =>
    rw [walk?, List.foldlM_cons] at h
    obtain ⟨between, hstep, hpath⟩ := Option.bind_eq_some_iff.mp h
    have hbetween : decide ('&' ∈ between.parent) =
        s.keepsReference themeKeys (decide ('&' ∈ place.parent)) :=
      Bool.eq_iff_iff.mpr (decide_eq_true_iff.trans (mem_step?_iff hstep))
    rw [ih hpath, hbetween, List.foldl_cons]

end Style

/-! ## Blocks -/

namespace Layout

variable {ls ms : List Layout} {header : Text} {declarations : List Text} {c : Char}

/-- Whether a header or a declaration of blocks holds a reference. -/
def HasReference (ls : List Layout) : Prop := ∃ t ∈ textsIn ls, '&' ∈ t

theorem not_hasReference_nil : ¬ HasReference [] := fun ⟨_, ht, _⟩ => List.not_mem_nil ht

theorem hasReference_append :
    HasReference (ls ++ ms) ↔ HasReference ls ∨ HasReference ms := by
  simp only [HasReference, textsIn_append, List.mem_append, or_and_right, exists_or]

theorem hasReference_ofDeclarations (h : ∀ d ∈ declarations, '&' ∉ d) :
    HasReference (ofDeclarations header declarations) ↔ declarations ≠ [] ∧ '&' ∈ header := by
  rw [ofDeclarations]
  split
  · rename_i hnil
    exact iff_of_false not_hasReference_nil fun hd => hd.1 hnil
  · rename_i hne
    rw [and_iff_right hne, HasReference, textsIn, textsIn, List.append_nil, texts]
    constructor
    · rintro ⟨t, ht, hmem⟩
      rcases List.mem_cons.mp ht with rfl | ht
      · exact hmem
      · exact absurd hmem (h t ht)
    · intro hmem
      exact ⟨header, List.mem_cons_self, hmem⟩

theorem hasReference_ofInner (h : '&' ∉ header) :
    HasReference (ofInner header ls) ↔ HasReference ls := by
  rw [ofInner]
  split
  · rename_i hnil
    rw [hnil]
  · rw [HasReference, textsIn, textsIn, List.append_nil, texts]
    constructor
    · rintro ⟨t, ht, hmem⟩
      rcases List.mem_cons.mp ht with rfl | ht
      · exact absurd hmem h
      · exact ⟨t, ht, hmem⟩
    · rintro ⟨t, ht, hmem⟩
      exact ⟨t, List.mem_cons_of_mem header ht, hmem⟩

theorem mem_write_block_iff {body : List Text} :
    '&' ∈ Block.write header body ↔ '&' ∈ header ∨ ∃ l ∈ body, '&' ∈ l := by
  have hopening : '&' ∈ Block.opening header ↔ '&' ∈ header := by
    have hbrace : '&' ∉ (" \x7b" : Text) := by decide
    rw [Block.opening]
    split
    · rename_i hnil
      rw [hnil]
      exact iff_of_false (by decide) List.not_mem_nil
    · rw [List.mem_append, or_iff_left hbrace]
  have hclosing : '&' ∉ Block.closing := by decide
  rw [Block.write, Text.unlines, Text.mem_intercalate_iff (by decide), Block.lines,
    List.cons_append, ← hopening]
  constructor
  · rintro ⟨l, hl, hmem⟩
    rcases List.mem_cons.mp hl with rfl | hl
    · exact .inl hmem
    · rcases List.mem_append.mp hl with hl | hl
      · exact .inr ⟨l, hl, hmem⟩
      · rw [List.mem_singleton.mp hl] at hmem
        exact absurd hmem hclosing
  · rintro (hmem | ⟨l, hl, hmem⟩)
    · exact ⟨_, List.mem_cons_self, hmem⟩
    · exact ⟨l, List.mem_cons_of_mem _ (List.mem_append_left _ hl), hmem⟩

theorem exists_mem_indentLines_iff {indent : Text} (hindent : '&' ∉ indent) (body : Text) :
    (∃ l ∈ Style.indentLines indent body, '&' ∈ l) ↔ '&' ∈ body := by
  rw [← Text.exists_mem_lines_iff (by decide) body, Style.indentLines]
  constructor
  · rintro ⟨_, hline, hmem⟩
    obtain ⟨l, hl, rfl⟩ := List.mem_map.mp hline
    refine ⟨l, hl, ?_⟩
    split at hmem
    · cases hmem
    · exact (List.mem_append.mp hmem).resolve_left hindent
  · rintro ⟨l, hl, hmem⟩
    refine ⟨indent ++ l, List.mem_map.mpr ⟨l, hl, if_neg (List.ne_nil_of_mem hmem)⟩, ?_⟩
    exact List.mem_append_right _ hmem

mutual

theorem mem_write_iff {o : Style.Options} (ho : '&' ∉ o.indent) (l : Layout) :
    '&' ∈ l.write o ↔ ∃ t ∈ l.texts, '&' ∈ t := by
  match l with
  | .rule header declarations =>
    rw [write, texts, mem_write_block_iff, List.exists_mem_cons_iff]
  | .group header inner =>
    rw [write, texts, mem_write_block_iff, List.exists_mem_cons_iff, exists_mem_indentLines_iff ho,
      Style.joinBlocks, Text.mem_intercalate_iff (by decide), mem_writeAll_iff ho inner]
    rfl

theorem mem_writeAll_iff {o : Style.Options} (ho : '&' ∉ o.indent) (ls : List Layout) :
    (∃ t ∈ writeAll o ls, '&' ∈ t) ↔ HasReference ls := by
  match ls with
  | [] => rfl
  | l :: ls =>
    rw [writeAll, List.exists_mem_cons_iff, mem_write_iff ho l, mem_writeAll_iff ho ls,
      ← List.singleton_append, hasReference_append]
    simp only [HasReference, textsIn, List.append_nil]

end

/-- **Written blocks hold a reference when one of their texts does.** -/
theorem mem_joinBlocks_iff {o : Style.Options} (ho : '&' ∉ o.indent) (ls : List Layout) :
    '&' ∈ Style.joinBlocks (ls.map (write o)) ↔ HasReference ls := by
  rw [Style.joinBlocks, Text.mem_intercalate_iff (by decide), ← writeAll_eq_map,
    mem_writeAll_iff ho]

end Layout

namespace Style

open Layout

variable {o : Options} {entries : List (Scalar × Style)} {place : Place}

/-! ## Properties -/

namespace Property

variable {themeKeys : ThemeKeys} {p : Property}

/-- The text that declares a property, if it has one. -/
def declaration? (o : Options) (p : Property) : Option Text :=
  p.value.css?.map (Block.declaration o.indent (Text.kebab p.name))

/-- A property without a reference in its name, its value and the at-rules around it. -/
structure IsFree (p : Property) : Prop where
  name : '&' ∉ p.name
  value : ∀ text ∈ p.value.css?, '&' ∉ text
  headers : ∀ key, .key key ∈ p.path → AtRule.isHeader key = true → '&' ∉ key

/-- Whether a property is written below a selector with a reference. -/
def Refers (themeKeys : ThemeKeys) (place : Place) (p : Property) : Prop :=
  p.value.css?.isSome = true ∧
    ∃ next, place.walk? themeKeys p.path = some next ∧ '&' ∈ next.parent

theorem IsFree.of_below {s : Step} (h : (p.below s).IsFree) : p.IsFree where
  name := h.name
  value := h.value
  headers key hkey := h.headers key (List.mem_cons_of_mem s hkey)

theorem refers_below {s : Step} : (p.below s).Refers themeKeys place ↔
    ∃ next, place.step? themeKeys s = some next ∧ p.Refers themeKeys next := by
  have hwalk : place.walk? themeKeys (p.below s).path =
      (place.step? themeKeys s).bind fun next => next.walk? themeKeys p.path := List.foldlM_cons
  simp only [Refers, hwalk, Option.bind_eq_some_iff]
  constructor
  · rintro ⟨hvalue, last, ⟨next, hstep, hlast⟩, hmem⟩
    exact ⟨next, hstep, hvalue, last, hlast, hmem⟩
  · rintro ⟨next, hstep, hvalue, last, hlast, hmem⟩
    exact ⟨hvalue, last, ⟨next, hstep, hlast⟩, hmem⟩

theorem exists_refers_below {s : Step} (ps : List Property) :
    (∃ p ∈ ps.map (below s), p.Refers themeKeys place) ↔
      ∃ next, place.step? themeKeys s = some next ∧ ∃ p ∈ ps, p.Refers themeKeys next := by
  constructor
  · rintro ⟨_, hbelow, hrefers⟩
    obtain ⟨p, hp, rfl⟩ := List.mem_map.mp hbelow
    obtain ⟨next, hstep, hrefers⟩ := refers_below.mp hrefers
    exact ⟨next, hstep, p, hp, hrefers⟩
  · rintro ⟨next, hstep, p, hp, hrefers⟩
    exact ⟨_, List.mem_map_of_mem hp, refers_below.mpr ⟨next, hstep, hrefers⟩⟩

theorem IsFree.declaration (h : p.IsFree) (ho : '&' ∉ o.indent) {d : Text}
    (hd : d ∈ p.declaration? o) : '&' ∉ d := by
  obtain ⟨text, htext, rfl⟩ := Option.map_eq_some_iff.mp hd
  have hname : '&' ∉ Text.kebab p.name := by
    have hsmall : ∀ n < 26, '&' ≠ Char.ofNat (65 + n + 32) := by decide
    intro hmem
    rcases Text.mem_of_mem_kebab hmem with hc | hc | ⟨n, hn, hc⟩
    · exact absurd hc (by decide)
    · exact h.name hc
    · exact hsmall n hn hc
  have hcolon : '&' ∉ (": " : Text) := by decide
  have hsemicolon : '&' ∉ (";" : Text) := by decide
  simp only [Block.declaration, List.mem_append, not_or]
  exact ⟨⟨⟨⟨ho, hname⟩, hcolon⟩, h.value text htext⟩, hsemicolon⟩

end Property

theorem declarations_eq (o : Options) (entries : List (Scalar × Style)) :
    declarations o entries = (ownProperties entries).filterMap (Property.declaration? o) := by
  rw [declarations, ownProperties, List.filterMap_filterMap]
  refine congrArg (entries.filterMap ·) (funext ?_)
  rintro ⟨k, style⟩
  cases style <;> rfl

/-! ## Trees -/

theorem declarations_free (ho : '&' ∉ o.indent) (h : ∀ p ∈ ownProperties entries, p.IsFree) :
    ∀ d ∈ declarations o entries, '&' ∉ d := by
  intro d hd
  rw [declarations_eq] at hd
  obtain ⟨p, hp, hd⟩ := List.mem_filterMap.mp hd
  exact (h p hp).declaration ho hd

theorem hasReference_declarations (ho : '&' ∉ o.indent)
    (h : ∀ p ∈ ownProperties entries, p.IsFree) :
    HasReference (ofDeclarations place.parent (declarations o entries)) ↔
      ∃ p ∈ ownProperties entries, p.Refers o.themeKeys place := by
  rw [hasReference_ofDeclarations (declarations_free ho h), declarations_eq]
  have hpath : ∀ p ∈ ownProperties entries, p.path = [] := by
    intro p hp
    obtain ⟨⟨k, style⟩, -, hp⟩ := List.mem_filterMap.mp hp
    cases style with
    | property v =>
      obtain rfl := Option.some.inj hp
      rfl
    | rules inner => cases hp
    | nested selectors styles => cases hp
  constructor
  · rintro ⟨hne, hmem⟩
    obtain ⟨d, hd⟩ := List.exists_mem_of_ne_nil _ hne
    obtain ⟨p, hp, hd⟩ := List.mem_filterMap.mp hd
    obtain ⟨text, htext, -⟩ := Option.map_eq_some_iff.mp hd
    refine ⟨p, hp, by rw [htext]; rfl, place, ?_, hmem⟩
    rw [hpath p hp]
    rfl
  · rintro ⟨p, hp, hvalue, next, hnext, hmem⟩
    rw [hpath p hp] at hnext
    obtain rfl := Option.some.inj hnext
    obtain ⟨text, htext⟩ := Option.isSome_iff_exists.mp hvalue
    have hdeclared : p.declaration? o =
        some (Block.declaration o.indent (Text.kebab p.name) text) := congrArg (Option.map _) htext
    exact ⟨List.ne_nil_of_mem (List.mem_filterMap.mpr ⟨p, hp, hdeclared⟩), hmem⟩

theorem header_free {themeKeys : ThemeKeys} {key header : Text}
    (h : AtRule.header? themeKeys key = some header)
    (hkey : AtRule.isHeader key = true → '&' ∉ key) : '&' ∉ header := by
  rw [AtRule.header?] at h
  by_cases hheader : AtRule.isHeader key = true
  · rw [if_pos hheader] at h
    obtain rfl := Option.some.inj h
    exact hkey hheader
  · rw [if_neg hheader, Option.ite_none_right_eq_some] at h
    obtain ⟨⟨-, hmode⟩, h⟩ := h
    obtain ⟨m, hm⟩ := Option.isSome_iff_exists.mp hmode
    obtain ⟨rfl, -⟩ := Mode.ofThemeKey?_eq_some.mp hm
    obtain rfl := Option.some.inj h
    cases m <;> decide

mutual

theorem layoutsBelow_eq_nil (o : Options) (parent : Text) (style : Style)
    (h : properties style = []) : layoutsBelow o parent style = [] := by
  match style with
  | .property _ | .nested _ _ => rfl
  | .rules entries =>
    rw [properties, List.append_eq_nil_iff] at h
    rw [layoutsBelow, declarations_eq, h.1, layouts_eq_nil o parent entries h.2]
    rfl

theorem layouts_eq_nil (o : Options) (parent : Text) (entries : List (Scalar × Style))
    (h : innerProperties entries = []) : layouts o parent entries = [] := by
  match entries with
  | [] => rfl
  | (k, style) :: entries =>
    rw [innerProperties, List.append_eq_nil_iff] at h
    rw [layouts, layoutsOf_eq_nil o k.display parent style h.1, layouts_eq_nil o parent entries h.2]
    rfl

theorem layoutsOf_eq_nil (o : Options) (key parent : Text) (style : Style)
    (h : propertiesUnder key style = []) : layoutsOf o key parent style = [] := by
  match style with
  | .property _ => rfl
  | .nested selectors styles =>
    rw [propertiesUnder, List.map_eq_nil_iff] at h
    rw [layoutsOf]
    split
    · rfl
    · exact layoutsBelow_eq_nil o _ styles h
  | .rules entries =>
    rw [propertiesUnder, List.map_eq_nil_iff, List.append_eq_nil_iff] at h
    have hinner (selector : Text) : layouts o selector entries = [] :=
      layouts_eq_nil o selector entries h.2
    rw [layoutsOf]
    split
    all_goals
      rw [declarations_eq, h.1, hinner]
      rfl

end

theorem hasReference_nil {q : Property → Prop} : HasReference [] ↔ ∃ p ∈ [], q p :=
  iff_of_false not_hasReference_nil fun ⟨_, hp, _⟩ => List.not_mem_nil hp

theorem hasReference_level (ho : '&' ∉ o.indent)
    (hfree : ∀ p ∈ ownProperties entries ++ innerProperties entries, p.IsFree)
    (hinner : HasReference (layouts o place.parent entries) ↔
      ∃ p ∈ innerProperties entries, p.Refers o.themeKeys place) :
    HasReference (ofDeclarations place.parent (declarations o entries) ++
        layouts o place.parent entries) ↔
      ∃ p ∈ ownProperties entries ++ innerProperties entries, p.Refers o.themeKeys place := by
  rw [hasReference_append, hasReference_declarations ho (List.forall_mem_append.mp hfree).1, hinner]
  simp only [List.mem_append, or_and_right, exists_or]

/-- The blocks of a level in an at-rule hold a reference when a property of the level stands below one,
if this is so for the blocks of the level wherever it stands. -/
theorem hasReference_ofHeader (ho : '&' ∉ o.indent) {key header : Text}
    (hheader : AtRule.header? o.themeKeys key = some header)
    (h : ∀ p ∈ propertiesUnder key (.rules entries), p.IsFree)
    (hlevel : ∀ next : Place, HasReference (ofDeclarations next.parent (declarations o entries) ++
        layouts o next.parent entries) ↔
      ∃ p ∈ ownProperties entries ++ innerProperties entries, p.Refers o.themeKeys next) :
    HasReference (layoutsOf o key place.parent (.rules entries)) ↔
      ∃ p ∈ propertiesUnder key (.rules entries), p.Refers o.themeKeys place := by
  by_cases hnone : propertiesUnder key (.rules entries) = []
  · rw [layoutsOf_eq_nil o key place.parent (.rules entries) hnone, hnone]
    exact hasReference_nil
  obtain ⟨p, hp⟩ := List.exists_mem_of_ne_nil _ hnone
  rw [propertiesUnder] at h hp ⊢
  have hheaderFree : '&' ∉ header := by
    obtain ⟨p, -, rfl⟩ := List.mem_map.mp hp
    exact header_free hheader ((h _ hp).headers key List.mem_cons_self)
  rw [Property.exists_refers_below, layoutsOf, Placement.ofKey, Place.step?, hheader]
  dsimp only
  rw [Placement.ofHeader]
  by_cases hstands : place.parent = [] ∨ AtRule.isStatement header = true
  · rw [if_pos hstands, if_pos hstands]
    simp only [Option.some.injEq, exists_eq_left']
    rw [← hlevel ⟨place.within ++ [header], place.within ++ [header], []⟩]
    have hdeclarations : ∀ d ∈ declarations o entries, '&' ∉ d := declarations_free ho fun p hp =>
      (h _ (List.mem_map_of_mem (List.mem_append_left _ hp))).of_below
    rw [hasReference_append, hasReference_append, hasReference_ofDeclarations hdeclarations,
      hasReference_ofDeclarations hdeclarations, hasReference_ofInner hheaderFree]
    have hnowhere : '&' ∉ ([] : Text) := List.not_mem_nil
    simp only [hheaderFree, hnowhere, and_false]
  · rw [if_neg hstands, if_neg hstands]
    simp only [Option.some.injEq, exists_eq_left', hasReference_ofInner hheaderFree]
    exact hlevel
      ⟨place.within ++ [header, place.parent], place.within ++ [header], place.parent⟩

mutual

theorem hasReference_layoutsBelow (ho : '&' ∉ o.indent) (place : Place) (style : Style)
    (h : ∀ p ∈ properties style, p.IsFree) :
    HasReference (layoutsBelow o place.parent style) ↔
      ∃ p ∈ properties style, p.Refers o.themeKeys place := by
  match style with
  | .property _ | .nested _ _ => exact hasReference_nil
  | .rules entries =>
    rw [properties] at h ⊢
    rw [layoutsBelow]
    exact hasReference_level ho h
      (hasReference_layouts ho place entries (List.forall_mem_append.mp h).2)

theorem hasReference_layouts (ho : '&' ∉ o.indent) (place : Place)
    (entries : List (Scalar × Style)) (h : ∀ p ∈ innerProperties entries, p.IsFree) :
    HasReference (layouts o place.parent entries) ↔
      ∃ p ∈ innerProperties entries, p.Refers o.themeKeys place := by
  match entries with
  | [] => exact hasReference_nil
  | (k, style) :: entries =>
    rw [innerProperties, List.forall_mem_append] at h
    rw [layouts, hasReference_append, hasReference_layoutsOf ho k.display place style h.1,
      hasReference_layouts ho place entries h.2, innerProperties]
    simp only [List.mem_append, or_and_right, exists_or]

theorem hasReference_layoutsOf (ho : '&' ∉ o.indent) (key : Text) (place : Place) (style : Style)
    (h : ∀ p ∈ propertiesUnder key style, p.IsFree) :
    HasReference (layoutsOf o key place.parent style) ↔
      ∃ p ∈ propertiesUnder key style, p.Refers o.themeKeys place := by
  match style with
  | .property _ => exact hasReference_nil
  | .nested selectors styles =>
    rw [propertiesUnder] at h ⊢
    have hfree : ∀ p ∈ properties styles, p.IsFree :=
      fun p hp => (h _ (List.mem_map_of_mem hp)).of_below
    rw [Property.exists_refers_below, layoutsOf, Place.step?]
    by_cases hnil : Selector.combined (markerTexts selectors) place.parent = []
    · rw [if_pos hnil, if_pos hnil]
      refine iff_of_false not_hasReference_nil ?_
      rintro ⟨_, hnext, -⟩
      cases hnext
    · rw [if_neg hnil, if_neg hnil]
      simp only [Option.some.injEq, exists_eq_left']
      exact hasReference_layoutsBelow ho ⟨_, _, _⟩ styles hfree
  | .rules entries =>
    have hfree : ∀ p ∈ ownProperties entries ++ innerProperties entries, p.IsFree :=
      fun p hp => (h _ (List.mem_map_of_mem hp)).of_below
    have hlevel := fun next : Place => hasReference_level ho hfree
      (hasReference_layouts ho next entries (List.forall_mem_append.mp hfree).2)
    cases hheader : AtRule.header? o.themeKeys key with
    | none =>
      rw [propertiesUnder, Property.exists_refers_below, layoutsOf, Placement.ofKey, Place.step?,
        hheader]
      simp only [Option.some.injEq, exists_eq_left']
      exact hlevel ⟨_, _, _⟩
    | some header => exact hasReference_ofHeader ho hheader h hlevel

end

theorem foldl_keepsReference_eq_false {themeKeys : ThemeKeys} {path : List Step}
    (h : ∀ s ∈ path, s.keepsReference themeKeys false = false) :
    path.foldl (Step.keepsReference themeKeys) false = false := by
  induction path with
  | nil => rfl
  | cons s path ih =>
    rw [List.foldl_cons, h s List.mem_cons_self]
    exact ih fun s hs => h s (List.mem_cons_of_mem _ hs)

/-- **A compiled tree holds a reference exactly when the steps to one of its written properties
leave one**: one behind the first code point of a key or of a marker's selector, which no list that
stands for itself and no at-rule without a parent replaces further down. Steps that leave none one
by one make a text without references. Of a list that starts with a reference only the first part
is resolved. -/
theorem mem_compile_iff {o : Options} {parent : Text} {style : Style} (ho : '&' ∉ o.indent)
    (hparent : '&' ∉ parent) (hfree : ∀ p ∈ properties style, p.IsFree) :
    (∀ css, compile o parent style = .ok css →
      ('&' ∈ css ↔ ∃ p ∈ properties style, p.value.css?.isSome = true ∧
        ((Place.start parent).walk? o.themeKeys p.path).isSome = true ∧
        p.path.foldl (Step.keepsReference o.themeKeys) false = true) ∧
      ((∀ p ∈ properties style, ∀ s ∈ p.path, s.keepsReference o.themeKeys false = false) →
        '&' ∉ css)) ∧
    ∀ rest, Selector.IsSound ('&' :: rest) → Selector.IsSound parent →
      ∃ first others, Selector.split ('&' :: rest) = ('&' :: first) :: others ∧
        Selector.split (Selector.nest ('&' :: rest) parent) =
          (Selector.split parent).flatMap fun part => (part ++ first) :: others := by
  refine ⟨fun css hcss => ?_, fun rest => Selector.split_nest_reference⟩
  have hstart : decide ('&' ∈ (Place.start parent).parent) = false := decide_eq_false hparent
  have hiff : '&' ∈ css ↔ ∃ p ∈ properties style, p.value.css?.isSome = true ∧
      ((Place.start parent).walk? o.themeKeys p.path).isSome = true ∧
      p.path.foldl (Step.keepsReference o.themeKeys) false = true := by
    rw [compile_eq_ok o parent style hcss, mem_joinBlocks_iff ho]
    refine (hasReference_layoutsBelow ho (.start parent) style hfree).trans ?_
    constructor
    · rintro ⟨p, hp, hvalue, next, hnext, hmem⟩
      rw [Place.mem_walk?_iff hnext, hstart] at hmem
      exact ⟨p, hp, hvalue, by rw [hnext]; rfl, hmem⟩
    · rintro ⟨p, hp, hvalue, hwalk, hkeeps⟩
      obtain ⟨next, hnext⟩ := Option.isSome_iff_exists.mp hwalk
      refine ⟨p, hp, hvalue, next, hnext, ?_⟩
      rwa [Place.mem_walk?_iff hnext, hstart]
  refine ⟨hiff, fun hsteps hmem => ?_⟩
  obtain ⟨p, hp, -, -, hkeeps⟩ := hiff.mp hmem
  rw [foldl_keepsReference_eq_false (hsteps p hp)] at hkeeps
  cases hkeeps

/-- The colour of what is pointed at or has the focus. -/
def pointedStyle : Style :=
  .rules [(.text "&:hover, &:focus", .rules [(.text "color", .property (.scalar (.text "red")))])]

theorem mem_compile_iff_pointed :
    '&' ∉ ({} : Options).indent ∧ '&' ∉ ("nav, main" : Text) ∧
    (∀ p ∈ properties pointedStyle, p.IsFree) ∧
    (∃ css, compile {} "nav, main" pointedStyle = .ok css ∧ '&' ∈ css) ∧
    Selector.split (Selector.nest "&:hover, &:focus" "nav, main") =
      [("nav:hover" : Text), "&:focus", "main:hover", "&:focus"] := by
  have hfree : ∀ p ∈ properties pointedStyle, p.IsFree := by
    intro p hp
    rw [show properties pointedStyle = [⟨[.key "&:hover, &:focus"], "color", .scalar (.text "red")⟩]
      from rfl] at hp
    obtain rfl := List.mem_singleton.mp hp
    refine ⟨by decide, ?_, ?_⟩
    · intro text htext
      cases htext
      decide
    · intro key hkey hheader
      cases List.mem_singleton.mp hkey
      cases hheader
  have hkey : Selector.IsSound "&:hover, &:focus" := ⟨by decide, by decide, by decide +kernel⟩
  have hparent : Selector.IsSound "nav, main" := ⟨by decide, by decide, by decide +kernel⟩
  obtain ⟨hcompile, hlist⟩ := @mem_compile_iff {} "nav, main" pointedStyle (by decide)
    (by decide) hfree
  refine ⟨by decide, by decide, hfree, ?_, ?_⟩
  · have hcss : compile {} "nav, main" pointedStyle =
        .ok "nav:hover, &:focus, main:hover, &:focus \x7b\n  color: red;\n\x7d" := by
      decide +kernel
    refine ⟨_, hcss, (hcompile _ hcss).1.mpr ⟨_, List.mem_cons_self, rfl, ?_, ?_⟩⟩
    all_goals decide +kernel
  · obtain ⟨first, others, hsplit, hnest⟩ := hlist ":hover, &:focus" hkey hparent
    have hparts : Selector.split "&:hover, &:focus" = [("&:hover" : Text), "&:focus"] := by
      decide +kernel
    obtain ⟨hfirst, rfl⟩ := List.cons.inj (hparts.symm.trans hsplit)
    obtain rfl : (":hover" : Text) = first := (List.cons.inj hfirst).2
    refine hnest.trans ?_
    decide +kernel

/-- **A reference may be left**: below `a`, the second part of `&:hover, &:focus` stays as it is,
though all references stand at the front of a part. -/
theorem compile_pointed :
    '&' ∉ ("a" : Text) ∧ (∀ part ∈ Selector.split "&:hover, &:focus", '&' ∉ part.tail) ∧
    (∀ themeKeys, compile { themeKeys := themeKeys } "a" pointedStyle =
      .ok "a:hover, &:focus \x7b\n  color: red;\n\x7d") ∧
    '&' ∈ ("a:hover, &:focus \x7b\n  color: red;\n\x7d" : Text) := by
  refine ⟨by decide, by decide +kernel, ?_, by decide⟩
  intro themeKeys
  cases themeKeys <;> decide +kernel

end Style

end ThemedCss
