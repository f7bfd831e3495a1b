import Mathlib.Data.List.Induction
import Mathlib.Data.List.Nodup
import ThemedCss.Proofs.Sheet.Cascade

/-!
# Flat style sheets

Style sheets of rules without blocks in their bodies, as merging reads them.

* `FlatRule`, `writeFlat`: such rules, and their style sheet;
* `FlatRule.Mergeable`, `Shared`: the rules that merging looks at, and the bodies that it merges;
* `Spread`: lines that hold rules, with blank lines between them;
* **`pieces_block_append`**, `FlatRule.pieces_lines_append`: the lines of a rule are read as that rule;
* `Spread.mem_sharing_pieces`: the selectors that share a body.
-/

namespace ThemedCss.Sheet

/-- A rule with a selector on one line that is no list, and a body of lines without braces. -/
structure FlatRule where
  /-- What the rule applies to. -/
  selector : Text
  /-- The lines of its body. -/
  declarations : List Text
  strip_selector : Text.strip selector = selector
  comma_not_mem : ',' ∉ selector
  feed_not_mem_selector : '\n' ∉ selector
  feed_not_mem : ∀ d ∈ declarations, '\n' ∉ d
  no_brace : ∀ d ∈ declarations, d.any Block.isBrace = false

namespace FlatRule

/-- The lines of a rule. -/
def lines (r : FlatRule) : List Text := Block.lines r.selector r.declarations

/-- What a rule says. -/
def rule (r : FlatRule) : Rule := ⟨[r.selector], r.declarations.filter (· ≠ [])⟩

/-- Whether merging looks at a rule: it has a body, and its header is neither that of an at-rule nor
holds a brace. -/
def Mergeable (r : FlatRule) : Prop :=
  r.declarations ≠ [] ∧ r.selector ≠ [] ∧ r.selector.head? ≠ some '@' ∧
    r.selector.any Block.isBrace = false

instance (r : FlatRule) : Decidable r.Mergeable := inferInstanceAs (Decidable (_ ∧ _ ∧ _ ∧ _))

/-- Whether merging looks at a rule with a body. -/
def Bears (body : List Text) (r : FlatRule) : Prop := r.Mergeable ∧ r.declarations = body

instance (body : List Text) (r : FlatRule) : Decidable (r.Bears body) :=
  inferInstanceAs (Decidable (_ ∧ _))

/-- The pieces that a rule is read as. -/
def pieces (r : FlatRule) : List Piece :=
  if r.Mergeable then [.rule r.selector r.declarations] else r.lines.map .line

end FlatRule

/-- The style sheet of some rules, with a blank line between them and a number of line feeds at the
end. -/
def writeFlat (rs : List FlatRule) (feeds : Nat) : Text :=
  List.intercalate "\n\n" (rs.map fun r => Text.unlines r.lines) ++ List.replicate feeds '\n'

/-- Whether two rules that merging looks at share a body, with different selectors. -/
def Shared (rs : List FlatRule) (body : List Text) : Prop :=
  ∃ q ∈ rs, ∃ r ∈ rs, q.Bears body ∧ r.Bears body ∧ q.selector ≠ r.selector

instance (rs : List FlatRule) (body : List Text) : Decidable (Shared rs body) :=
  inferInstanceAs (Decidable (∃ q ∈ rs, ∃ r ∈ rs, _))

/-! ## The lines of a flat style sheet -/

/-- Lines that hold rules, with blank lines between them. -/
inductive Spread : List FlatRule → List Text → Prop
  | nil : Spread [] []
  | blank {rs ls} : Spread rs ls → Spread rs ([] :: ls)
  | rule (r) {rs ls} : Spread rs ls → Spread (r :: rs) (r.lines ++ ls)

namespace FlatRule

variable (r : FlatRule)

theorem feed_not_mem_lines : ∀ l ∈ r.lines, '\n' ∉ l :=
  Block.feed_not_mem_lines r.feed_not_mem_selector r.feed_not_mem

theorem lines_unlines : Text.lines (Text.unlines r.lines) = r.lines :=
  Text.lines_unlines r.feed_not_mem_lines (List.cons_ne_nil _ _)

end FlatRule

theorem Spread.append_blanks {rs : List FlatRule} {ls : List Text} (h : Spread rs ls) (n : Nat) :
    Spread rs (ls ++ List.replicate n []) := by
  induction h with
  | nil =>
    induction n with
    | zero => exact .nil
    | succ n ih => exact ih.blank
  | blank _ ih => exact ih.blank
  | rule r _ ih =>
    rw [List.append_assoc]
    exact ih.rule r

theorem spread_writeFlat (rs : List FlatRule) (feeds : Nat) :
    Spread rs (Text.lines (writeFlat rs feeds)) := by
  rw [writeFlat, Text.lines_append_feeds]
  refine Spread.append_blanks ?_ feeds
  induction rs with
  | nil => exact Spread.nil.blank
  | cons r rs ih =>
    cases rs with
    | nil =>
      rw [List.map_singleton, List.intercalate_singleton, r.lines_unlines,
        ← List.append_nil r.lines]
      exact Spread.nil.rule r
    | cons q rs =>
      have hne : (q :: rs).map (fun r => Text.unlines r.lines) ≠ [] := List.cons_ne_nil _ _
      rw [List.map_cons, List.intercalate_cons_of_ne_nil hne, List.append_assoc]
      refine (congrArg (Spread (r :: q :: rs)) ?_).mpr (ih.blank.rule r)
      refine (Text.lines_append _ _).trans ?_
      rw [r.lines_unlines]
      rfl

/-! ## The pieces of a flat style sheet -/

theorem pieces_of_rule? {line selector : Text} {ls body rest : List Text}
    (h : rule? line ls = some (selector, body, rest)) :
    pieces (line :: ls) = .rule selector body :: pieces rest := by
  rw [pieces]
  split
  · rename_i h'
    rw [h] at h'
    cases h'
    rfl
  · rename_i h'
    rw [h] at h'
    cases h'

theorem pieces_of_rule?_eq_none {line : Text} {ls : List Text} (h : rule? line ls = none) :
    pieces (line :: ls) = .line line :: pieces ls := by
  rw [pieces]
  split
  · rename_i h'
    rw [h] at h'
    cases h'
  · rfl

theorem rule?_eq_none_of_selectorOf? {line : Text} (h : selectorOf? line = none) (ls : List Text) :
    rule? line ls = none := by
  rw [rule?, h]

theorem selectorOf?_eq_none_of_not_mem {line : Text} (h : '\x7b' ∉ line) :
    selectorOf? line = none := by
  have hp : ("\x7b ".toList).isPrefixOf? line.reverse = none := by
    refine Option.eq_none_iff_forall_ne_some.mpr fun r hr => h ?_
    have hmem : '\x7b' ∈ line.reverse := List.isPrefixOf?_eq_some_iff_append_eq.mp hr ▸ List.mem_cons_self
    exact List.mem_reverse.mp hmem
  rw [selectorOf?, hp]

theorem rule?_eq_none_of_not_mem {line : Text} (h : '\x7b' ∉ line) (ls : List Text) :
    rule? line ls = none :=
  rule?_eq_none_of_selectorOf? (selectorOf?_eq_none_of_not_mem h) ls

/-- Lines that open no rule are no pieces of rules. -/
theorem pieces_append_of_selectorOf? {ls : List Text} (h : ∀ l ∈ ls, selectorOf? l = none)
    (rest : List Text) : pieces (ls ++ rest) = ls.map .line ++ pieces rest := by
  induction ls with
  | nil => rfl
  | cons l ls ih =>
    rw [List.cons_append,
      pieces_of_rule?_eq_none (rule?_eq_none_of_selectorOf? (h l List.mem_cons_self) _),
      ih fun m hm => h m (List.mem_cons_of_mem l hm)]
    rfl

theorem selectorOf?_opening {selector : Text} (hs : ∀ c ∈ selector.head?, Text.isBlank c = false) :
    selectorOf? (Block.opening selector) =
      if selector ≠ [] ∧ selector.head? ≠ some '@' ∧ selector.any Block.isBrace = false then
        some selector
      else none := by
  cases selector with
  | nil => rfl
  | cons c t =>
    have hc : Text.isBlank c = false := hs c rfl
    have hp : ("\x7b ".toList).isPrefixOf? (Block.opening (c :: t)).reverse =
        some (c :: t).reverse := by
      rw [List.isPrefixOf?_eq_some_iff_append_eq, Block.opening, if_neg (List.cons_ne_nil c t),
        List.reverse_append]
      rfl
    rw [selectorOf?, hp]
    simp only [List.reverse_reverse]
    rw [← ite_not]
    refine if_congr ?_ rfl rfl
    rw [hc, List.head?_cons, not_or, not_or, Bool.not_eq_true, Bool.not_eq_true, ne_eq (some c),
      Option.some.injEq]
    exact and_congr_left fun _ => iff_of_true rfl (List.cons_ne_nil c t)

theorem body?_append_closing {body : List Text} (h : ∀ l ∈ body, l.any Block.isBrace = false)
    (ls : List Text) : body? (body ++ Block.closing :: ls) = some (body, ls) := by
  induction body with
  | nil => exact if_pos rfl
  | cons l body ih =>
    have hl := h l List.mem_cons_self
    rw [List.cons_append, body?, if_neg (ne_closing_of_no_brace hl), hl, if_neg Bool.false_ne_true,
      ih fun m hm => h m (List.mem_cons_of_mem l hm)]
    rfl

theorem selectorOf?_body {body : List Text} (h : ∀ l ∈ body, l.any Block.isBrace = false) :
    ∀ l ∈ body ++ [Block.closing], selectorOf? l = none := by
  intro l hl
  refine selectorOf?_eq_none_of_not_mem fun hmem => ?_
  rcases List.mem_append.mp hl with hl | hl
  · exact List.any_eq_false.mp (h l hl) _ hmem (by decide)
  · rw [List.mem_singleton.mp hl] at hmem
    exact absurd hmem (by decide)

/-- **The lines of a block whose header starts in the first column are read as a rule**, if it has a
body and its header can be a selector. -/
theorem pieces_block_append {header : Text} {body : List Text}
    (hs : ∀ c ∈ header.head?, Text.isBlank c = false)
    (hb : ∀ l ∈ body, l.any Block.isBrace = false) (ls : List Text) :
    pieces (Block.lines header body ++ ls) =
      (if body ≠ [] ∧ header ≠ [] ∧ header.head? ≠ some '@' ∧ header.any Block.isBrace = false then
        [.rule header body] else (Block.lines header body).map .line) ++ pieces ls := by
  have hbody := body?_append_closing hb ls
  have hlines : Block.lines header body ++ ls =
      Block.opening header :: (body ++ Block.closing :: ls) := by
    rw [Block.lines, List.append_assoc]
    rfl
  by_cases hm : body ≠ [] ∧ header ≠ [] ∧ header.head? ≠ some '@' ∧ header.any Block.isBrace = false
  · obtain ⟨d, ds, hds⟩ := List.exists_cons_of_ne_nil hm.1
    rw [if_pos hm, hlines]
    refine pieces_of_rule? ?_
    rw [rule?, selectorOf?_opening hs, if_pos hm.2, hbody, hds]
  · have hrule : rule? (Block.opening header) (body ++ Block.closing :: ls) = none := by
      rw [rule?, hbody, selectorOf?_opening hs]
      by_cases hh : header ≠ [] ∧ header.head? ≠ some '@' ∧ header.any Block.isBrace = false
      · have hd : body = [] := not_not.mp fun hd => hm ⟨hd, hh⟩
        rw [if_pos hh, hd]
      · rw [if_neg hh]
    rw [if_neg hm, hlines, pieces_of_rule?_eq_none hrule, List.append_cons,
      pieces_append_of_selectorOf? (selectorOf?_body hb)]
    rfl

theorem mergedLines_map_line (all : List Piece) (merged : List (List Text)) (ls : List Text)
    (ps : List Piece) :
    mergedLines all merged (ls.map .line ++ ps) = ls ++ mergedLines all merged ps := by
  induction ls with
  | nil => rfl
  | cons l ls ih =>
    rw [List.map_cons, List.cons_append, mergedLines]
    exact congrArg (l :: ·) ih

theorem FlatRule.pieces_lines_append (r : FlatRule) (ls : List Text) :
    Sheet.pieces (r.lines ++ ls) = r.pieces ++ Sheet.pieces ls :=
  pieces_block_append (Text.strip_eq_self_iff.mp r.strip_selector).1 r.no_brace ls

/-! ## The selectors that share a body -/

section Sharing

variable {body : List Text}

theorem sharing_concat (ps : List Piece) (p : Piece) :
    sharing body (ps ++ [p]) =
      match p with
      | .rule selector _ =>
        if p.body? = some body ∧ ¬ Text.strip selector ∈ sharing body ps then
          sharing body ps ++ [Text.strip selector]
        else sharing body ps
      | .line _ => sharing body ps := by
  rw [sharing, List.foldl_append]
  rfl

theorem mem_sharing {ps : List Piece} {t : Text} :
    t ∈ sharing body ps ↔ ∃ selector, .rule selector body ∈ ps ∧ ',' ∉ selector ∧
      Text.strip selector = t := by
  induction ps using List.reverseRecOn with
  | nil => simp [sharing]
  | append_singleton ps p ih =>
    rw [sharing_concat]
    cases p with
    | line text => simpa using ih
    | rule selector b =>
      have hp : (Piece.rule selector b).body? = some body ↔ ',' ∉ selector ∧ b = body := by
        rw [Piece.body?]
        split <;> simp_all
      have hsplit : (∃ s, .rule s body ∈ ps ++ [Piece.rule selector b] ∧ ',' ∉ s ∧
            Text.strip s = t) ↔
          t ∈ sharing body ps ∨ (',' ∉ selector ∧ b = body) ∧ Text.strip selector = t := by
        rw [ih]
        simp only [List.mem_append, List.mem_singleton, Piece.rule.injEq]
        constructor
        · rintro ⟨s, hs | ⟨rfl, rfl⟩, hcomma, ht⟩
          · exact .inl ⟨s, hs, hcomma, ht⟩
          · exact .inr ⟨⟨hcomma, rfl⟩, ht⟩
        · rintro (⟨s, hs, hcomma, ht⟩ | ⟨⟨hcomma, rfl⟩, ht⟩)
          · exact ⟨s, .inl hs, hcomma, ht⟩
          · exact ⟨selector, .inr ⟨rfl, rfl⟩, hcomma, ht⟩
      rw [hsplit]
      simp only [hp]
      split
      · rename_i h
        rw [List.mem_append, List.mem_singleton]
        exact or_congr_right ⟨fun ht => ⟨h.1, ht.symm⟩, fun ht => ht.2.symm⟩
      · rename_i h
        refine ⟨.inl, ?_⟩
        rintro (ht | ⟨hb, ht⟩)
        · exact ht
        · rw [← ht]
          exact not_not.mp fun hmem => h ⟨hb, hmem⟩

theorem nodup_sharing (body : List Text) (ps : List Piece) : (sharing body ps).Nodup := by
  induction ps using List.reverseRecOn with
  | nil => exact List.nodup_nil
  | append_singleton ps p ih =>
    rw [sharing_concat]
    cases p with
    | line text => exact ih
    | rule selector b =>
      dsimp only
      split
      · rename_i h
        rw [← List.concat_eq_append]
        exact List.Nodup.concat h.2 ih
      · exact ih

theorem isShared_iff (ps : List Piece) :
    isShared body ps = true ↔ ∃ s ∈ sharing body ps, ∃ t ∈ sharing body ps, s ≠ t := by
  have h := nodup_sharing body ps
  rw [isShared, decide_eq_true_eq]
  match sharing body ps, h with
  | [], _ => simp
  | [s], _ => simp
  | s :: t :: ts, h =>
    have hst : s ≠ t := fun hst => (List.nodup_cons.mp h).1 (hst ▸ List.mem_cons_self)
    exact iff_of_true (by simp) ⟨s, by simp, t, by simp, hst⟩

end Sharing

namespace Spread

variable {rs : List FlatRule} {ls body : List Text}

/-- The rules among the pieces are those that merging looks at. -/
theorem rule_mem_pieces (h : Spread rs ls) {selector : Text} :
    .rule selector body ∈ pieces ls ↔ ∃ r ∈ rs, r.Bears body ∧ r.selector = selector := by
  induction h with
  | nil => simp [pieces]
  | blank _ ih =>
    rw [pieces_of_rule?_eq_none (rule?_eq_none_of_not_mem List.not_mem_nil _), List.mem_cons, ih]
    exact or_iff_right Piece.noConfusion
  | rule r _ ih =>
    have hr : .rule selector body ∈ r.pieces ↔ r.Bears body ∧ r.selector = selector := by
      rw [FlatRule.pieces, FlatRule.Bears]
      split
      · rename_i hm
        rw [List.mem_singleton, Piece.rule.injEq]
        constructor
        · rintro ⟨rfl, rfl⟩
          exact ⟨⟨hm, rfl⟩, rfl⟩
        · rintro ⟨⟨_, rfl⟩, rfl⟩
          exact ⟨rfl, rfl⟩
      · rename_i hm
        exact iff_of_false (by simp) fun hr => hm hr.1.1
    rw [r.pieces_lines_append, List.mem_append, hr, ih, List.exists_mem_cons_iff]

theorem mem_sharing_pieces (h : Spread rs ls) {t : Text} :
    t ∈ sharing body (pieces ls) ↔ ∃ r ∈ rs, r.Bears body ∧ r.selector = t := by
  rw [mem_sharing]
  constructor
  · rintro ⟨selector, hmem, _, ht⟩
    obtain ⟨r, hr, hbears, hs⟩ := h.rule_mem_pieces.mp hmem
    refine ⟨r, hr, hbears, ?_⟩
    rw [← ht, ← hs, r.strip_selector]
  · rintro ⟨r, hr, hbears, rfl⟩
    have hmem := h.rule_mem_pieces.mpr ⟨r, hr, hbears, rfl⟩
    exact ⟨r.selector, hmem, r.comma_not_mem, r.strip_selector⟩

theorem isShared_pieces (h : Spread rs ls) : isShared body (pieces ls) = true ↔ Shared rs body := by
  rw [isShared_iff]
  constructor
  · rintro ⟨s, hs, t, ht, hst⟩
    obtain ⟨q, hq, hqb, rfl⟩ := h.mem_sharing_pieces.mp hs
    obtain ⟨r, hr, hrb, rfl⟩ := h.mem_sharing_pieces.mp ht
    exact ⟨q, hq, r, hr, hqb, hrb, hst⟩
  · rintro ⟨q, hq, r, hr, hqb, hrb, hst⟩
    exact ⟨q.selector, h.mem_sharing_pieces.mpr ⟨q, hq, hqb, rfl⟩,
      r.selector, h.mem_sharing_pieces.mpr ⟨r, hr, hrb, rfl⟩, hst⟩

end Spread

end ThemedCss.Sheet
