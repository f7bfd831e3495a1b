import ThemedCss.Proofs.Sheet.Flat
import ThemedCss.Session

/-!
# How a style sheet ends

Every style sheet ends with a line feed, whatever its variables and rules are. Tidying up blank lines
keeps the last one, and merging puts it there again or leaves the lines as they are.

* `getLast?_collapse`: tidying up;
* `flatMap_lines_pieces`: the pieces of a style sheet lose none of its lines;
* `getLast?_merge`: merging;
* **`getLast?_sheet`**: a style sheet of a session.
-/

namespace ThemedCss.Sheet

variable {css : Text}

/-! ## Tidying up -/

theorem getLast?_collapseFrom (before : Nat) (t : Text) :
    (collapseFrom before (t ++ ['\n'])).getLast? = some '\n' ∨
      2 ≤ before ∧ collapseFrom before (t ++ ['\n']) = [] := by
  induction t generalizing before with
  | nil =>
    by_cases hb : before < 2
    · left
      simp [collapseFrom, hb]
    · right
      exact ⟨Nat.le_of_not_lt hb, by simp [collapseFrom, hb]⟩
  | cons c t ih =>
    rw [List.cons_append, collapseFrom]
    by_cases hc : c = '\n'
    · rw [if_pos hc]
      by_cases hb : before < 2
      · rw [if_pos hb, List.getLast?_cons, hc]
        left
        rcases ih (before + 1) with h | ⟨-, h⟩
        · rw [h]
          rfl
        · rw [h]
          rfl
      · rw [if_neg hb]
        exact ih before
    · rw [if_neg hc, List.getLast?_cons]
      left
      rcases ih 0 with h | ⟨h, -⟩
      · rw [h]
        rfl
      · exact absurd h (by decide)

theorem getLast?_collapse (h : css.getLast? = some '\n') :
    (collapse css).getLast? = some '\n' := by
  obtain ⟨t, rfl⟩ := List.getLast?_eq_some_iff.mp h
  rcases getLast?_collapseFrom 0 t with h | ⟨h, -⟩
  · exact h
  · exact absurd h (by decide)

/-! ## Merging -/

theorem selectorOf?_eq_some {line selector : Text} (h : selectorOf? line = some selector) :
    line = Block.opening selector := by
  unfold selectorOf? at h
  cases hp : ("\x7b ".toList).isPrefixOf? line.reverse with
  | none =>
    rw [hp] at h
    cases h
  | some reversed =>
    rw [hp] at h
    have hline : line = reversed.reverse ++ " \x7b" := by
      have hreverse := congrArg List.reverse (List.isPrefixOf?_eq_some_iff_append_eq.mp hp)
      rw [List.reverse_reverse, List.reverse_append] at hreverse
      exact hreverse.symm
    dsimp only at h
    split at h
    · cases h
    rename_i c t hselector
    split at h
    · cases h
    obtain rfl := Option.some.inj h
    rw [hline, hselector, Block.opening, if_neg (List.cons_ne_nil c t)]

theorem rule?_eq_some {line selector : Text} {ls body rest : List Text}
    (h : rule? line ls = some (selector, body, rest)) :
    line :: ls = Block.lines selector body ++ rest := by
  unfold rule? at h
  split at h
  · rename_i hs hb
    cases h
    rw [selectorOf?_eq_some hs, body?_eq_append hb, Block.lines, List.cons_append,
      List.append_assoc]
    rfl
  · cases h

/-- The lines of a piece as it stands. -/
def Piece.lines : Piece → List Text
  | rule selector body => Block.lines selector body
  | line text => [text]

/-- **The pieces of a style sheet lose none of its lines.** -/
theorem flatMap_lines_pieces (ls : List Text) : (pieces ls).flatMap Piece.lines = ls := by
  fun_induction pieces ls with
  | case1 => rfl
  | case2 line ls selector body rest h _ ih =>
    rw [List.flatMap_cons, ih, rule?_eq_some h]
    rfl
  | case3 line ls h ih =>
    rw [List.flatMap_cons, ih]
    rfl

theorem mergedLines_eq_flatMap {all : List Piece} {ps : List Piece}
    (h : ∀ p ∈ ps, ∀ body ∈ p.body?, isShared body all = false) (merged : List (List Text)) :
    mergedLines all merged ps = ps.flatMap Piece.lines := by
  induction ps generalizing merged with
  | nil => rfl
  | cons p ps ih =>
    rw [mergedLines, List.flatMap_cons, ih fun q hq => h q (List.mem_cons_of_mem p hq)]
    cases p with
    | line text => rfl
    | rule selector body =>
      have hlines : linesOf all merged (.rule selector body) = Block.lines selector body := by
        refine if_pos ?_
        cases hbody : (Piece.rule selector body).body? with
        | none => exact .inl rfl
        | some b =>
          have hb : b = body := by
            rw [Piece.body?] at hbody
            split at hbody
            · cases hbody
            · exact (Option.some.inj hbody).symm
          right
          rw [← hb, h _ List.mem_cons_self b hbody]
          rfl
      rw [hlines]
      rfl

theorem getLast?_merge (h : css.getLast? = some '\n') : (merge css).getLast? = some '\n' := by
  unfold merge
  dsimp only
  split
  · exact List.getLast?_concat
  · rename_i hnone
    have hunshared : ∀ p ∈ pieces (Text.lines css), ∀ body ∈ p.body?,
        isShared body (pieces (Text.lines css)) = false := by
      intro p hp body hbody
      refine Bool.eq_false_iff.mpr fun hshared => hnone ⟨h, ?_⟩
      refine List.any_eq_true.mpr ⟨p, hp, ?_⟩
      rw [Option.mem_def.mp hbody]
      exact hshared
    rw [mergedLines_eq_flatMap hunshared, flatMap_lines_pieces, Text.unlines_lines]
    exact getLast?_collapse h

end ThemedCss.Sheet

namespace ThemedCss.Session

/-- **A style sheet of a session ends with a line feed.** -/
theorem getLast?_sheet (s : Session) (includeStyles : Bool) :
    (s.sheet includeStyles).getLast? = some '\n' := by
  have hassembled : (Sheet.assemble (s.sheetOptions includeStyles) s.registry.store
      s.chunks).getLast? = some '\n' := List.getLast?_concat
  unfold sheet
  dsimp only
  split
  · exact Sheet.getLast?_merge hassembled
  · exact Sheet.getLast?_collapse hassembled

end ThemedCss.Session
