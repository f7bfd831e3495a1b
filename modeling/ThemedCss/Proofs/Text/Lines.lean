import ThemedCss.Sheet.Merge

/-!
# Lines with content

The lines of a text that are not empty. Blank lines stand between rules for the eye only, and
tidying them up leaves the other lines alone.

* `Text.mem_of_mem_intercalate`: joining texts brings nothing new but the separator;
* `Text.lines_append`: a line feed separates lines;
* `Text.contentLines`: the lines that are not empty;
* `Text.contentLines_collapse`, `Text.contentLines_dropLastFeeds`: tidying up keeps them;
* `Block.lines_write`: the lines of a written block.
-/

namespace ThemedCss.Text

/-! ## All lines -/

theorem mem_of_mem_intercalate {c : Char} {separator : Text} {ts : List Text}
    (h : c ∈ List.intercalate separator ts) : c ∈ separator ∨ ∃ t ∈ ts, c ∈ t := by
  induction ts with
  | nil => cases h
  | cons t ts ih =>
    cases ts with
    | nil =>
      rw [List.intercalate_singleton] at h
      exact .inr ⟨t, List.mem_cons_self, h⟩
    | cons u us =>
      rw [List.intercalate_cons_of_ne_nil (List.cons_ne_nil u us)] at h
      rcases List.mem_append.mp h with h | h
      · rcases List.mem_append.mp h with h | h
        · exact .inr ⟨t, List.mem_cons_self, h⟩
        · exact .inl h
      · rcases ih h with h | ⟨v, hv, h⟩
        · exact .inl h
        · exact .inr ⟨v, List.mem_cons_of_mem t hv, h⟩

theorem mem_intercalate_iff {c : Char} {separator : Text} (hc : c ∉ separator) {ts : List Text} :
    c ∈ List.intercalate separator ts ↔ ∃ t ∈ ts, c ∈ t := by
  refine ⟨fun h => (mem_of_mem_intercalate h).resolve_left hc, ?_⟩
  rintro ⟨t, ht, hct⟩
  induction ts with
  | nil => cases ht
  | cons u us ih =>
    cases us with
    | nil =>
      rw [List.mem_singleton.mp ht] at hct
      rwa [List.intercalate_singleton]
    | cons v vs =>
      rw [List.intercalate_cons_of_ne_nil (List.cons_ne_nil v vs)]
      rcases List.mem_cons.mp ht with rfl | ht
      · exact List.mem_append_left _ (List.mem_append_left _ hct)
      · exact List.mem_append_right _ (ih ht)

theorem lines_append (s t : Text) : lines (s ++ '\n' :: t) = lines s ++ lines t := by
  induction s with
  | nil => rfl
  | cons c s ih =>
    by_cases hc : c = '\n'
    · rw [hc, List.cons_append, lines, if_pos rfl, ih, lines, if_pos rfl]
      rfl
    · rw [List.cons_append, lines, if_neg hc, ih, lines, if_neg hc,
        consHead_append c (lines_ne_nil s)]

theorem lines_of_not_mem {l : Text} (h : '\n' ∉ l) : lines l = [l] := by
  induction l with
  | nil => rfl
  | cons c l ih =>
    have hc : c ≠ '\n' := fun hc => h (hc ▸ List.mem_cons_self)
    rw [lines, if_neg hc, ih fun hl => h (List.mem_cons_of_mem c hl)]
    rfl

theorem exists_mem_lines_iff {c : Char} (hc : c ≠ '\n') (t : Text) :
    (∃ l ∈ lines t, c ∈ l) ↔ c ∈ t := by
  have hseparator : c ∉ ("\n" : Text) := mt List.mem_singleton.mp hc
  rw [← mem_intercalate_iff hseparator]
  exact iff_of_eq (congrArg (c ∈ ·) (unlines_lines t))

theorem feed_not_mem_of_mem_lines {t l : Text} (h : l ∈ lines t) : '\n' ∉ l := by
  induction t generalizing l with
  | nil =>
    rw [List.mem_singleton.mp h]
    exact List.not_mem_nil
  | cons c t ih =>
    rw [lines] at h
    split at h
    · rcases List.mem_cons.mp h with rfl | h
      · exact List.not_mem_nil
      · exact ih h
    · rename_i hc
      obtain ⟨m, ms, hm⟩ := List.exists_cons_of_ne_nil (lines_ne_nil t)
      rw [hm, consHead] at h
      rcases List.mem_cons.mp h with rfl | h
      · rintro (_ | ⟨_, hmem⟩)
        · exact hc rfl
        · exact ih (hm ▸ List.mem_cons_self) hmem
      · exact ih (hm ▸ List.mem_cons_of_mem m h)

theorem unlines_cons {ls : List Text} (h : ls ≠ []) (l : Text) :
    unlines (l :: ls) = l ++ '\n' :: unlines ls := by
  rw [unlines, List.intercalate_cons_of_ne_nil h, List.append_assoc]
  rfl

theorem lines_unlines {ls : List Text} (h : ∀ l ∈ ls, '\n' ∉ l) (hne : ls ≠ []) :
    lines (unlines ls) = ls := by
  induction ls with
  | nil => exact absurd rfl hne
  | cons l ls ih =>
    have hl : '\n' ∉ l := h l List.mem_cons_self
    cases ls with
    | nil => rw [unlines, List.intercalate_singleton, lines_of_not_mem hl]
    | cons m ls =>
      rw [unlines_cons (List.cons_ne_nil m ls), lines_append, lines_of_not_mem hl,
        ih (fun n hn => h n (List.mem_cons_of_mem l hn)) (List.cons_ne_nil m ls)]
      rfl

theorem lines_append_feeds (t : Text) (feeds : Nat) :
    lines (t ++ List.replicate feeds '\n') = lines t ++ List.replicate feeds [] := by
  induction feeds with
  | zero => rw [List.replicate_zero, List.append_nil, List.replicate_zero, List.append_nil]
  | succ n ih =>
    rw [List.replicate_succ', ← List.append_assoc, lines_append, ih, List.replicate_succ',
      List.append_assoc]
    rfl

/-! ## Lines that are not empty -/

/-- The lines of a text that are not empty. -/
def contentLines (t : Text) : List Text := (lines t).filter (· ≠ [])

@[simp] theorem contentLines_nil : contentLines [] = [] := rfl

theorem contentLines_append (s t : Text) :
    contentLines (s ++ '\n' :: t) = contentLines s ++ contentLines t := by
  rw [contentLines, lines_append, List.filter_append]
  rfl

theorem contentLines_of_not_mem {l : Text} (h : '\n' ∉ l) :
    contentLines l = if l = [] then [] else [l] := by
  rw [contentLines, lines_of_not_mem h]
  by_cases hl : l = [] <;> simp [hl]

theorem contentLines_concat_feed (t : Text) : contentLines (t ++ ['\n']) = contentLines t := by
  rw [contentLines_append, contentLines_nil, List.append_nil]

theorem contentLines_unlines (ls : List Text) :
    contentLines (unlines ls) = ls.flatMap contentLines := by
  induction ls with
  | nil => rfl
  | cons l ls ih =>
    cases ls with
    | nil => simp [unlines, List.intercalate_singleton]
    | cons m ls =>
      rw [unlines_cons (List.cons_ne_nil m ls), contentLines_append, ih]
      rfl

theorem contentLines_append_feeds (t : Text) (feeds : Nat) :
    contentLines (t ++ List.replicate feeds '\n') = contentLines t := by
  rw [contentLines, lines_append_feeds, List.filter_append, List.filter_replicate]
  exact List.append_nil _

/-- Lines with content are kept when blank lines collapse behind some text: behind two line feeds a
third one ends an empty line. -/
theorem contentLines_append_collapseFrom (before : Nat) (s t : Text)
    (hs : 2 ≤ before → ∃ r, s = r ++ ['\n']) :
    contentLines (s ++ Sheet.collapseFrom before t) = contentLines (s ++ t) := by
  induction t generalizing before s with
  | nil => rfl
  | cons c t ih =>
    by_cases hc : c = '\n'
    · subst hc
      by_cases hb : before < 2
      · rw [Sheet.collapseFrom, if_pos rfl, if_pos hb, List.append_cons, List.append_cons s '\n' t]
        exact ih _ _ fun _ => ⟨s, rfl⟩
      · rw [Sheet.collapseFrom, if_pos rfl, if_neg hb, ih _ _ hs, contentLines_append]
        obtain ⟨r, rfl⟩ := hs (Nat.not_lt.mp hb)
        rw [List.append_assoc, List.singleton_append, contentLines_append, contentLines_concat_feed]
    · rw [Sheet.collapseFrom, if_neg hc, List.append_cons, List.append_cons s c t]
      exact ih 0 _ fun h => absurd h (by decide)

theorem contentLines_collapse (t : Text) : contentLines (Sheet.collapse t) = contentLines t :=
  contentLines_append_collapseFrom 0 [] t fun h => absurd h (by decide)

theorem exists_eq_dropLastFeeds_append (t : Text) :
    ∃ feeds, t = Sheet.dropLastFeeds t ++ List.replicate feeds '\n' := by
  have hfeeds : ∀ c ∈ t.reverse.takeWhile (· = '\n'), c = '\n' := fun c hc =>
    of_decide_eq_true (List.all_eq_true.mp List.all_takeWhile c hc)
  refine ⟨(t.reverse.takeWhile (· = '\n')).length, ?_⟩
  rw [Sheet.dropLastFeeds, ← List.reverse_replicate, ← List.reverse_append,
    ← List.eq_replicate_of_mem hfeeds, List.takeWhile_append_dropWhile, List.reverse_reverse]

theorem contentLines_dropLastFeeds (t : Text) :
    contentLines (Sheet.dropLastFeeds t ++ "\n") = contentLines t := by
  obtain ⟨feeds, ht⟩ := exists_eq_dropLastFeeds_append t
  refine (contentLines_concat_feed _).trans ?_
  conv => rhs; rw [ht]
  exact (contentLines_append_feeds _ feeds).symm

end ThemedCss.Text

/-! ## The lines of a block -/

namespace ThemedCss.Block

variable {header : Text} {body : List Text}

theorem feed_not_mem_opening (h : '\n' ∉ header) : '\n' ∉ opening header := by
  rw [opening]
  split
  · decide
  · simpa using h

theorem feed_not_mem_lines (hh : '\n' ∉ header) (hb : ∀ l ∈ body, '\n' ∉ l) :
    ∀ l ∈ lines header body, '\n' ∉ l := by
  intro l hl
  rcases List.mem_cons.mp hl with rfl | hl
  · exact feed_not_mem_opening hh
  · rcases List.mem_append.mp hl with hl | hl
    · exact hb l hl
    · rw [List.mem_singleton.mp hl]
      decide

theorem lines_write (hh : '\n' ∉ header) (hb : ∀ l ∈ body, '\n' ∉ l) :
    Text.lines (write header body) = lines header body :=
  Text.lines_unlines (feed_not_mem_lines hh hb) (List.cons_ne_nil _ _)

end ThemedCss.Block
