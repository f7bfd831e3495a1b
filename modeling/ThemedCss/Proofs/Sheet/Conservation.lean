import ThemedCss.Proofs.Sheet.Blocks

/-!
# What merging keeps of a style sheet

Merging reads the lines of a style sheet, takes rules out of them and tidies up the blank lines that
are left. On a style sheet of blocks it merges blocks.

* `pieces_flatMap`: the rules at the top level, and the lines of the other blocks;
* `sharing_eq_sharers`: the selectors that share a body;
* `mergedLines_pieces`: the lines that merging leaves of the blocks;
* **`merge_writeBlocks`**: a merged style sheet is the style sheet of the merged blocks;
* `filter_isAtRule_mergeBlocks`, `mem_mergeBlocks_or`: what merging keeps, and what becomes of a rule.
-/

namespace ThemedCss.Sheet

open Layout

variable {o : Style.Options} {b : Layout} {bs : List Layout}

/-! ## The pieces of a style sheet -/

theorem lines_writeBlocks (hne : bs ≠ []) :
    Text.lines (writeBlocks o bs) = bs.flatMap fun b => Text.lines (b.write o) ++ [[]] := by
  rw [writeBlocks, Text.lines_append]
  induction bs with
  | nil => exact absurd rfl hne
  | cons b bs ih =>
    cases bs with
    | nil => simp [Style.joinBlocks_singleton, Text.lines]
    | cons c cs =>
      have hcs : (c :: cs).map (Layout.write o) ≠ [] := List.cons_ne_nil _ _
      rw [List.map_cons, lines_joinBlocks_cons _ hcs, List.append_assoc, List.cons_append,
        ih (List.cons_ne_nil c cs)]
      simp [List.flatMap_cons]

/-- The pieces that blocks are read as, with an empty line behind each block. -/
def piecesIn (o : Style.Options) (bs : List Layout) : List Piece :=
  bs.flatMap fun b => b.pieces o ++ [.line []]

theorem piecesIn_cons (o : Style.Options) (b : Layout) (bs : List Layout) :
    piecesIn o (b :: bs) = b.pieces o ++ .line [] :: piecesIn o bs := by
  rw [piecesIn, List.flatMap_cons, List.append_assoc]
  rfl

theorem pieces_blank (ls : List Text) : pieces ([] :: ls) = .line [] :: pieces ls :=
  pieces_of_rule?_eq_none (rule?_eq_none_of_not_mem List.not_mem_nil _)

theorem pieces_flatMap (hindent : IsIndentation o.indent) (h : AreTidy bs) :
    pieces (bs.flatMap fun b => Text.lines (b.write o) ++ [[]]) = piecesIn o bs := by
  induction bs with
  | nil =>
    rw [List.flatMap_nil, pieces]
    rfl
  | cons b bs ih =>
    rw [List.flatMap_cons, List.append_assoc, pieces_write_append hindent h.head,
      List.singleton_append, pieces_blank, ih h.tail, piecesIn_cons]

/-! ## The selectors that share a body -/

/-- The selector of a rule with a body that merging compares. -/
def Piece.sharer? (body : List Text) : Piece → Option Text
  | rule selector b =>
    if (rule selector b).body? = some body then some (Text.strip selector) else none
  | line _ => none

theorem sharing_eq_eraseDups (body : List Text) (ps : List Piece) :
    sharing body ps = (ps.filterMap (Piece.sharer? body)).eraseDups := by
  induction ps using List.reverseRecOn with
  | nil => rfl
  | append_singleton ps p ih =>
    rw [sharing_concat, List.filterMap_append, List.eraseDups_append, ← ih]
    have hmem : ∀ t, t ∈ sharing body ps ↔ t ∈ ps.filterMap (Piece.sharer? body) := fun t => by
      rw [ih, List.mem_eraseDups]
    generalize ps.filterMap (Piece.sharer? body) = ts at hmem
    cases p with
    | line text =>
      have hp : [Piece.line text].filterMap (Piece.sharer? body) = [] := rfl
      rw [hp]
      exact (List.append_nil _).symm
    | rule selector b =>
      by_cases hb : (Piece.rule selector b).body? = some body
      · have hp : [Piece.rule selector b].filterMap (Piece.sharer? body) = [Text.strip selector] := by
          simp [Piece.sharer?, hb]
        rw [hp]
        by_cases hs : Text.strip selector ∈ ts
        · simp [List.removeAll, hmem, hs]
        · simp [List.removeAll, List.eraseDups_cons, hb, hmem, hs]
      · have hp : [Piece.rule selector b].filterMap (Piece.sharer? body) = [] := by
          simp [Piece.sharer?, hb]
        rw [hp]
        simp [List.removeAll, hb]

theorem filterMap_sharer?_pieces (b : Layout) (body : List Text) :
    (b.pieces o).filterMap (Piece.sharer? body) =
      if b.body? = some body then [Text.strip b.header] else [] := by
  have hlines : ∀ ls : List Text, (ls.map Piece.line).filterMap (Piece.sharer? body) = [] := by
    intro ls
    rw [List.filterMap_map]
    exact List.filterMap_eq_nil_iff.mpr fun _ _ => rfl
  cases b with
  | group header inner =>
    rw [Layout.pieces, hlines, if_neg (fun h => by cases h)]
  | rule header declarations =>
    by_cases hrule : IsSelector header ∧ declarations ≠ []
    · have hbody : (Layout.rule header declarations).body? = (Piece.rule header declarations).body? := by
        simp [Piece.body?, Layout.body?, hrule]
      rw [Layout.pieces, if_pos hrule, hbody]
      by_cases hb : (Piece.rule header declarations).body? = some body
      · simp [Piece.sharer?, hb, Layout.header]
      · simp [Piece.sharer?, hb]
    · have hnone : (Layout.rule header declarations).body? = none :=
        if_neg fun hb => hrule ⟨hb.1, hb.2.2⟩
      rw [Layout.pieces, if_neg hrule, hlines, hnone, if_neg (Option.some_ne_none body).symm]

/-- **The pieces of blocks have the selectors of the blocks.** -/
theorem sharing_eq_sharers (bs : List Layout) (body : List Text) :
    sharing body (piecesIn o bs) = sharers body bs := by
  rw [sharing_eq_eraseDups, sharers, piecesIn]
  congr 1
  induction bs with
  | nil => rfl
  | cons b bs ih =>
    rw [List.flatMap_cons, List.filterMap_append, List.filterMap_append,
      filterMap_sharer?_pieces, ih, List.filter_cons]
    by_cases hb : b.body? = some body
    · simp [hb, Piece.sharer?]
    · simp [hb, Piece.sharer?]

/-! ## The lines that merging leaves -/

/-- The lines of what merging leaves of a block: an empty one of a rule that is taken out. -/
def partLines (o : Style.Options) : Option Layout → List Text
  | none => [[]]
  | some b => Text.lines (b.write o)

theorem partLines_ne_nil (o : Style.Options) (p : Option Layout) : partLines o p ≠ [] := by
  cases p with
  | none => exact List.cons_ne_nil _ _
  | some b => exact Text.lines_ne_nil _

theorem unlines_partLines (o : Style.Options) (p : Option Layout) :
    Text.unlines (partLines o p) = (p.map (Layout.write o)).getD [] := by
  cases p with
  | none => rfl
  | some b => exact Text.unlines_lines _

theorem isInline_of_mem_sharers (h : AreTidy bs) {body : List Text} {t : Text}
    (ht : t ∈ sharers body bs) : IsInline t := by
  obtain ⟨b, hb, rfl⟩ := List.mem_map.mp (List.mem_eraseDups.mp ht)
  have hheader : b.header ∈ textsIn bs := by
    refine mem_textsIn.mpr ⟨b, (List.mem_filter.mp hb).1, ?_⟩
    cases b with
    | rule header declarations => exact List.mem_cons_self
    | group header inner => exact List.mem_cons_self
  exact (h.inline _ hheader).mono fun _ => Text.mem_of_mem_strip

theorem isInline_joined (h : AreTidy bs) (body : List Text) :
    IsInline (List.intercalate ", " (sharers body bs)) := by
  have hmem : ∀ c ∈ List.intercalate ", " (sharers body bs), c ≠ '\n' ∧ Block.isBrace c = false := by
    intro c hc
    rcases Text.mem_of_mem_intercalate hc with hc | ⟨t, ht, hc⟩
    · obtain rfl | rfl : c = ',' ∨ c = ' ' := by simpa using hc
      · decide
      · decide
    · obtain ⟨hfeed, hbrace⟩ := isInline_of_mem_sharers h ht
      refine ⟨?_, by simpa using List.any_eq_false.mp hbrace c hc⟩
      rintro rfl
      exact hfeed hc
  exact ⟨fun hc => (hmem _ hc).1 rfl, List.any_eq_false.mpr fun c hc => by simp [(hmem c hc).2]⟩

theorem leftOf_eq_some {all before : List Layout} {c : Layout} (hc : leftOf all before b = some c) :
    c = b ∨ ∃ header body, b = .rule header body ∧
      c = .rule (List.intercalate ", " (sharers body all)) body := by
  unfold leftOf at hc
  cases hb : b.body? with
  | none =>
    rw [hb] at hc
    exact .inl (Option.some.inj hc).symm
  | some body =>
    rw [hb] at hc
    dsimp only at hc
    split at hc
    · exact .inl (Option.some.inj hc).symm
    split at hc
    · cases hc
    cases b with
    | group header inner => cases hb
    | rule header declarations =>
      refine .inr ⟨header, declarations, rfl, ?_⟩
      have hbody : declarations = body := by
        rw [Layout.body?, Option.ite_none_right_eq_some] at hb
        exact Option.some.inj hb.2
      rw [hbody]
      exact (Option.some.inj hc).symm

theorem areTidy_of_leftOf {all before : List Layout} {c : Layout} (h : AreTidy all) (hb : b ∈ all)
    (hc : leftOf all before b = some c) : AreTidy [c] := by
  have hone := h.of_mem hb
  rcases leftOf_eq_some hc with rfl | ⟨header, body, rfl, rfl⟩
  · exact hone
  · refine ⟨?_, fun t ht => ?_⟩
    · cases hone.proper with
      | rule hd _ => exact .rule hd .nil
    · rw [textsIn, textsIn, List.append_nil] at ht
      rcases List.mem_cons.mp ht with rfl | ht
      · exact isInline_joined h body
      · exact hone.inline t (List.mem_append_left _ (List.mem_cons_of_mem _ ht))

theorem isTight_of_leftOf (hindent : '\n' ∉ o.indent) {all before : List Layout} (h : AreTidy all)
    (hb : b ∈ all) {c : Layout} (hc : leftOf all before b = some c) : Text.IsTight (c.write o) := by
  have hleft := areTidy_of_leftOf h hb hc
  exact isTight_write hindent hleft.proper hleft.inline

theorem partLines_rule {header : Text} {declarations : List Text} (h : AreTidy bs)
    (hb : .rule header declarations ∈ bs) :
    partLines o (some (.rule header declarations)) = Block.lines header declarations :=
  lines_write_rule fun t ht => (h.of_mem hb).inline t (List.mem_append_left _ ht)

theorem linesOf_rule {all before : List Layout} {header : Text} {declarations : List Text}
    (h : AreTidy all) (hb : .rule header declarations ∈ all)
    (hrule : IsSelector header ∧ declarations ≠ []) {merged : List (List Text)}
    (hmerged : ∀ body, body ∈ merged ↔ ∃ q ∈ before, q.body? = some body) :
    linesOf (piecesIn o all) merged (.rule header declarations) =
      partLines o (leftOf all before (.rule header declarations)) := by
  have hlines := partLines_rule (o := o) h hb
  have hbody : (Piece.rule header declarations).body? = (Layout.rule header declarations).body? := by
    simp [Piece.body?, Layout.body?, hrule]
  unfold linesOf leftOf
  dsimp only
  rw [hbody]
  by_cases hcomma : ',' ∈ header
  · have hnone : (Layout.rule header declarations).body? = none :=
      if_neg fun hb => hb.2.1 hcomma
    rw [hnone, if_pos (.inl rfl), ← hlines]
  have hsome : (Layout.rule header declarations).body? = some declarations := by
    simp [Layout.body?, hrule, hcomma]
  have hshared : isShared declarations (piecesIn o all) =
      decide (1 < (sharers declarations all).length) := by
    rw [isShared, sharing_eq_sharers]
  rw [hsome, hshared, sharing_eq_sharers]
  dsimp only
  by_cases hlt : (sharers declarations all).length < 2
  · rw [if_pos hlt, if_pos (.inr (by simpa using Nat.le_of_lt_succ hlt)), ← hlines]
  rw [if_neg hlt, if_neg (by simpa using Nat.lt_of_succ_le (Nat.not_lt.mp hlt))]
  have hany : (before.any fun q => q.body? = some declarations) = true ↔ declarations ∈ merged := by
    rw [hmerged, List.any_eq_true]
    simp
  by_cases hmem : declarations ∈ merged
  · rw [if_pos hmem, if_pos (hany.mpr hmem)]
    rfl
  · rw [if_neg hmem, if_neg (mt hany.mp hmem)]
    refine (lines_write_rule fun t ht => ?_).symm
    rcases List.mem_cons.mp ht with rfl | ht
    · exact isInline_joined h declarations
    · exact (h.of_mem hb).inline t (List.mem_append_left _ (List.mem_cons_of_mem _ ht))

theorem mergedLines_pieces_append {all before : List Layout} (h : AreTidy all) (hb : b ∈ all)
    {merged : List (List Text)}
    (hmerged : ∀ body, body ∈ merged ↔ ∃ q ∈ before, q.body? = some body) (ps : List Piece) :
    mergedLines (piecesIn o all) merged (b.pieces o ++ ps) =
      partLines o (leftOf all before b) ++
        mergedLines (piecesIn o all) (b.body?.toList ++ merged) ps := by
  cases b with
  | group header inner =>
    rw [Layout.pieces, mergedLines_map_line]
    rfl
  | rule header declarations =>
    rw [Layout.pieces]
    by_cases hrule : IsSelector header ∧ declarations ≠ []
    · have hbody : (Piece.rule header declarations).body? =
          (Layout.rule header declarations).body? := by simp [Piece.body?, Layout.body?, hrule]
      rw [if_pos hrule, List.singleton_append, mergedLines, hbody, linesOf_rule h hb hrule hmerged]
    · have hnone : (Layout.rule header declarations).body? = none :=
        if_neg fun hb => hrule ⟨hb.1, hb.2.2⟩
      rw [if_neg hrule, mergedLines_map_line, leftOf, hnone, ← partLines_rule h hb]
      rfl

/-- **The lines that merging leaves of blocks.** -/
theorem mergedLines_pieces {all before : List Layout} (h : AreTidy all) (hbs : ∀ b ∈ bs, b ∈ all)
    {merged : List (List Text)}
    (hmerged : ∀ body, body ∈ merged ↔ ∃ q ∈ before, q.body? = some body) :
    mergedLines (piecesIn o all) merged (piecesIn o bs) =
      (leftFrom all before bs).flatMap fun p => partLines o p ++ [[]] := by
  induction bs generalizing before merged with
  | nil => rfl
  | cons b bs ih =>
    have hnext : ∀ body, body ∈ b.body?.toList ++ merged ↔
        ∃ q ∈ before ++ [b], q.body? = some body := by
      intro body
      rw [List.mem_append, hmerged, Option.mem_toList]
      simp [or_and_right, exists_or, or_comm]
    have hrest := ih (fun c hc => hbs c (List.mem_cons_of_mem b hc)) hnext
    rw [piecesIn_cons, mergedLines_pieces_append h (hbs b List.mem_cons_self) hmerged, leftFrom,
      List.flatMap_cons, List.append_assoc, ← hrest]
    rfl

/-! ## The merged style sheet -/

theorem joinBlocks_cons_eq (t : Text) (ts : List Text) :
    Style.joinBlocks (t :: ts) = t ++ Text.behindGaps ts := by
  induction ts generalizing t with
  | nil => rw [Style.joinBlocks_singleton, Text.behindGaps, List.flatMap_nil, List.append_nil]
  | cons u us ih =>
    rw [Style.joinBlocks_cons (List.cons_ne_nil u us), ih, Text.behindGaps_cons, List.append_assoc]
    rfl

theorem exists_leftOf_nil (all : List Layout) (b : Layout) : ∃ c, leftOf all [] b = some c := by
  unfold leftOf
  cases b.body? with
  | none => exact ⟨b, rfl⟩
  | some body =>
    dsimp only
    split
    · exact ⟨b, rfl⟩
    · exact ⟨_, rfl⟩

/-- Only rules whose body has two selectors are taken out. -/
theorem exists_of_none_mem_leftFrom {all before : List Layout} (h : none ∈ leftFrom all before bs) :
    ∃ b ∈ bs, ∃ body, b.body? = some body ∧ 1 < (sharers body all).length := by
  induction bs generalizing before with
  | nil => cases h
  | cons b bs ih =>
    rcases List.mem_cons.mp h with h | h
    · refine ⟨b, List.mem_cons_self, ?_⟩
      unfold leftOf at h
      cases hb : b.body? with
      | none =>
        rw [hb] at h
        cases h
      | some body =>
        rw [hb] at h
        dsimp only at h
        split at h
        · cases h
        · exact ⟨body, rfl, by omega⟩
    · obtain ⟨c, hc, hbody⟩ := ih h
      exact ⟨c, List.mem_cons_of_mem b hc, hbody⟩

theorem isTight_of_mem_leftFrom (hindent : '\n' ∉ o.indent) {all before : List Layout}
    (h : AreTidy all) (hbs : ∀ b ∈ bs, b ∈ all) {c : Layout} (hc : some c ∈ leftFrom all before bs) :
    Text.IsTight (c.write o) := by
  induction bs generalizing before with
  | nil => cases hc
  | cons b bs ih =>
    rcases List.mem_cons.mp hc with hc | hc
    · exact isTight_of_leftOf hindent h (hbs b List.mem_cons_self) hc.symm
    · exact ih (fun d hd => hbs d (List.mem_cons_of_mem b hd)) hc

/-- **The tidied lines that merging leaves**: the merged blocks with single blank lines between them,
and line feeds at the end, just one where no rule is taken out. -/
theorem collapse_mergedLines (hindent : IsIndentation o.indent) (h : AreTidy bs) (hne : bs ≠ []) :
    ∃ feeds, collapse (Text.unlines (mergedLines (piecesIn o bs) [] (piecesIn o bs))) =
        Style.joinBlocks ((mergeBlocks bs).map (Layout.write o)) ++ List.replicate feeds '\n' ∧
      (none ∉ leftFrom bs [] bs → feeds = 1) := by
  have hmerged : ∀ body, body ∈ ([] : List (List Text)) ↔
      ∃ q ∈ ([] : List Layout), q.body? = some body :=
    fun body => iff_of_false List.not_mem_nil fun ⟨_, hq, _⟩ => List.not_mem_nil hq
  have hlines := mergedLines_pieces (o := o) h (fun b hb => hb) hmerged
  have htight : ∀ c, some c ∈ leftFrom bs [] bs → Text.IsTight (c.write o) := fun c hc =>
    isTight_of_mem_leftFrom hindent.feed_not_mem h (fun b hb => hb) hc
  rw [hlines, mergeBlocks]
  cases bs with
  | nil => exact absurd rfl hne
  | cons b bs =>
    obtain ⟨c, hc⟩ := exists_leftOf_nil (b :: bs) b
    rw [leftFrom, hc] at htight ⊢
    generalize leftFrom (b :: bs) ([] ++ [b]) bs = parts at htight ⊢
    have htexts : ((some c :: parts).flatMap fun p => partLines o p ++ [[]]) =
        (partLines o (some c) :: parts.map (partLines o)).flatMap (· ++ [[]]) := by
      rw [List.flatMap_cons, List.flatMap_cons, List.flatMap_map]
    have hmap : (parts.map (partLines o)).map Text.unlines =
        (parts.map (Option.map (Layout.write o))).map (·.getD []) := by
      rw [List.map_map, List.map_map]
      exact List.map_congr_left fun p _ => unlines_partLines o p
    obtain ⟨⟨feeds, hcollapse, hone⟩, -⟩ := Text.exists_collapseFrom_behindGaps
      (parts.map (Option.map (Layout.write o))) fun t ht => by
        obtain ⟨p, hp, hpt⟩ := List.mem_map.mp ht
        obtain ⟨d, rfl, rfl⟩ := Option.map_eq_some_iff.mp hpt
        exact htight d (List.mem_cons_of_mem _ hp)
    refine ⟨feeds, ?_, fun hnone => hone fun hmem => hnone ?_⟩
    · rw [htexts, Text.unlines_flatMap_concat, hmap, unlines_partLines, collapse, Option.map_some,
        Option.getD_some, htight c List.mem_cons_self, hcollapse, List.reduceOption_map,
        List.reduceOption_cons_of_some, List.map_cons, joinBlocks_cons_eq, List.append_assoc]
      intro m hm
      rcases List.mem_cons.mp hm with rfl | hm
      · exact partLines_ne_nil o _
      · obtain ⟨p, -, rfl⟩ := List.mem_map.mp hm
        exact partLines_ne_nil o p
    · obtain ⟨p, hp, hpt⟩ := List.mem_map.mp hmem
      rw [Option.map_eq_none_iff.mp hpt] at hp
      exact List.mem_cons_of_mem _ hp

theorem mergeBlocks_ne_nil (hne : bs ≠ []) : mergeBlocks bs ≠ [] := by
  cases bs with
  | nil => exact absurd rfl hne
  | cons b bs =>
    obtain ⟨c, hc⟩ := exists_leftOf_nil (b :: bs) b
    rw [mergeBlocks, leftFrom, hc, List.reduceOption_cons_of_some]
    exact List.cons_ne_nil _ _

theorem any_isShared (hb : b ∈ bs) {body : List Text} (hbody : b.body? = some body)
    (hshared : 1 < (sharers body bs).length) :
    ((piecesIn o bs).any fun p => p.body?.any fun body => isShared body (piecesIn o bs)) = true := by
  cases b with
  | group header inner => cases hbody
  | rule header declarations =>
    rw [Layout.body?, Option.ite_none_right_eq_some] at hbody
    obtain ⟨⟨hsel, hcomma, hne⟩, hbody⟩ := hbody
    obtain rfl := Option.some.inj hbody
    refine List.any_eq_true.mpr ⟨.rule header declarations, ?_, ?_⟩
    · refine List.mem_flatMap.mpr ⟨_, hb, List.mem_append_left _ ?_⟩
      rw [Layout.pieces, if_pos ⟨hsel, hne⟩]
      exact List.mem_singleton.mpr rfl
    · rw [Piece.body?, if_neg hcomma, Option.any_some, isShared, sharing_eq_sharers]
      exact decide_eq_true hshared

/-- **A merged style sheet is the style sheet of the merged blocks.** -/
theorem merge_writeBlocks (hindent : IsIndentation o.indent) (h : AreTidy bs) :
    merge (writeBlocks o bs) = writeBlocks o (mergeBlocks bs) := by
  by_cases hne : bs = []
  · subst hne
    change merge "\n" = "\n"
    decide +kernel
  obtain ⟨feeds, hcollapse, hone⟩ := collapse_mergedLines hindent h hne
  have hpieces : pieces (Text.lines (writeBlocks o bs)) = piecesIn o bs := by
    rw [lines_writeBlocks hne, pieces_flatMap hindent h]
  have hlast : (writeBlocks o bs).getLast? = some '\n' := List.getLast?_concat
  have hbrace := getLast?_joinBlocks o (mergeBlocks_ne_nil hne)
  rw [merge, hpieces, hcollapse]
  split
  · -- the line feeds at the end become one
    rw [Text.dropLastFeeds_append (by rw [hbrace]; decide)]
    rfl
  · rename_i hany
    rw [hone fun hnone => ?_]
    · rfl
    · obtain ⟨b, hb, body, hbody, hshared⟩ := exists_of_none_mem_leftFrom hnone
      exact hany ⟨hlast, any_isShared hb hbody hshared⟩

/-! ## What becomes of a block -/

theorem isSelector_of_body? {body : List Text} (h : b.body? = some body) :
    IsSelector b.header ∧ ',' ∉ b.header := by
  cases b with
  | group header inner => cases h
  | rule header declarations =>
    rw [Layout.body?, Option.ite_none_right_eq_some] at h
    exact ⟨h.1.1, h.1.2.1⟩

theorem isAtRule_eq_false (h : IsSelector b.header) : b.isAtRule = false := by
  unfold Layout.isAtRule
  revert h
  cases b.header with
  | nil => exact False.elim
  | cons c t => exact fun h => decide_eq_false fun hc => h.2 (Option.some.inj hc)

theorem isSelector_joined {all : List Layout} {body : List Text}
    (h : 1 < (sharers body all).length) :
    IsSelector (List.intercalate ", " (sharers body all)) := by
  obtain ⟨t, ts, hts⟩ := List.exists_cons_of_length_pos (Nat.lt_of_succ_lt h)
  have hmem : t ∈ sharers body all := hts ▸ List.mem_cons_self
  obtain ⟨b, hb, rfl⟩ := List.mem_map.mp (List.mem_eraseDups.mp hmem)
  have hsel := (isSelector_of_body? (of_decide_eq_true (List.mem_filter.mp hb).2)).1
  rw [hts]
  cases ts with
  | nil =>
    rw [List.intercalate_singleton]
    exact IsSelector.strip hsel
  | cons u us =>
    rw [List.intercalate_cons_of_ne_nil (List.cons_ne_nil u us), List.append_assoc]
    exact (IsSelector.strip hsel).append _

theorem filter_isAtRule_leftOf (all before : List Layout) (b : Layout) :
    (leftOf all before b).toList.filter isAtRule = [b].filter isAtRule := by
  have hnone : ∀ c : Layout, c.isAtRule = false → [c].filter isAtRule = [] := fun c hc =>
    List.filter_cons_of_neg (by rw [hc]; exact Bool.false_ne_true)
  unfold leftOf
  cases hb : b.body? with
  | none => rfl
  | some body =>
    rw [hnone b (isAtRule_eq_false (isSelector_of_body? hb).1)]
    dsimp only
    split
    · exact hnone b (isAtRule_eq_false (isSelector_of_body? hb).1)
    rename_i hshared
    split
    · rfl
    · exact hnone _ (isAtRule_eq_false (isSelector_joined (by omega)))

/-- **Merging keeps the at-rules of a style sheet**, each as it was, in their order. -/
theorem filter_isAtRule_mergeBlocks (bs : List Layout) :
    (mergeBlocks bs).filter isAtRule = bs.filter isAtRule := by
  have hfrom : ∀ (all before cs : List Layout),
      (leftFrom all before cs).reduceOption.filter isAtRule = cs.filter isAtRule := by
    intro all before cs
    induction cs generalizing before with
    | nil => rfl
    | cons c cs ih =>
      have hhead : (leftFrom all before (c :: cs)).reduceOption =
          (leftOf all before c).toList ++ (leftFrom all (before ++ [c]) cs).reduceOption := by
        rw [leftFrom]
        cases leftOf all before c <;> rfl
      rw [hhead, List.filter_append, filter_isAtRule_leftOf, ih, ← List.filter_append]
      rfl
  exact hfrom bs [] bs

theorem mem_leftFrom {all before : List Layout} {c : Layout} (hb : b ∈ bs)
    (hc : ∀ before, leftOf all before b = some c) : some c ∈ leftFrom all before bs := by
  induction bs generalizing before with
  | nil => cases hb
  | cons d bs ih =>
    rcases List.mem_cons.mp hb with rfl | hb
    · exact List.mem_cons.mpr (.inl (hc before).symm)
    · exact List.mem_cons_of_mem _ (ih hb)

/-- The first rule with a shared body carries all the selectors. -/
theorem merged_mem_leftFrom {all before : List Layout} {body : List Text} (hb : b ∈ bs)
    (hbody : b.body? = some body) (hshared : ¬ (sharers body all).length < 2)
    (hbefore : ∀ q ∈ before, q.body? ≠ some body) :
    some (.rule (List.intercalate ", " (sharers body all)) body) ∈ leftFrom all before bs := by
  induction bs generalizing before with
  | nil => cases hb
  | cons c bs ih =>
    by_cases hc : c.body? = some body
    · have hfirst : (before.any fun q => q.body? = some body) = false :=
        List.any_eq_false.mpr fun q hq => by simp [hbefore q hq]
      refine List.mem_cons.mpr (.inl ?_)
      simp only [leftOf, hc, hshared, hfirst, if_false, Bool.false_eq_true]
    · refine List.mem_cons_of_mem _ (ih ?_ ?_)
      · refine (List.mem_cons.mp hb).resolve_left ?_
        rintro rfl
        exact hc hbody
      · intro q hq
        rcases List.mem_append.mp hq with hq | hq
        · exact hbefore q hq
        · rwa [List.mem_singleton.mp hq]

/-- **A rule is kept as it is, or all of its selector is in the rule that it is merged into.** -/
theorem mem_mergeBlocks_or (hb : b ∈ bs) : b ∈ mergeBlocks bs ∨
    ∃ body, b.body? = some body ∧ Text.strip b.header ∈ sharers body bs ∧
      .rule (List.intercalate ", " (sharers body bs)) body ∈ mergeBlocks bs := by
  simp only [mergeBlocks, List.reduceOption_mem_iff]
  cases hbody : b.body? with
  | none => exact .inl (mem_leftFrom hb fun before => by rw [leftOf, hbody])
  | some body =>
    by_cases hshared : (sharers body bs).length < 2
    · refine .inl (mem_leftFrom hb fun before => ?_)
      simp only [leftOf, hbody, hshared, if_true]
    · refine .inr ⟨body, rfl, ?_, merged_mem_leftFrom hb hbody hshared nofun⟩
      have hmem : b ∈ bs.filter fun b => b.body? = some body :=
        List.mem_filter.mpr ⟨hb, decide_eq_true hbody⟩
      exact List.mem_eraseDups.mpr (List.mem_map_of_mem hmem)

theorem mergeBlocks_eq_self (h : ∀ body, (sharers body bs).length < 2) : mergeBlocks bs = bs := by
  have hleft : ∀ before b, leftOf bs before b = some b := by
    intro before b
    unfold leftOf
    cases b.body? with
    | none => rfl
    | some body => exact if_pos (h body)
  have hfrom : ∀ before cs, leftFrom bs before cs = cs.map some := by
    intro before cs
    induction cs generalizing before with
    | nil => rfl
    | cons c cs ih => rw [leftFrom, hleft, ih, List.map_cons]
  rw [mergeBlocks, hfrom, List.reduceOption, List.filterMap_map, Function.id_comp,
    List.filterMap_some]

end ThemedCss.Sheet
