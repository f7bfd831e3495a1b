import ThemedCss.Proofs.Cache.InStep
import ThemedCss.Proofs.Session.TidyRun

/-!
# Runs with and without merging

Two runs of the same calls, of which one merges its style sheets, go side by side: they hoist, count
and shorten alike, and their caches keep texts under the same keys.

* `Sheet.IsMerged`: a style sheet of tidy blocks, and the one that merging makes of it;
* `Session.merging`: the session that merges, beside one that does not;
* `css_merging`, `step_merging`: one call in both sessions;
* `run_merging`: the same calls in both;
* **`css_merged`**: merging keeps the at-rules of every style sheet, and the other rules whole.
-/

namespace ThemedCss

namespace Sheet

open Layout

/-- A style sheet of tidy blocks, and the one that merging makes of it. -/
def IsMerged (o : Style.Options) (css merged : Text) : Prop :=
  ∃ bs, AreTidy bs ∧ css = writeBlocks o bs ∧ merged = writeBlocks o (mergeBlocks bs)

variable {o : Style.Options} {css merged : Text}

theorem IsMerged.getLast? (h : IsMerged o css merged) :
    css.getLast? = some '\n' ∧ merged.getLast? = some '\n' := by
  obtain ⟨bs, -, rfl, rfl⟩ := h
  exact ⟨List.getLast?_concat, List.getLast?_concat⟩

/-- What two caches keep under one key, when one of the sessions merges: a style sheet without its
rules is the same in both. -/
def IsKept (o : Style.Options) (t u : Text) : Prop := t = u ∨ IsMerged o t u

theorem IsKept.comment?_eq {t u : Text} (h : IsKept o t u) :
    (Cache.comment? t).map Prod.snd = (Cache.comment? u).map Prod.snd := by
  rcases h with rfl | h
  · rfl
  · rw [Cache.comment?_eq_none h.getLast?.1, Cache.comment?_eq_none h.getLast?.2]

theorem IsKept.read {t u : Text} (h : IsKept o t u) :
    IsKept o (((Cache.comment? t).map Prod.fst).getD t) (((Cache.comment? u).map Prod.fst).getD u) := by
  rcases h with rfl | h
  · exact .inl rfl
  · rw [Cache.comment?_eq_none h.getLast?.1, Cache.comment?_eq_none h.getLast?.2]
    exact .inr h

end Sheet

namespace Session

open Sheet Variable

/-- The session that merges its style sheets, with a cache of its own. -/
def merging (s : Session) (cache : Cache Scalar) : Session :=
  { s with config := { s.config with dedupe := true }, cache := cache }

variable {s : Session} {cache : Cache Scalar} {indent : Text}

/-! ## Style sheets -/

theorem sheet_eq_collapse (hoff : s.config.dedupe = false) (includeStyles : Bool) :
    s.sheet includeStyles =
      collapse (assemble (s.sheetOptions includeStyles) s.registry.store s.chunks) :=
  if_neg (by rw [hoff]; exact Bool.false_ne_true)

theorem sheet_merging (s : Session) (cache : Cache Scalar) (includeStyles : Bool) :
    (s.merging cache).sheet includeStyles =
      merge (assemble (s.sheetOptions includeStyles) s.registry.store s.chunks) := rfl

theorem isMerged_sheet (h : s.IsTidy) (hoff : s.config.dedupe = false) (includeStyles : Bool) :
    IsMerged { indent := s.config.indent } (s.sheet includeStyles)
      ((s.merging cache).sheet includeStyles) := by
  obtain ⟨ls, -, htidy, hcss⟩ := exists_assemble_eq (o := s.sheetOptions includeStyles) h.indent
    h.query h.inline h.chunks
  refine ⟨_, htidy, ?_, ?_⟩
  · rw [sheet_eq_collapse hoff, hcss]
    exact collapse_writeBlocks h.indent htidy
  · rw [sheet_merging, hcss]
    exact merge_writeBlocks h.indent htidy

theorem sheet_merging_false (h : s.IsTidy) (hoff : s.config.dedupe = false) :
    (s.merging cache).sheet false = s.sheet false := by
  obtain ⟨ls, hls, htidy, hcss⟩ := exists_assemble_eq (o := s.sheetOptions false) h.indent
    h.query h.inline h.chunks
  obtain rfl := hls rfl
  rw [List.append_nil] at htidy hcss
  have hmerge := merge_writeBlocks (o := (s.sheetOptions false).style) h.indent htidy
  rw [mergeBlocks_themeBlocks] at hmerge
  rw [sheet_merging, sheet_eq_collapse hoff, hcss, hmerge]
  exact (collapse_writeBlocks h.indent htidy).symm

/-! ## One call in both sessions -/

/-- **A style sheet is made in both sessions, or served from both caches.** -/
theorem css_merging (h : s.optimize.1.IsTidy) (hoff : s.config.dedupe = false)
    (hindent : s.config.indent = indent)
    (hcache : Cache.InStep (IsKept { indent := indent }) s.cache cache)
    (includeStyles : Bool) (key : Option Scalar) :
    ∃ c, Cache.InStep (IsKept { indent := indent }) (s.css includeStyles key).1.cache c ∧
      ((s.merging cache).css includeStyles key).1 = (s.css includeStyles key).1.merging c ∧
      ((key ≠ none ∧ (s.css includeStyles key).2 = ((s.merging cache).css includeStyles key).2) ∨
        IsMerged { indent := indent } (s.css includeStyles key).2
          ((s.merging cache).css includeStyles key).2) := by
  subst hindent
  have hsheet : ∀ i, IsMerged { indent := s.config.indent } (s.optimize.1.sheet i)
      ((s.optimize.1.merging cache).sheet i) := isMerged_sheet h hoff
  cases key with
  | none => exact ⟨cache, hcache, rfl, .inr (hsheet includeStyles)⟩
  | some k =>
    have hregenerate : (s.merging cache).cache.shouldRegenerate k includeStyles =
        s.cache.shouldRegenerate k includeStyles :=
      (hcache.shouldRegenerate_eq (fun _ _ ht => ht.comment?_eq) k includeStyles).symm
    cases hk : s.cache.shouldRegenerate k includeStyles with
    | true =>
      rw [css_of_regenerates hk, css_of_regenerates (hregenerate.trans hk)]
      refine ⟨_, hcache.set k ?_, rfl, .inr (hsheet includeStyles)⟩
      cases includeStyles with
      | true => exact .inr (hsheet true)
      | false =>
        have hsame : (s.optimize.1.merging cache).sheet false = s.optimize.1.sheet false :=
          sheet_merging_false h hoff
        exact .inl (congrArg (Cache.withMetadata · Cache.needsStyles) hsame.symm)
    | false =>
      rw [css_of_not_regenerates hk, css_of_not_regenerates (hregenerate.trans hk)]
      refine ⟨cache, hcache, rfl, ?_⟩
      have hread := hcache.rel_getD (.inl rfl) (fun _ _ ht => ht.read) k
      exact hread.imp_left fun heq => ⟨nofun, heq⟩

theorem step_merging (h : s.optimize.1.IsTidy) (hoff : s.config.dedupe = false)
    (hindent : s.config.indent = indent)
    (hcache : Cache.InStep (IsKept { indent := indent }) s.cache cache) (call : Call) :
    ∃ c, Cache.InStep (IsKept { indent := indent }) (s.step call).1.cache c ∧
      ((s.merging cache).step call).1 = (s.step call).1.merging c := by
  cases call with
  | createTheme values name =>
    have hstep : ∀ t : Session, (t.step (.createTheme values name)).1 =
        t.extend (leavesOf ⟨true, .scope⟩ name values) [] := after_collectWith _ values name
    rw [hstep, hstep]
    exact ⟨cache, hcache, rfl⟩
  | createVars values name =>
    have hstep : ∀ t : Session, (t.step (.createVars values name)).1 =
        t.extend (leavesOf ⟨false, t.config.varsThemeKeys⟩ name values) [] :=
      fun t => after_collectWith _ values name t
    rw [hstep, hstep]
    exact ⟨cache, hcache, rfl⟩
  | createStyle subject styles =>
    have hstep : ∀ t : Session, (t.step (.createStyle subject styles)).1 =
        t.extend [] (chunkOf t.config subject styles) := after_createStyle subject styles
    rw [hstep, hstep]
    exact ⟨cache, hcache, rfl⟩
  | css includeStyles key =>
    obtain ⟨c, hc, hstep, -⟩ := css_merging h hoff hindent hcache includeStyles key
    exact ⟨c, hc, hstep⟩
  | clearCache => exact ⟨cache.clear, hcache.clear, rfl⟩
  | generateStyles => exact ⟨cache, hcache, rfl⟩
  | optimize => exact ⟨cache, hcache, rfl⟩
  | reset => exact ⟨cache, hcache, rfl⟩

/-! ## The same calls in both sessions -/

section Run

variable {config : Config} {calls : List Call}

theorem isTidy_dedupe {call : Call} (h : call.IsTidy config) (dedupe : Bool) :
    call.IsTidy { config with dedupe := dedupe } := ⟨h.leaves, h.blocks, h.closed⟩

theorem run_merging (hindent : IsIndentation config.indent)
    (hquery : IsInline config.darkMediaQuery) (hpos : 0 < config.hoistThreshold)
    (hcalls : ∀ call ∈ calls, call.IsTidy config) :
    ∃ c, Cache.InStep (IsKept { indent := config.indent })
        ((start { config with dedupe := false }).run calls).1.cache c ∧
      ((start { config with dedupe := true }).run calls).1 =
        ((start { config with dedupe := false }).run calls).1.merging c := by
  induction calls using List.reverseRecOn with
  | nil => exact ⟨_, .empty config.cacheMaxEntries, rfl⟩
  | append_singleton calls call ih =>
    have hbefore : ∀ call ∈ calls, call.IsTidy config := fun c hc =>
      hcalls c (List.mem_append_left _ hc)
    obtain ⟨c, hc, hrun⟩ := ih hbefore
    have hconfig : ((start { config with dedupe := false }).run calls).1.config =
        { config with dedupe := false } := config_run _ calls
    have htidy : ((start { config with dedupe := false }).run calls).1.optimize.1.IsTidy :=
      isTidy_run hindent hquery hpos fun call hcall => isTidy_dedupe (hbefore call hcall) false
    rw [run_concat, run_concat, hrun]
    exact step_merging htidy (by rw [hconfig]) (by rw [hconfig]) hc call

/-- **Merging keeps the at-rules of every style sheet, and the other rules whole**: of two runs of the
same calls one merges its style sheets. What it makes of one is the blocks of that style sheet, merged:
the at-rules are the same in the same order, and any other block is there as it was, or its
selector is one of those that the first rule with its body carries. -/
theorem css_merged (hindent : IsIndentation config.indent)
    (hquery : IsInline config.darkMediaQuery) (hpos : 0 < config.hoistThreshold)
    (hcalls : ∀ call ∈ calls, call.IsTidy config) (includeStyles : Bool) (key : Option Scalar) :
    let css (dedupe : Bool) : Text :=
      (((start { config with dedupe := dedupe }).run calls).1.css includeStyles key).2
    (key ≠ none ∧ css false = css true) ∨
      ∃ bs, AreTidy bs ∧ css false = writeBlocks { indent := config.indent } bs ∧
        css true = writeBlocks { indent := config.indent } (mergeBlocks bs) ∧
        (mergeBlocks bs).filter Layout.isAtRule = bs.filter Layout.isAtRule ∧
        ∀ b ∈ bs, b ∈ mergeBlocks bs ∨ ∃ body, b.body? = some body ∧
          Text.strip b.header ∈ sharers body bs ∧
          .rule (List.intercalate ", " (sharers body bs)) body ∈ mergeBlocks bs := by
  intro css
  obtain ⟨c, hc, hrun⟩ := run_merging hindent hquery hpos hcalls
  have hconfig : ((start { config with dedupe := false }).run calls).1.config =
      { config with dedupe := false } := config_run _ calls
  have htidy : ((start { config with dedupe := false }).run calls).1.optimize.1.IsTidy :=
    isTidy_run hindent hquery hpos fun call hcall => isTidy_dedupe (hcalls call hcall) false
  obtain ⟨-, -, -, hcss⟩ :=
    css_merging htidy (by rw [hconfig]) (by rw [hconfig]) hc includeStyles key
  rw [← hrun] at hcss
  rcases hcss with hsame | ⟨bs, hbs, hoff, hon⟩
  · exact .inl hsame
  · exact .inr ⟨bs, hbs, hoff, hon, filter_isAtRule_mergeBlocks bs, fun b => mem_mergeBlocks_or⟩

/-- A variable of the dark mode, and rules with one body inside and outside of a media query. -/
def mediaCalls : List Call :=
  let red : Style := .rules [(.text "color", .property (.scalar (.text "var(--ink, red)")))]
  [.createTheme (.map [(.text "dark", .map [(.text "gap", .scalar (.text "1px"))])])
      (.scalar (.text "")),
    .createStyle (.style (.rules [(.text "a", red), (.text "@media print", .rules [(.text "b", red)]),
      (.text "b", red)])) none]

theorem css_merged_media :
    let css (dedupe : Bool) : Text :=
      (((start { dedupe := dedupe }).run mediaCalls).1.css true none).2
    css true ≠ css false ∧
      ∃ bs, css false = writeBlocks {} bs ∧ css true = writeBlocks {} (mergeBlocks bs) ∧
        (mergeBlocks bs).filter Layout.isAtRule = bs.filter Layout.isAtRule := by
  intro css
  refine ⟨by decide +kernel, ?_⟩
  have hindent : IsIndentation "  " :=
    ⟨by decide, fun c hc => .inl (List.eq_of_mem_replicate (n := 2) hc)⟩
  have hcalls : ∀ call ∈ mediaCalls, call.IsTidy {} := by decide +kernel
  rcases @css_merged {} mediaCalls hindent (by decide) (by decide) hcalls true none with
    ⟨hkey, -⟩ | ⟨bs, -, hoff, hon, hrules, -⟩
  · exact absurd rfl hkey
  · exact ⟨bs, hoff, hon, hrules⟩

/-- **Without an indentation, a rule in an at-rule is taken for one at the top level.** -/
theorem merging_empties_at_rule : ¬ ∀ (config : Config) (calls : List Call) (block : Text),
    (∀ c ∈ config.indent, c = ' ' ∨ c = '\t') → 0 < config.hoistThreshold →
    (∀ call ∈ calls, (∀ l ∈ call.leaves config, IsInline (name l.path) ∧ IsInline l.text) ∧
      ∀ t ∈ Layout.textsIn (call.blocks config), IsInline t) →
    block ∈ ((calls.flatMap (Call.blocks config)).filter Layout.isAtRule).map
      (Layout.write { indent := config.indent }) →
    let css (dedupe : Bool) : Text :=
      (((start { config with dedupe := dedupe }).run calls).1.css true none).2
    Text.contains block (css false) = true → Text.contains block (css true) = true := by
  intro h
  let red : Style := .rules [(.text "color", .property (.scalar (.text "red")))]
  let calls : List Call := [.createStyle (.style (.rules [(.text "a", red),
    (.text "@media print", .rules [(.text "b", red)])])) none]
  have hcontains := h { indent := [] } calls
    "@media print \x7b\nb \x7b\ncolor: red;\n\x7d\n\x7d"
    (fun _ hc => absurd hc List.not_mem_nil) (by decide) (by decide +kernel) (by decide +kernel)
  exact absurd hcontains (by decide +kernel)

/-- A list of selectors that goes over two lines is cut at the line feed: its last line is a selector of
the merged rule, and the lines before it stay behind. -/
example :
    let red : Style := .rules [(.text "color", .property (.scalar (.text "red")))]
    let calls : List Call := [.createStyle (.style (.rules [(.text "c", red), (.text "a,\nb", red)])) none]
    (((start {}).run calls).1.css true none).2 = Text.unlines [":root \x7b", "\x7d", "",
      "c, b \x7b", "  color: red;", "\x7d", "", "a,", ""] := by
  decide +kernel

end Run

end Session

end ThemedCss
