import ThemedCss.Proofs.Session.Counting
import ThemedCss.Proofs.Sheet.Assembled
import ThemedCss.Proofs.Sheet.Shortened
import ThemedCss.Proofs.Variable.Growth

/-!
# Runs whose texts can be told by lines

Names, values, headers and declarations that stand on one line each, without braces, make style
sheets of tidy blocks, whatever the calls hoist and shorten.

* `Call.blocks`, `Call.IsTidy`: the blocks that a call compiles; what it brings can be told by lines;
* `isTidyText_step`, `isTidyText_run`: the chunks of a run are texts of tidy blocks;
* `Follows.isInlineVariable`, `isInlineVariable_run`: its variables stand on lines of their own;
* `Session.IsTidy`, **`isTidy_run`**: a session whose texts can be told by lines;
* `Sheet.exists_assemble_eq`: a style sheet of such texts is that of tidy blocks.
-/

namespace ThemedCss

open Variable Layout

/-! ## What a call writes -/

/-- The blocks of the style tree that a subject is compiled as. -/
def blocksOf (config : Config) (subject : Subject) (styles : Option Style) : List Layout :=
  match Session.effectiveStyle subject styles with
  | .ok (some style) => Style.layoutsBelow ⟨config.indent, config.styleThemeKeys⟩ [] style
  | _ => []

theorem eq_of_mem_chunkOf {config : Config} {subject : Subject} {styles : Option Style} {css : Text}
    (h : css ∈ chunkOf config subject styles) :
    blocksOf config subject styles ≠ [] ∧
      css = Style.joinBlocks ((blocksOf config subject styles).map
        (write { indent := config.indent })) := by
  unfold chunkOf at h
  unfold blocksOf
  cases hstyle : Session.effectiveStyle subject styles with
  | error f =>
    rw [hstyle] at h
    cases h
  | ok style =>
    rw [hstyle] at h
    cases style with
    | none => cases h
    | some style =>
      dsimp only at h ⊢
      cases hcss : style.compile ⟨config.indent, config.styleThemeKeys⟩ [] with
      | error f =>
        rw [hcss] at h
        cases h
      | ok text =>
        rw [hcss] at h
        dsimp only at h
        split at h
        · cases h
        rename_i hne
        obtain rfl := List.mem_singleton.mp h
        have htext := Style.compile_eq_ok _ _ _ hcss
        have hwrite : write ⟨config.indent, config.styleThemeKeys⟩ =
            write { indent := config.indent } := funext (Layout.write_congr rfl)
        refine ⟨fun hnil => hne ?_, ?_⟩
        · rw [htext, hnil]
          rfl
        · rw [htext, hwrite]

namespace Call

/-- The blocks that a call compiles. -/
def blocks (config : Config) : Call → List Layout
  | createStyle subject styles => blocksOf config subject styles
  | _ => []

/-- A call whose names, values, headers and declarations stand on one line each, without braces, and
whose lines close the references that they open. -/
structure IsTidy (config : Config) (call : Call) : Prop where
  leaves : ∀ l ∈ call.leaves config, IsInline (name l.path) ∧ IsInline l.text
  blocks : ∀ t ∈ textsIn (call.blocks config), IsInline t
  closed : ∀ css ∈ call.chunks config, ∀ l ∈ Text.lines css, IsClosed l

instance {config : Config} {call : Call} : Decidable (call.IsTidy config) :=
  decidable_of_iff
    ((∀ l ∈ call.leaves config, IsInline (name l.path) ∧ IsInline l.text) ∧
      (∀ t ∈ textsIn (call.blocks config), IsInline t) ∧
      ∀ css ∈ call.chunks config, ∀ l ∈ Text.lines css, IsClosed l)
    ⟨fun h => ⟨h.1, h.2.1, h.2.2⟩, fun h => ⟨h.leaves, h.blocks, h.closed⟩⟩

theorem IsTidy.isTidyText {config : Config} {call : Call} (h : call.IsTidy config) :
    ∀ css ∈ call.chunks config, IsTidyText { indent := config.indent } css := by
  intro css hcss
  cases call with
  | createStyle subject styles =>
    obtain ⟨hne, htext⟩ := eq_of_mem_chunkOf hcss
    refine ⟨_, hne, ⟨?_, h.blocks⟩, htext, h.closed css hcss⟩
    unfold blocksOf
    split
    · exact Style.areProper_layoutsBelow _ _ _
    · exact .nil
  | _ => cases hcss

end Call

namespace Session

variable {config : Config} {calls : List Call} {s : Session} {o : Style.Options}

/-! ## The chunks -/

theorem isTidyText_step (hindent : IsIndentation o.indent) (h : ∀ css ∈ s.chunks, IsTidyText o css)
    {call : Call} (hcall : ∀ css ∈ call.chunks s.config, IsTidyText o css) :
    ∀ css ∈ (s.step call).1.chunks, IsTidyText o css := by
  intro css hcss
  cases hr : call.resets with
  | true =>
    cases call with
    | reset => cases hcss
    | _ => cases hr
  | false =>
    obtain ⟨cache, he | ⟨-, -, he⟩⟩ := step_cases s hr
    · rw [he] at hcss
      rcases List.mem_append.mp hcss with hcss | hcss
      · exact h css hcss
      · exact hcall css hcss
    · rw [he] at hcss
      obtain ⟨chunk, hchunk, rfl⟩ := List.mem_map.mp hcss
      exact (h chunk hchunk).shortened hindent _

/-- **The chunks of a session are texts of tidy blocks.** -/
theorem isTidyText_run (hindent : IsIndentation config.indent)
    (hcalls : ∀ call ∈ calls, call.IsTidy config) :
    ∀ css ∈ ((start config).run calls).1.chunks, IsTidyText { indent := config.indent } css := by
  induction calls using List.reverseRecOn with
  | nil => exact nofun
  | append_singleton calls call ih =>
    rw [run_concat]
    refine isTidyText_step hindent (ih fun c hc => hcalls c (List.mem_append_left _ hc)) ?_
    rw [config_run]
    exact (hcalls call (List.mem_append_right _ List.mem_cons_self)).isTidyText

/-! ## The variables -/

/-- A variable whose name and value stand on one line each, without braces. -/
def IsInlineVariable (n v : Text) : Prop := IsInline n ∧ IsInline v

theorem isInline_ofReference {reference : Text} (h : ∀ c ∈ reference, isNameChar c = true) :
    IsInline (ofReference reference) := by
  have hhyphens : IsInline "--" := by decide
  refine hhyphens.append ⟨fun hc => absurd (h _ hc) (by decide), ?_⟩
  refine List.any_eq_false.mpr fun c hc hbrace => ?_
  rw [Block.isBrace, Bool.or_eq_true, decide_eq_true_eq, decide_eq_true_eq] at hbrace
  rcases hbrace with rfl | rfl
  · exact absurd (h _ hc) (by decide)
  · exact absurd (h _ hc) (by decide)

/-- **The variables of a session come from its leaves and from the references of its chunks.** -/
theorem Follows.isInlineVariable {written : Registry} {compiled : List Text}
    (h : Follows written compiled s) (hpos : 0 < s.config.hoistThreshold)
    (hwritten : ∀ m n v, written.store.get? m n = some v → IsInlineVariable n v)
    (huses : ∀ reference v, 0 < written.table.usesOf reference v →
      IsInlineVariable (ofReference reference) v)
    (hcompiled : ∀ css ∈ compiled, ∀ reference v, (reference, v) ∈ allReferences css →
      IsInlineVariable (ofReference reference) v) {m : Mode} {n v : Text}
    (hv : s.registry.store.get? m n = some v) : IsInlineVariable n v := by
  cases m with
  | light =>
    refine hwritten .light n v ?_
    rw [← hv]
    exact congrArg (OrderedMap.get? · n) h.registry.light.symm
  | dark =>
    refine hwritten .dark n v ?_
    rw [← hv]
    exact congrArg (OrderedMap.get? · n) h.registry.dark.symm
  | root =>
    cases hn : written.store.root.get? n with
    | some w =>
      obtain rfl := Option.some.inj ((h.registry.root n w hn).symm.trans hv)
      exact hwritten .root n w hn
    | none =>
      -- a hoisted value has been counted behind the name
      obtain ⟨reference, rfl, hcount⟩ := h.registry.added n v hn hv
      rw [h.uses] at hcount
      by_cases hused : 0 < written.table.usesOf reference v
      · exact huses reference v hused
      · have hmem : (reference, v) ∈ (compiled.take s.scanned).flatMap allReferences :=
          List.count_pos_iff.mp (by omega)
        obtain ⟨css, hcss, href⟩ := List.mem_flatMap.mp hmem
        exact hcompiled css (List.mem_of_mem_take hcss) reference v href

theorem mem_of_mem_sinceReset {call : Call} (h : call ∈ sinceReset calls) : call ∈ calls :=
  (List.rtakeWhile_suffix _ calls).subset h

theorem isInlineVariable_run (hindent : IsIndentation config.indent)
    (hpos : 0 < config.hoistThreshold) (hcalls : ∀ call ∈ calls, call.IsTidy config)
    (hs : Follows ((leavesIn config calls).foldl Leaf.record {}) (chunksIn config calls) s)
    (hconfig : s.config = config) {m : Mode} {n v : Text}
    (hv : s.registry.store.get? m n = some v) : IsInlineVariable n v := by
  have hleaves : ∀ l ∈ leavesIn config calls, IsInlineVariable (name l.path) l.text := by
    intro l hl
    obtain ⟨call, hcall, hl⟩ := List.mem_flatMap.mp hl
    exact (hcalls call (mem_of_mem_sinceReset hcall)).leaves l hl
  refine hs.isInlineVariable (hconfig ▸ hpos) (fun m n v hget => ?_) (fun reference v huses => ?_)
    (fun css hcss reference v href => ?_) hv
  · rcases Leaf.get?_foldl_record hget with hnone | ⟨l, hl, -, rfl, rfl⟩
    · cases m <;> cases hnone
    · exact hleaves l hl
  · rw [usesOf_foldl_record] at huses
    obtain ⟨l, hl, huse⟩ := List.countP_pos_iff.mp huses
    obtain ⟨hname, rfl⟩ := of_decide_eq_true huse
    rw [← hname]
    exact hleaves l hl
  · obtain ⟨call, hcall, hcss⟩ := List.mem_flatMap.mp hcss
    have htidy := (hcalls call (mem_of_mem_sinceReset hcall)).isTidyText css hcss
    obtain ⟨hname, hinline⟩ := htidy.isInline_of_mem_allReferences hindent href
    exact ⟨isInline_ofReference hname, hinline⟩

end Session

/-! ## The style sheet -/

namespace Sheet

variable {o : Options} {s : Store}

theorem isInline_declarations {indent : Text} (hindent : IsIndentation indent) {b : Bindings}
    (h : ∀ n v, b.get? n = some v → Session.IsInlineVariable n v) :
    ∀ d ∈ declarations indent b, IsInline d := by
  intro d hd
  obtain ⟨⟨n, v⟩, hentry, rfl⟩ := List.mem_map.mp hd
  obtain ⟨hn, hv⟩ := h n v (OrderedMap.get?_eq_some_iff.mpr hentry)
  exact (((hindent.isInline.append hn).append (by decide)).append hv).append (by decide)

theorem isInline_themeBlocks (hindent : IsIndentation o.indent) (hquery : IsInline o.mediaQuery)
    (h : ∀ m n v, s.get? m n = some v → Session.IsInlineVariable n v) :
    ∀ t ∈ textsIn (themeBlocks o s), IsInline t := by
  have hroot : IsInline ":root" := by decide
  have hlight : ∀ d ∈ declarations o.indent (lightBindings s), IsInline d := by
    refine isInline_declarations hindent fun n v hv => ?_
    rw [lightBindings, OrderedMap.get?_overlay] at hv
    rcases Option.or_eq_some_iff.mp hv with hv | ⟨-, hv⟩
    · exact h .light n v hv
    · exact h .root n v hv
  have hdark : ∀ d ∈ declarations o.indent s.dark, IsInline d :=
    isInline_declarations hindent (h .dark)
  intro t ht
  rcases List.mem_append.mp ht with ht | ht
  · rcases List.mem_cons.mp ht with rfl | ht
    · exact hroot
    · exact hlight t ht
  · split at ht
    · cases ht
    · have hmedia : IsInline ("@media " ++ o.mediaQuery) :=
        IsInline.append (by decide) hquery
      simp only [textsIn, texts, List.append_nil, List.mem_cons] at ht
      rcases ht with rfl | rfl | ht
      · exact hmedia
      · exact hroot
      · exact hdark t ht

theorem exists_renders {o : Style.Options} {chunks : List Text} (h : ∀ css ∈ chunks, IsTidyText o css) :
    ∃ ls, Renders o (chunks.filter (· ≠ [])) ls ∧ AreTidy ls := by
  induction chunks with
  | nil => exact ⟨[], .nil, .nil⟩
  | cons css chunks ih =>
    obtain ⟨ls, hls, htidy⟩ := ih fun t ht => h t (List.mem_cons_of_mem css ht)
    obtain ⟨bs, hne, hbs, rfl, -⟩ := h css List.mem_cons_self
    have hcons := hls.cons bs
    rw [if_neg (Style.joinBlocks_ne_nil hne)] at hcons
    refine ⟨bs ++ ls, ?_, hbs.append htidy⟩
    rw [List.filter_cons, if_pos (decide_eq_true (Style.joinBlocks_ne_nil hne))]
    exact hcons

/-- **A style sheet of inline variables and tidy chunks is that of tidy blocks**: those of its
variables, and of its rules, if they are asked for. -/
theorem exists_assemble_eq (hindent : IsIndentation o.indent) (hquery : IsInline o.mediaQuery)
    (hs : ∀ m n v, s.get? m n = some v → Session.IsInlineVariable n v) {chunks : List Text}
    (hchunks : ∀ css ∈ chunks, IsTidyText o.style css) :
    ∃ ls, (o.includeStyles = false → ls = []) ∧ AreTidy (themeBlocks o s ++ ls) ∧
      assemble o s chunks = writeBlocks o.style (themeBlocks o s ++ ls) := by
  have hinline := isInline_themeBlocks hindent hquery hs
  have hthemes : AreTidy (themeBlocks o s) := ⟨areProper_themeBlocks o s, hinline⟩
  cases hstyles : o.includeStyles with
  | false =>
    refine ⟨[], fun _ => rfl, ?_, assemble_eq_writeBlocks hinline ?_⟩
    · rwa [List.append_nil]
    · rw [hstyles]
      exact .nil
  | true =>
    obtain ⟨ls, hls, htidy⟩ := exists_renders hchunks
    refine ⟨ls, nofun, hthemes.append htidy, assemble_eq_writeBlocks hinline ?_⟩
    rw [hstyles]
    exact hls

end Sheet

namespace Session

/-- A session whose names, values, headers and declarations stand on one line each, without braces,
under an indentation. -/
structure IsTidy (s : Session) : Prop where
  indent : IsIndentation s.config.indent
  query : IsInline s.config.darkMediaQuery
  chunks : ∀ css ∈ s.chunks, IsTidyText { indent := s.config.indent } css
  inline : ∀ m n v, s.registry.store.get? m n = some v → IsInlineVariable n v

/-- **A run of tidy calls leaves a tidy session**, whatever is hoisted and shortened then. -/
theorem isTidy_run {config : Config} {calls : List Call} (hindent : IsIndentation config.indent)
    (hquery : IsInline config.darkMediaQuery) (hpos : 0 < config.hoistThreshold)
    (hcalls : ∀ call ∈ calls, call.IsTidy config) :
    ((start config).run calls).1.optimize.1.IsTidy := by
  have hconfig : ((start config).run calls).1.optimize.1.config = config := config_run _ calls
  refine ⟨by rwa [hconfig], by rwa [hconfig], fun css hcss => ?_, fun m n v hv => ?_⟩
  · rw [hconfig]
    obtain ⟨chunk, hchunk, rfl⟩ := List.mem_map.mp hcss
    exact (isTidyText_run hindent hcalls chunk hchunk).shortened hindent _
  · exact isInlineVariable_run hindent hpos hcalls (follows_sinceReset config calls).optimize
      hconfig hv

end Session

end ThemedCss
