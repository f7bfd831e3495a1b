import ThemedCss.Proofs.Session.History
import ThemedCss.Proofs.Variable.Mirror
import ThemedCss.Proofs.Variable.Shortening

/-!
# References without a fallback

A reference loses its fallback when it is answered to a caller, and when chunks are shortened. Both
happen only for names that the root or the light partition has, and these stay.

* `growsTo_step`, `growsTo_run`: a call keeps every name, and so does a run;
* `Declares`: the names that the block of the root declares;
* `answers_of_step`, `chunks_step`: where a call takes fallbacks away;
* **`bare_references_declared`**: the block of the root declares the name of every reference without
  a fallback, from the call that made it on.
-/

namespace ThemedCss.Session

open Variable

variable {s : Session} {call : Call} {calls : List Call} {n : Text}

/-! ## Names stay -/

theorem growsTo_step (s : Session) (h : call.resets = false) :
    s.registry.store.GrowsTo (s.step call).1.registry.store := by
  obtain ⟨cache, he | ⟨-, -, he⟩⟩ := step_cases s h
  · rw [he]
    exact Leaf.growsTo_foldl_record s.registry (call.leaves s.config)
  · rw [he]
    have hscan : s.scanChunks.registry.store = s.registry.store :=
      congrArg (·.store) (Registry.foldl_scan_eq s.registry (s.chunks.drop s.scanned))
    rw [← hscan]
    exact Registry.growsTo_hoist s.config.hoistThreshold s.scanChunks.registry

/-- **A run keeps every name in every partition.** -/
theorem growsTo_run (s : Session) (h : ∀ call ∈ calls, call.resets = false) :
    s.registry.store.GrowsTo (s.run calls).1.registry.store := by
  induction calls generalizing s with
  | nil => exact Store.GrowsTo.refl _
  | cons call calls ih =>
    have hcall := growsTo_step s (h call List.mem_cons_self)
    exact hcall.trans (ih _ fun c hc => h c (List.mem_cons_of_mem _ hc))

/-- Whether the root or the light partition of a session has a variable, and the block of the root
declares it. -/
def Declares (s : Session) (n : Text) : Prop :=
  (s.registry.store.has .root n = true ∨ s.registry.store.has .light n = true) ∧
    ∃ value, (Sheet.lightBindings s.registry.store).get? n = some value ∧
      ∀ includeStyles, Block.declaration s.config.indent n value ∈
        Sheet.rootLines (s.sheetOptions includeStyles) s.registry.store

theorem declares_of_store (h : s.registry.store.Declares n) : s.Declares n := by
  refine ⟨h, ?_⟩
  obtain ⟨value, hvalue, hline⟩ := Sheet.declaration_mem_rootLines h (s.sheetOptions true)
  exact ⟨value, hvalue, fun _ => hline⟩

/-! ## Where fallbacks go -/

theorem answers_of_collectWith {o : CollectOptions} {values name : Value} {m : ReferenceTree}
    (h : (s.after .references (s.collectWith o values name)).2 = .ok (.references m)) {text : Text}
    (htext : text ∈ m.texts) : ∃ l ∈ leavesOf o name values,
      l.Answers (s.after .references (s.collectWith o values name)).1.registry.store text := by
  unfold collectWith at h ⊢
  cases hc : collect o name values s.registry with
  | error f =>
    rw [hc] at h
    cases h
  | ok c =>
    rw [hc] at h
    obtain rfl : ReferenceTree.level c.references = m := Reply.references.inj (Except.ok.inj h)
    exact collect_isAnswered hc text (by rwa [ReferenceTree.texts] at htext)

theorem answers_of_step {m : ReferenceTree} (h : (s.step call).2 = .ok (.references m)) {text : Text}
    (htext : text ∈ m.texts) :
    ∃ l ∈ call.leaves s.config, l.Answers (s.step call).1.registry.store text := by
  cases call with
  | createTheme values name => exact answers_of_collectWith h htext
  | createVars values name => exact answers_of_collectWith h htext
  | createStyle subject styles =>
    change (s.after .style (s.createStyle subject styles)).2 = _ at h
    cases hc : s.createStyle subject styles with
    | error f => rw [hc] at h; cases h
    | ok r => rw [hc] at h; cases h
  | _ => cases h

/-- **A call that makes a style sheet shortens every chunk, and no other call changes one.** -/
theorem chunks_step (s : Session) (h : call.resets = false) :
    (call.generates s = true → (s.step call).1.chunks = s.chunks.map fun chunk =>
      (edits (s.step call).1.registry.store.root chunk).flatMap Edit.after) ∧
    (call.generates s = false →
      (s.step call).1.chunks = s.chunks ++ call.chunks s.config) := by
  constructor
  · intro hg
    obtain ⟨cache, he⟩ := step_of_generates s hg
    rw [he]
    exact List.map_congr_left fun chunk _ => (flatMap_after_edits _ chunk).symm
  · intro hg
    obtain ⟨cache, he⟩ := step_of_not_generates s h hg
    rw [he]
    rfl

theorem declares_of_shorten_mem_edits {o : Opening} {d chunk : Text}
    (h : Edit.shorten o d ∈ edits s.registry.store.root chunk) :
    s.registry.store.Declares (ofReference o.name) :=
  .inl (Option.isSome_of_eq_some (get?_of_shorten_mem_edits h))

/-- **No reference without a fallback dangles.** A reference that a call answers for a leaf has the
leaf's text behind it, or the block of the root declares the leaf's name from then on. A call that
makes a style sheet replaces stretches of chunks, and where one of them loses its fallback, the block
of the root declares its name from then on; no other call changes a chunk. And no name leaves a
partition. -/
theorem bare_references_declared (config : Config) (before : List Call) {call : Call}
    {later : List Call} (hr : ∀ c ∈ call :: later, c.resets = false) :
    let s := ((start config).run before).1
    let next := (s.step call).1
    let last := (next.run later).1
    (∀ m, (s.step call).2 = .ok (.references m) → ∀ text ∈ m.texts, ∃ l ∈ call.leaves config,
      text = inlineReference (reference l.path) l.text ∨
        text = bareReference (reference l.path) ∧ last.Declares (name l.path)) ∧
    (call.generates s = true →
      next.chunks = s.chunks.map (fun chunk =>
        (edits next.registry.store.root chunk).flatMap Edit.after) ∧
      ∀ chunk ∈ s.chunks, (edits next.registry.store.root chunk).flatMap Edit.before = chunk ∧
        ∀ o d, Edit.shorten o d ∈ edits next.registry.store.root chunk →
          last.Declares (ofReference o.name)) ∧
    (call.generates s = false → next.chunks = s.chunks ++ call.chunks config) ∧
    ∀ mode n, s.registry.store.has mode n = true → last.registry.store.has mode n = true := by
  intro s next last
  have hcall : call.resets = false := hr call List.mem_cons_self
  have hlater : ∀ c ∈ later, c.resets = false := fun c hc => hr c (List.mem_cons_of_mem _ hc)
  have hconfig : s.config = config := config_run (start config) before
  have hstep : s.registry.store.GrowsTo next.registry.store := growsTo_step s hcall
  have hrun : next.registry.store.GrowsTo last.registry.store := growsTo_run next hlater
  obtain ⟨hgenerates, hkeeps⟩ := chunks_step s hcall
  refine ⟨fun m hm text htext => ?_, fun hg => ⟨hgenerates hg, fun chunk _ => ⟨?_, ?_⟩⟩, ?_,
    hstep.trans hrun⟩
  · obtain ⟨l, hl, hanswers⟩ := answers_of_step hm htext
    refine ⟨l, hconfig ▸ hl, hanswers.imp_right fun ⟨hbare, hname⟩ => ⟨hbare, ?_⟩⟩
    exact declares_of_store (hrun.declares hname)
  · exact flatMap_before_edits _ chunk
  · intro o d hshorten
    exact declares_of_store (hrun.declares (declares_of_shorten_mem_edits hshorten))
  · rw [← hconfig]
    exact hkeeps

/-- A theme with a gap, and a style that writes the gap out behind its reference. -/
def gapThemeCalls : List Call :=
  [.createTheme (.map [(.text "gap", .scalar (.text "1px"))]) (.scalar (.text "")),
    .createStyle (.style (.rules [(.text "a", .rules [(.text "margin",
      .property (.scalar (.text "var(--gap, 1px)")))])])) none]

theorem bare_references_declared_gap :
    let later : List Call := [.createVars (.map [(.text "light", .map [(.text "gap",
      .scalar (.text "2px"))])]) (.scalar (.text ""))]
    let next := (((start {}).run gapThemeCalls).1.step (.css true none)).1
    next.chunks = ["a \x7b\n  margin: var(--gap);\n\x7d"] ∧ (next.run later).1.Declares "--gap" := by
  intro later next
  have hr : ∀ c ∈ Call.css true none :: later, c.resets = false := by decide
  obtain ⟨-, hshort, -⟩ := bare_references_declared {} gapThemeCalls hr
  have hedit : Edit.shorten ⟨"var(--gap, ", "gap"⟩ "1px" ∈
      edits next.registry.store.root "a \x7b\n  margin: var(--gap, 1px);\n\x7d" := by
    decide +kernel
  have hchunk : ("a \x7b\n  margin: var(--gap, 1px);\n\x7d" : Text) ∈
      ((start {}).run gapThemeCalls).1.chunks := by decide +kernel
  refine ⟨by decide +kernel, ?_⟩
  exact ((hshort rfl).2 _ hchunk).2 _ _ hedit

end ThemedCss.Session
