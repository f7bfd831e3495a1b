import ThemedCss.Proofs.Variable.Promotion
import ThemedCss.Session.Call

/-!
# What a run has collected and compiled

Two parts of a run can be told without the rest of it: the variables that its themes and components
bring, and the chunks that its styles compile to. A session without resets is these two, with some
chunks counted, some fallbacks hoisted and the chunks shortened.

* `Session.collected`, `Session.compiled`: the registry and the chunks of the calls that bring them;
* `Session.usesIn`: how often a run uses a literal behind a reference;
* `Call.leaves`, `Call.chunks`: what one call brings;
* `Call.generates`, `step_cases`: what one call does;
* `Session.Follows`: how a session stands to what has been collected and compiled;
* **`follows_run`**: a session follows its run.
-/

namespace ThemedCss

open Variable

namespace Call

/-- Whether a call collects variables. -/
def collects : Call → Bool
  | createTheme _ _ | createVars _ _ => true
  | _ => false

/-- Whether a call compiles styles. -/
def compiles : Call → Bool
  | createStyle _ _ => true
  | _ => false

/-- Whether a call resets the session. -/
def resets : Call → Bool
  | reset => true
  | _ => false

end Call

namespace Session

/-- The registry of a run from which only the calls that collect variables are made. -/
def collected (config : Config) (calls : List Call) : Registry :=
  ((start config).run (calls.filter Call.collects)).1.registry

/-- The chunks of a run from which only the calls that compile styles are made. -/
def compiled (config : Config) (calls : List Call) : List Text :=
  ((start config).run (calls.filter Call.compiles)).1.chunks

/-- How often a run uses a literal behind a reference: as a leaf, or in a chunk as it was
compiled. -/
def usesIn (config : Config) (calls : List Call) (reference value : Text) : Nat :=
  (collected config calls).table.usesOf reference value +
    ((compiled config calls).flatMap allReferences).count (reference, value)

end Session

/-! ## What one call brings -/

/-- The chunk of the rules that a subject is compiled to, if there are any. -/
def chunkOf (config : Config) (subject : Subject) (styles : Option Style) : List Text :=
  match Session.effectiveStyle subject styles with
  | .ok (some style) =>
    match style.compile ⟨config.indent, config.styleThemeKeys⟩ [] with
    | .ok css => if css = [] then [] else [css]
    | .error _ => []
  | _ => []

namespace Call

/-- The leaves that a call collects. -/
def leaves (config : Config) : Call → List Leaf
  | createTheme values name => leavesOf ⟨true, .scope⟩ name values
  | createVars values name => leavesOf ⟨false, config.varsThemeKeys⟩ name values
  | _ => []

/-- The chunks that a call compiles. -/
def chunks (config : Config) : Call → List Text
  | createStyle subject styles => chunkOf config subject styles
  | _ => []

/-- Whether a call makes a style sheet or its references: one that is served from the cache does
not. -/
def generates (s : Session) : Call → Bool
  | optimize | css _ none => true
  | css includeStyles (some key) => s.cache.shouldRegenerate key includeStyles
  | _ => false

variable {config : Config} {call : Call}

theorem brings_of_generates {s : Session} (h : call.generates s = true) :
    call.collects = false ∧ call.compiles = false := by
  cases call with
  | createTheme values name => cases h
  | createVars values name => cases h
  | createStyle subject styles => cases h
  | _ => exact ⟨rfl, rfl⟩

theorem leaves_eq_nil (h : call.collects = false) : call.leaves config = [] := by
  cases call with
  | createTheme values name => cases h
  | createVars values name => cases h
  | _ => rfl

theorem chunks_eq_nil (h : call.compiles = false) : call.chunks config = [] := by
  cases call with
  | createStyle subject styles => cases h
  | _ => rfl

theorem resets_of_collects (h : call.collects = true) : call.resets = false := by
  cases call with
  | reset => cases h
  | _ => rfl

theorem resets_of_compiles (h : call.compiles = true) : call.resets = false := by
  cases call with
  | reset => cases h
  | _ => rfl

end Call

namespace Session

/-- The session with leaves recorded and chunks added. -/
def extend (s : Session) (leaves : List Leaf) (chunks : List Text) : Session :=
  { s with registry := leaves.foldl Leaf.record s.registry, chunks := s.chunks ++ chunks }

theorem extend_nil (s : Session) : s.extend [] [] = s := by
  unfold extend
  rw [List.append_nil]
  rfl

theorem after_collectWith (o : CollectOptions) (values name : Value) (s : Session) :
    (s.after .references (s.collectWith o values name)).1 =
      s.extend (leavesOf o name values) [] := by
  unfold collectWith
  cases hc : collect o name values s.registry with
  | error f =>
    rw [leavesOf_eq_nil hc, extend_nil]
    rfl
  | ok c =>
    unfold extend
    rw [← collect_registry hc, List.append_nil]
    rfl

theorem after_createStyle (subject : Subject) (styles : Option Style) (s : Session) :
    (s.after .style (s.createStyle subject styles)).1 =
      s.extend [] (chunkOf s.config subject styles) := by
  unfold createStyle chunkOf
  cases effectiveStyle subject styles with
  | error f => exact (extend_nil s).symm
  | ok style =>
    cases style with
    | none => exact (extend_nil s).symm
    | some style =>
      change (s.after .style (style.compile s.styleOptions [] >>= _)).1 =
        s.extend [] (match style.compile s.styleOptions [] with | .ok css => _ | .error _ => _)
      cases style.compile s.styleOptions [] with
      | error f => exact (extend_nil s).symm
      | ok css =>
        by_cases hcss : css = []
        · subst hcss
          exact (extend_nil s).symm
        · change (if css = [] then s else _) = s.extend [] (if css = [] then [] else [css])
          rw [if_neg hcss, if_neg hcss]
          rfl

theorem css_of_regenerates {s : Session} {key : Scalar} {includeStyles : Bool}
    (h : s.cache.shouldRegenerate key includeStyles = true) :
    s.css includeStyles (some key) =
      ({ s.optimize.1 with
          cache := s.cache.set key (s.optimize.1.sheet includeStyles)
            (if includeStyles then [] else Cache.needsStyles) },
        s.optimize.1.sheet includeStyles) := if_pos h

theorem css_of_not_regenerates {s : Session} {key : Scalar} {includeStyles : Bool}
    (h : s.cache.shouldRegenerate key includeStyles = false) :
    s.css includeStyles (some key) = (s, (s.cache.get? key).getD []) :=
  if_neg (by rw [h]; exact Bool.false_ne_true)

/-- What a call does that makes a style sheet or its references: it optimizes; the cache aside. -/
theorem step_of_generates (s : Session) {call : Call} (h : call.generates s = true) :
    ∃ cache, (s.step call).1 = { s.optimize.1 with cache := cache } := by
  cases call with
  | optimize => exact ⟨s.optimize.1.cache, rfl⟩
  | css includeStyles key =>
    cases key with
    | none => exact ⟨s.optimize.1.cache, rfl⟩
    | some k =>
      have hk : s.cache.shouldRegenerate k includeStyles = true := h
      refine ⟨(s.css includeStyles (some k)).1.cache, ?_⟩
      simp only [step, css, hk, if_true]
      rfl
  | _ => cases h

/-- What every other call does, but a reset: it brings leaves and chunks; the cache aside. -/
theorem step_of_not_generates (s : Session) {call : Call} (hr : call.resets = false)
    (h : call.generates s = false) : ∃ cache, (s.step call).1 =
      { s.extend (call.leaves s.config) (call.chunks s.config) with cache := cache } := by
  cases call with
  | createTheme values name => exact ⟨s.cache, after_collectWith _ values name s⟩
  | createVars values name => exact ⟨s.cache, after_collectWith _ values name s⟩
  | createStyle subject styles => exact ⟨s.cache, after_createStyle subject styles s⟩
  | generateStyles => exact ⟨s.cache, (extend_nil s).symm⟩
  | optimize => cases h
  | css includeStyles key =>
    cases key with
    | none => cases h
    | some k =>
      have hk : s.cache.shouldRegenerate k includeStyles = false := h
      refine ⟨s.cache, ?_⟩
      simp only [step, css, hk]
      exact (extend_nil s).symm
  | reset => cases hr
  | clearCache =>
    exact ⟨s.cache.clear,
      congrArg (fun t : Session => { t with cache := s.cache.clear }) (extend_nil s).symm⟩

/-- **What one call does**: it brings leaves and chunks, or it optimizes; the cache aside. -/
theorem step_cases (s : Session) {call : Call} (h : call.resets = false) :
    ∃ cache, (s.step call).1 =
        { s.extend (call.leaves s.config) (call.chunks s.config) with cache := cache } ∨
      call.collects = false ∧ call.compiles = false ∧
        (s.step call).1 = { s.optimize.1 with cache := cache } := by
  cases hg : call.generates s with
  | true =>
    obtain ⟨cache, hstep⟩ := step_of_generates s hg
    obtain ⟨hcollects, hcompiles⟩ := Call.brings_of_generates hg
    exact ⟨cache, .inr ⟨hcollects, hcompiles, hstep⟩⟩
  | false =>
    obtain ⟨cache, hstep⟩ := step_of_not_generates s h hg
    exact ⟨cache, .inl hstep⟩

theorem config_step (s : Session) (call : Call) : (s.step call).1.config = s.config := by
  cases hr : call.resets with
  | true =>
    cases call with
    | reset => rfl
    | _ => cases hr
  | false =>
    obtain ⟨cache, h | ⟨-, -, h⟩⟩ := step_cases s hr
    · rw [h]
      rfl
    · rw [h]
      rfl

theorem config_run (s : Session) (calls : List Call) : (s.run calls).1.config = s.config := by
  induction calls generalizing s with
  | nil => rfl
  | cons call calls ih => exact (ih _).trans (config_step s call)

/-! ## The two parts of a run -/

/-- What a run shows when only some calls are made, if the others would not change it. -/
theorem run_filter {β : Type} {keep : Call → Bool} (view : Session → β)
    (effect : Config → Call → β → β)
    (hkeep : ∀ s call, keep call = true → view (s.step call).1 = effect s.config call (view s))
    (hdrop : ∀ config call b, keep call = false → effect config call b = b)
    (s : Session) (calls : List Call) :
    view (s.run (calls.filter keep)).1 =
      calls.foldl (fun b call => effect s.config call b) (view s) := by
  induction calls generalizing s with
  | nil => rfl
  | cons call calls ih =>
    rw [List.foldl_cons]
    cases hc : keep call with
    | false =>
      rw [List.filter_cons_of_neg (by rw [hc]; exact Bool.false_ne_true), hdrop _ _ _ hc]
      exact ih s
    | true =>
      rw [List.filter_cons_of_pos hc, ← hkeep s call hc, ← config_step s call]
      exact ih (s.step call).1

theorem run_collects (s : Session) (calls : List Call) :
    (s.run (calls.filter Call.collects)).1.registry =
      (calls.flatMap (Call.leaves s.config)).foldl Leaf.record s.registry := by
  rw [List.foldl_flatMap]
  refine run_filter registry (fun config call r => (call.leaves config).foldl Leaf.record r)
    (fun s call hc => ?_) (fun config call r hc => ?_) s calls
  · obtain ⟨cache, h | ⟨hn, -, -⟩⟩ := step_cases s (Call.resets_of_collects hc)
    · rw [h]
      rfl
    · rw [hc] at hn
      cases hn
  · rw [Call.leaves_eq_nil hc]
    rfl

theorem run_compiles (s : Session) (calls : List Call) :
    (s.run (calls.filter Call.compiles)).1.chunks =
      s.chunks ++ calls.flatMap (Call.chunks s.config) := by
  rw [List.flatMap_def, ← List.foldl_append_eq_append]
  refine run_filter chunks (fun config call css => css ++ call.chunks config)
    (fun s call hc => ?_) (fun config call css hc => ?_) s calls
  · obtain ⟨cache, h | ⟨-, hn, -⟩⟩ := step_cases s (Call.resets_of_compiles hc)
    · rw [h]
      rfl
    · rw [hc] at hn
      cases hn
  · rw [Call.chunks_eq_nil hc, List.append_nil]

theorem collected_eq (config : Config) (calls : List Call) :
    collected config calls = (calls.flatMap (Call.leaves config)).foldl Leaf.record {} :=
  run_collects (start config) calls

theorem compiled_eq (config : Config) (calls : List Call) :
    compiled config calls = calls.flatMap (Call.chunks config) :=
  run_compiles (start config) calls

/-! ## A session follows its run -/

/-- A session stands to what has been collected and compiled as hoisting, counting and shortening
leave it: the chunks that are not counted are as they were compiled, and what is counted are the
leaves and the references of the other chunks as they were compiled. -/
structure Follows (written : Registry) (compiled : List Text) (s : Session) : Prop where
  registry : Registry.Extends s.config.hoistThreshold written s.registry
  length : s.chunks.length = compiled.length
  scanned_le : s.scanned ≤ compiled.length
  unscanned : s.chunks.drop s.scanned = compiled.drop s.scanned
  uses : ∀ reference value, s.registry.table.usesOf reference value =
    written.table.usesOf reference value +
      ((compiled.take s.scanned).flatMap allReferences).count (reference, value)

namespace Follows

variable {written : Registry} {compiled : List Text} {s : Session}

theorem cache (h : Follows written compiled s) (c : Cache Scalar) :
    Follows written compiled { s with cache := c } :=
  ⟨h.registry, h.length, h.scanned_le, h.unscanned, h.uses⟩

theorem extend (h : Follows written compiled s) (leaves : List Leaf) (chunks : List Text) :
    Follows (leaves.foldl Leaf.record written) (compiled ++ chunks) (s.extend leaves chunks) where
  registry := h.registry.foldl_record leaves
  length := by
    change (s.chunks ++ chunks).length = _
    rw [List.length_append, List.length_append, h.length]
  scanned_le := by
    rw [List.length_append]
    exact Nat.le_add_right_of_le h.scanned_le
  unscanned := by
    change (s.chunks ++ chunks).drop s.scanned = (compiled ++ chunks).drop s.scanned
    rw [List.drop_append_of_le_length (h.length ▸ h.scanned_le),
      List.drop_append_of_le_length h.scanned_le, h.unscanned]
  uses reference value := by
    change (leaves.foldl Leaf.record s.registry).table.usesOf reference value =
      (leaves.foldl Leaf.record written).table.usesOf reference value +
        (((compiled ++ chunks).take s.scanned).flatMap allReferences).count (reference, value)
    rw [Leaf.foldl_record_table, Leaf.foldl_record_table, UsageTable.usesOf_trackAll,
      UsageTable.usesOf_trackAll, h.uses, List.take_append_of_le_length h.scanned_le]
    omega

theorem scanChunks (h : Follows written compiled s) : Follows written compiled s.scanChunks := by
  have hr : s.scanChunks.registry = { s.registry with
      table := s.registry.table.trackAll ((s.chunks.drop s.scanned).flatMap allReferences) } :=
    Registry.foldl_scan_eq s.registry (s.chunks.drop s.scanned)
  refine ⟨?_, h.length, Nat.le_of_eq h.length, ?_, ?_⟩
  · rw [hr]
    exact h.registry.trackAll _
  · change s.chunks.drop s.chunks.length = compiled.drop s.chunks.length
    rw [List.drop_length, h.length, List.drop_length]
  · intro reference value
    change s.scanChunks.registry.table.usesOf reference value =
      written.table.usesOf reference value +
        ((compiled.take s.chunks.length).flatMap allReferences).count (reference, value)
    rw [hr, UsageTable.usesOf_trackAll, h.uses, h.unscanned, h.length, List.take_length,
      Nat.add_assoc, ← List.count_append, ← List.flatMap_append, List.take_append_drop]

theorem optimize (h : Follows written compiled s) : Follows written compiled s.optimize.1 := by
  have hs := h.scanChunks
  refine ⟨hs.registry.hoist, ?_, hs.scanned_le, ?_, ?_⟩
  · exact (List.length_map _).trans hs.length
  · change (s.chunks.map _).drop s.chunks.length = compiled.drop s.chunks.length
    rw [← List.map_drop, List.drop_length, h.length, List.drop_length, List.map_nil]
  · intro reference value
    exact (Registry.usesOf_hoist _ reference value).trans (hs.uses reference value)

theorem step (h : Follows written compiled s) {call : Call} (hr : call.resets = false) :
    Follows ((call.leaves s.config).foldl Leaf.record written)
      (compiled ++ call.chunks s.config) (s.step call).1 := by
  obtain ⟨cache, he | ⟨hcollects, hcompiles, he⟩⟩ := step_cases s hr
  · rw [he]
    exact (h.extend _ _).cache cache
  · rw [he, Call.leaves_eq_nil hcollects, Call.chunks_eq_nil hcompiles, List.append_nil]
    exact h.optimize.cache cache

theorem run (h : Follows written compiled s) {calls : List Call}
    (hr : ∀ call ∈ calls, call.resets = false) :
    Follows ((calls.flatMap (Call.leaves s.config)).foldl Leaf.record written)
      (compiled ++ calls.flatMap (Call.chunks s.config)) (s.run calls).1 := by
  induction calls generalizing s written compiled with
  | nil =>
    rw [List.flatMap_nil, List.flatMap_nil, List.append_nil]
    exact h
  | cons call calls ih =>
    rw [List.flatMap_cons, List.flatMap_cons, List.foldl_append, ← List.append_assoc]
    have hstep := h.step (hr call List.mem_cons_self)
    rw [← config_step s call]
    exact ih (config_step s call ▸ hstep) fun c hc => hr c (List.mem_cons_of_mem _ hc)

end Follows

theorem follows_empty (config : Config) (cache : Cache Scalar) :
    Follows {} [] { config := config, cache := cache } where
  registry := Registry.Extends.refl UsageTable.keyed_empty
  length := rfl
  scanned_le := Nat.le_refl 0
  unscanned := rfl
  uses _ _ := rfl

/-- **A session without resets follows its run.** -/
theorem follows_run (config : Config) {calls : List Call}
    (hr : ∀ call ∈ calls, call.resets = false) :
    Follows (collected config calls) (compiled config calls) ((start config).run calls).1 := by
  rw [collected_eq, compiled_eq]
  exact (follows_empty config _).run hr

end Session

end ThemedCss
