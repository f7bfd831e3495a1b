import ThemedCss.Proofs.Session.Counting
import ThemedCss.Proofs.Variable.Placement

/-!
# When style sheets are made

What is hoisted is decided whenever a style sheet or its references are made, and is never taken back.
A run that makes some in between may therefore decide before it has seen all uses. In the end the
partitions of the themes are the same, and so is the root but for names over which literals contend.

* `Call.brings`: the calls between which style sheets are made;
* `IsFrequent`: a literal that the whole run uses often enough behind a reference;
* `GivesWay`: how a root does without such a literal under its name;
* `placed_run`: promoted literals have places in every run;
* **`optimize_timing`**: the partitions after two runs that bring the same;
* **`hoisting_depends_on_timing`**: a style sheet in between can change the root.
-/

namespace ThemedCss

open Variable

/-- Whether a call brings variables or styles. -/
def Call.brings (call : Call) : Bool := call.collects || call.compiles

namespace Session

variable {config : Config} {calls calls' : List Call}

/-! ## What the calls bring -/

theorem filter_filter_brings {p : Call → Bool} (hp : ∀ call, p call = true → call.brings = true)
    (calls : List Call) : (calls.filter Call.brings).filter p = calls.filter p := by
  rw [List.filter_filter]
  refine List.filter_congr fun call _ => ?_
  cases hc : p call with
  | false => rfl
  | true => rw [hp call hc, Bool.true_and]

theorem collected_congr (config : Config)
    (h : calls.filter Call.brings = calls'.filter Call.brings) :
    collected config calls = collected config calls' := by
  have hbrings : ∀ call : Call, call.collects = true → call.brings = true := fun call hc => by
    rw [Call.brings, hc, Bool.true_or]
  unfold collected
  rw [← filter_filter_brings hbrings calls, h, filter_filter_brings hbrings]

theorem compiled_congr (config : Config)
    (h : calls.filter Call.brings = calls'.filter Call.brings) :
    compiled config calls = compiled config calls' := by
  have hbrings : ∀ call : Call, call.compiles = true → call.brings = true := fun call hc => by
    rw [Call.brings, hc, Bool.or_true]
  unfold compiled
  rw [← filter_filter_brings hbrings calls, h, filter_filter_brings hbrings]

/-! ## Places in a run -/

theorem Follows.placed_step {written : Registry} {compiled : List Text} {s : Session}
    (hs : Follows written compiled s)
    (h : Registry.Placed s.config.hoistThreshold written s.registry) {call : Call}
    (hr : call.resets = false) :
    Registry.Placed s.config.hoistThreshold ((call.leaves s.config).foldl Leaf.record written)
      (s.step call).1.registry := by
  obtain ⟨cache, he | ⟨hcollects, -, he⟩⟩ := step_cases s hr
  · rw [he]
    exact h.foldl_record _
  · rw [he, Call.leaves_eq_nil hcollects]
    have hscan : s.scanChunks.registry = { s.registry with
        table := s.registry.table.trackAll ((s.chunks.drop s.scanned).flatMap allReferences) } :=
      Registry.foldl_scan_eq s.registry (s.chunks.drop s.scanned)
    have hplaced : Registry.Placed s.config.hoistThreshold written s.scanChunks.registry := by
      rw [hscan]
      exact h.trackAll _
    exact hplaced.hoist hs.scanChunks.registry

theorem Follows.placed_run {written : Registry} {compiled : List Text} {s : Session}
    (hs : Follows written compiled s)
    (h : Registry.Placed s.config.hoistThreshold written s.registry)
    (hr : ∀ call ∈ calls, call.resets = false) :
    Registry.Placed s.config.hoistThreshold
      ((calls.flatMap (Call.leaves s.config)).foldl Leaf.record written) (s.run calls).1.registry := by
  induction calls generalizing s written compiled with
  | nil => exact h
  | cons call calls ih =>
    rw [List.flatMap_cons, List.foldl_append]
    have hcall := hr call List.mem_cons_self
    have hstep := hs.step hcall
    have hplaced := hs.placed_step h hcall
    rw [← config_step s call] at hplaced ⊢
    exact ih (config_step s call ▸ hstep) hplaced fun c hc => hr c (List.mem_cons_of_mem _ hc)

/-- **In a run without resets every promoted literal has a place.** -/
theorem placed_run (config : Config) (hr : ∀ call ∈ calls, call.resets = false) :
    Registry.Placed config.hoistThreshold (collected config calls)
      ((start config).run calls).1.registry := by
  rw [collected_eq]
  exact (follows_empty config _).placed_run (Registry.Placed.empty _ _) hr

/-! ## The root behind the last style sheet -/

/-- Whether a run uses a literal often enough behind a reference to hoist it. -/
def IsFrequent (config : Config) (calls : List Call) (reference v : Text) : Prop :=
  config.hoistThreshold ≤ usesIn config calls reference v

/-- A root does without a literal that is frequent behind a reference: it holds another literal there
that is, too, or leaves the name free for a place behind another reference. -/
def GivesWay (config : Config) (calls : List Call) (root : Bindings) (reference v : Text) : Prop :=
  (∃ w, w ≠ v ∧ IsFrequent config calls reference w ∧
    root.get? (ofReference reference) = some w) ∨
  root.get? (ofReference reference) = none ∧ ∃ other, other ≠ reference ∧
    IsFrequent config calls other v ∧ (root.get? (ofReference other) = some v ∨
      (collected config calls).store.root.get? (ofReference other) ≠ none)

theorem isFrequent_congr (config : Config)
    (h : calls.filter Call.brings = calls'.filter Call.brings) :
    IsFrequent config calls = IsFrequent config calls' := by
  funext reference v
  unfold IsFrequent usesIn
  rw [collected_congr config h, compiled_congr config h]

theorem givesWay_congr (config : Config)
    (h : calls.filter Call.brings = calls'.filter Call.brings) :
    GivesWay config calls = GivesWay config calls' := by
  funext root reference v
  unfold GivesWay
  rw [isFrequent_congr config h, collected_congr config h]

/-- The store behind a run and one more making of its references. -/
def optimizedStore (config : Config) (calls : List Call) : Store :=
  ((start config).run (calls ++ [.optimize])).1.registry.store

theorem run_optimize (config : Config) (calls : List Call) :
    ((start config).run (calls ++ [.optimize])).1 = ((start config).run calls).1.optimize.1 :=
  run_concat (start config) calls .optimize

theorem usesOf_optimize (hr : ∀ call ∈ calls, call.resets = false) (reference v : Text) :
    ((start config).run calls).1.optimize.1.registry.table.usesOf reference v =
      usesIn config calls reference v :=
  (follows_run config hr).optimize.usesOf_eq (List.length_map _).symm reference v

theorem extends_optimize (hr : ∀ call ∈ calls, call.resets = false) :
    Registry.Extends config.hoistThreshold (collected config calls)
      ((start config).run calls).1.optimize.1.registry := by
  have h := (follows_run config hr).optimize.registry
  change Registry.Extends ((start config).run calls).1.config.hoistThreshold _ _ at h
  rwa [config_run] at h

theorem isFrequent_of_get?_root (hr : ∀ call ∈ calls, call.resets = false) {n v : Text}
    (hn : (collected config calls).store.root.get? n = none)
    (hv : (optimizedStore config calls).root.get? n = some v) :
    ∃ reference, n = ofReference reference ∧ IsFrequent config calls reference v := by
  unfold optimizedStore at hv
  rw [run_optimize] at hv
  obtain ⟨reference, hname, huses⟩ := (extends_optimize hr).added n v hn hv
  rw [usesOf_optimize hr] at huses
  exact ⟨reference, hname, huses⟩

theorem exists_place_of_free (hpos : 0 < config.hoistThreshold)
    (hr : ∀ call ∈ calls, call.resets = false) {reference v : Text}
    (hfrequent : IsFrequent config calls reference v)
    (hfree : (optimizedStore config calls).root.get? (ofReference reference) = none) :
    ∃ other, other ≠ reference ∧ IsFrequent config calls other v ∧
      ((optimizedStore config calls).root.get? (ofReference other) = some v ∨
        (collected config calls).store.root.get? (ofReference other) ≠ none) := by
  have hwritten : (collected config calls).store.root.get? (ofReference reference) = none := by
    by_contra hne
    obtain ⟨w, hw⟩ := Option.ne_none_iff_exists'.mp hne
    have hroot := (extends_optimize hr).root _ w hw
    rw [← run_optimize] at hroot
    exact Option.some_ne_none w (hroot.symm.trans hfree)
  unfold optimizedStore at hfree ⊢
  rw [run_optimize] at hfree ⊢
  unfold IsFrequent at hfrequent ⊢
  simp only [← usesOf_optimize hr] at hfrequent ⊢
  have hoptimize : ((start config).run calls).1.optimize.1.registry =
      (((start config).run calls).1.scanChunks.registry.hoist config.hoistThreshold).1 :=
    congrArg (fun c : Config =>
      (((start config).run calls).1.scanChunks.registry.hoist c.hoistThreshold).1)
      (config_run (start config) calls)
  have hplaced : Registry.Placed config.hoistThreshold (collected config calls)
      ((start config).run calls).1.optimize.1.registry := by
    have hall : ∀ call ∈ calls ++ [.optimize], call.resets = false := by
      intro call hc
      rcases List.mem_append.mp hc with hc | hc
      · exact hr call hc
      · obtain rfl := List.mem_singleton.mp hc
        rfl
    have hsame : collected config (calls ++ [.optimize]) = collected config calls :=
      collected_congr config (by rw [List.filter_append]; exact List.append_nil _)
    have h := placed_run config hall
    rwa [run_optimize, hsame] at h
  rw [hoptimize] at hplaced hfrequent hfree ⊢
  obtain ⟨other, huses, hplace⟩ := hplaced.hasPlace_of_free hpos hfrequent hfree
  refine ⟨other, ?_, huses, hplace⟩
  rintro rfl
  rcases hplace with hplace | hplace
  · exact Option.some_ne_none v (hplace.symm.trans hfree)
  · exact hplace hwritten

/-- A root name that the two orders of calls treat differently: no theme has written it, and of the
literals that are frequent behind it one is held by one root and gives way in the other. -/
theorem givesWay_of_get?_root (hpos : 0 < config.hoistThreshold)
    (hr : ∀ call ∈ calls, call.resets = false) (hr' : ∀ call ∈ calls', call.resets = false)
    (hsame : calls.filter Call.brings = calls'.filter Call.brings) {n v : Text}
    (hn : (collected config calls).store.root.get? n = none)
    (hv : (optimizedStore config calls).root.get? n = some v)
    (hne : (optimizedStore config calls').root.get? n ≠ some v) :
    ∃ reference, n = ofReference reference ∧ IsFrequent config calls reference v ∧
      GivesWay config calls (optimizedStore config calls').root reference v := by
  obtain ⟨reference, rfl, huses⟩ := isFrequent_of_get?_root hr hn hv
  refine ⟨reference, rfl, huses, ?_⟩
  rw [givesWay_congr config hsame]
  rw [collected_congr config hsame] at hn
  rw [isFrequent_congr config hsame] at huses
  cases hw : (optimizedStore config calls').root.get? (ofReference reference) with
  | some w =>
    obtain ⟨reference', hname, huses'⟩ := isFrequent_of_get?_root hr' hn hw
    obtain rfl : reference = reference' := List.append_cancel_left hname
    refine .inl ⟨w, ?_, huses', hw⟩
    rintro rfl
    exact hne hw
  | none => exact .inr ⟨hw, exists_place_of_free hpos hr' huses hw⟩

/-- **Two runs without resets that bring the same variables and styles in the same order, whatever
style sheets they make in between, end with the same partitions for the modes, and with the same root
but for names that no theme has written**: there one root holds a frequent literal that gives way in
the other one. -/
theorem optimize_timing (hpos : 0 < config.hoistThreshold)
    (hr : ∀ call ∈ calls, call.resets = false) (hr' : ∀ call ∈ calls', call.resets = false)
    (hsame : calls.filter Call.brings = calls'.filter Call.brings) :
    let s := ((start config).run (calls ++ [.optimize])).1.registry.store
    let s' := ((start config).run (calls' ++ [.optimize])).1.registry.store
    s.light = s'.light ∧ s.dark = s'.dark ∧
    ∀ n, s.root.get? n = s'.root.get? n ∨
      (collected config calls).store.root.get? n = none ∧
      ∃ reference v, n = ofReference reference ∧ IsFrequent config calls reference v ∧
        (s.root.get? n = some v ∧ GivesWay config calls s'.root reference v ∨
          s'.root.get? n = some v ∧ GivesWay config calls s.root reference v) := by
  intro s s'
  have h : Registry.Extends config.hoistThreshold (collected config calls)
      ((start config).run (calls ++ [.optimize])).1.registry :=
    run_optimize config calls ▸ extends_optimize hr
  have h' : Registry.Extends config.hoistThreshold (collected config calls)
      ((start config).run (calls' ++ [.optimize])).1.registry := by
    rw [collected_congr config hsame, run_optimize]
    exact extends_optimize hr'
  refine ⟨h.light.trans h'.light.symm, h.dark.trans h'.dark.symm, fun n => ?_⟩
  cases hn : (collected config calls).store.root.get? n with
  | some w => exact .inl ((h.root n w hn).trans (h'.root n w hn).symm)
  | none =>
    by_cases heq : s.root.get? n = s'.root.get? n
    · exact .inl heq
    refine .inr ⟨rfl, ?_⟩
    cases hv : s.root.get? n with
    | some v =>
      obtain ⟨reference, hname, huses, hway⟩ :=
        givesWay_of_get?_root hpos hr hr' hsame hn hv (fun hv' => heq (hv.trans hv'.symm))
      exact ⟨reference, v, hname, huses, .inl ⟨rfl, hway⟩⟩
    | none =>
      rw [hv] at heq
      obtain ⟨v, hv'⟩ := Option.ne_none_iff_exists'.mp (Ne.symm heq)
      have hn' : (collected config calls').store.root.get? n = none :=
        collected_congr config hsame ▸ hn
      obtain ⟨reference, hname, huses, hway⟩ := givesWay_of_get?_root hpos hr' hr hsame.symm hn' hv'
        (fun hv'' => Option.some_ne_none v (hv''.symm.trans hv))
      rw [← isFrequent_congr config hsame] at huses
      rw [← givesWay_congr config hsame] at hway
      exact ⟨reference, v, hname, huses, .inr ⟨hv', hway⟩⟩

/-- A component with one variable. -/
def componentCall (key value : Text) : Call :=
  .createVars (.map [(.text key, .scalar (.text value))]) (.scalar (.text ""))

/-- Two uses of a literal behind one name, three behind another one, and a third one behind the first,
with some calls before this one. -/
def contendingCalls (between : List Call) : List Call :=
  List.replicate 2 (componentCall "a" "x") ++ List.replicate 3 (componentCall "b" "x") ++ between ++
    [componentCall "a" "x"]

theorem optimize_timing_contending :
    let root := ((start {}).run (contendingCalls [] ++ [.optimize])).1.registry.store.root
    let root' := ((start {}).run (contendingCalls [.optimize] ++ [.optimize])).1.registry.store.root
    root.get? "--a" = some "x" ∧ root'.get? "--a" = none ∧ root'.get? "--b" = some "x" ∧
      (collected {} (contendingCalls [])).store.root.get? "--a" = none ∧
      IsFrequent {} (contendingCalls []) "a" "x" ∧
      GivesWay {} (contendingCalls []) root' "a" "x" := by
  intro root root'
  have hone : root.get? "--a" = some "x" := by decide +kernel
  have hnone : root'.get? "--a" = none := by decide +kernel
  have hpos : 0 < ({} : Config).hoistThreshold := by decide
  have hr : ∀ call ∈ contendingCalls [], call.resets = false := by decide
  have hr' : ∀ call ∈ contendingCalls [.optimize], call.resets = false := by decide
  have h := (optimize_timing hpos hr hr' rfl).2.2 "--a"
  rcases h with heq | ⟨hwritten, reference, v, hname, huses, ⟨hv, hway⟩ | ⟨hv, -⟩⟩
  · exact absurd (hone.symm.trans (heq.trans hnone)) (Option.some_ne_none _)
  · obtain rfl : "a" = reference :=
      List.append_cancel_left (show ("--" ++ "a" : Text) = "--" ++ reference from hname)
    obtain rfl : "x" = v := Option.some.inj (hone.symm.trans hv)
    exact ⟨hone, hnone, by decide +kernel, hwritten, huses, hway⟩
  · exact absurd (hv.symm.trans hnone) (Option.some_ne_none _)

/-- **When style sheets are made decides what is hoisted**: a literal that is frequent behind two names
goes to the first of them that was so when it was looked at. -/
theorem hoisting_depends_on_timing : ¬ ∀ (config : Config) (calls calls' : List Call),
    (∀ call ∈ calls, call.resets = false) → (∀ call ∈ calls', call.resets = false) →
    calls.filter Call.brings = calls'.filter Call.brings →
    let s := ((start config).run (calls ++ [.optimize])).1.registry.store
    let s' := ((start config).run (calls' ++ [.optimize])).1.registry.store
    ∀ n, s.root.get? n = s'.root.get? n ∧ s.light.get? n = s'.light.get? n ∧
      s.dark.get? n = s'.dark.get? n := by
  intro h
  have hroot := (h {} (contendingCalls []) (contendingCalls [.optimize]) (by decide) (by decide) rfl
    "--a").1
  exact absurd hroot (by decide +kernel)

end Session

end ThemedCss
