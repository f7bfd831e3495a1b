import ThemedCss.Proofs.Cache.Older
import ThemedCss.Proofs.Session.History

/-!
# Sessions after a reset

A session that has been reset goes on like a new one. Its cache still holds what was kept in it before,
but these entries are older than all that follow, so that they change nothing under the keys that were
free.

* `Call.key?`: the key that a call asks the cache for;
* `Session.withCache`: a session with another cache;
* `step_withCache`, `run_withCache`: the same calls in sessions whose caches differ in older entries;
* **`run_reset`**: a run after a reset answers like a run of a new session.
-/

namespace ThemedCss

/-- The key that a call asks the cache for, and keeps its answer under. -/
def Call.key? : Call → Option Scalar
  | css _ key => key
  | _ => none

namespace Session

/-- The session with another cache. -/
def withCache (s : Session) (cache : Cache Scalar) : Session := { s with cache := cache }

variable {s : Session} {cache : Cache Scalar} {used : Scalar → Prop}

/-! ## One call -/

theorem cache_step_of_brings (s : Session) {call : Call}
    (h : call.collects = true ∨ call.compiles = true) : (s.step call).1.cache = s.cache := by
  cases call with
  | createTheme values name =>
    have hafter := after_collectWith ⟨true, .scope⟩ values name s
    exact (congrArg Session.cache hafter :)
  | createVars values name =>
    have hafter := after_collectWith ⟨false, s.config.varsThemeKeys⟩ values name s
    exact (congrArg Session.cache hafter :)
  | createStyle subject styles =>
    have hafter := after_createStyle subject styles s
    exact (congrArg Session.cache hafter :)
  | _ => exact absurd h (not_or_intro Bool.false_ne_true Bool.false_ne_true)

theorem cache_step (s : Session) (call : Call) :
    (s.step call).1.cache = s.cache ∨ (s.step call).1.cache = s.cache.clear ∨
      ∃ key css metadata, (s.step call).1.cache = s.cache.set key css metadata := by
  cases call with
  | createTheme values name => exact .inl (cache_step_of_brings s (.inl rfl))
  | createVars values name => exact .inl (cache_step_of_brings s (.inl rfl))
  | createStyle subject styles => exact .inl (cache_step_of_brings s (.inr rfl))
  | css includeStyles key =>
    cases key with
    | none => exact .inl rfl
    | some k =>
      change (s.css includeStyles (some k)).1.cache = s.cache ∨
        (s.css includeStyles (some k)).1.cache = s.cache.clear ∨ ∃ key css metadata,
          (s.css includeStyles (some k)).1.cache = s.cache.set key css metadata
      cases hk : s.cache.shouldRegenerate k includeStyles with
      | true =>
        rw [css_of_regenerates hk]
        exact .inr (.inr ⟨k, _, _, rfl⟩)
      | false =>
        rw [css_of_not_regenerates hk]
        exact .inl rfl
  | clearCache => exact .inr (.inl rfl)
  | generateStyles => exact .inl rfl
  | optimize => exact .inl rfl
  | reset => exact .inl rfl

theorem bound_step (s : Session) (call : Call) : (s.step call).1.cache.bound = s.cache.bound := by
  rcases cache_step s call with h | h | ⟨key, css, metadata, h⟩
  · rw [h]
  · rw [h]
    rfl
  · rw [h]
    rfl

theorem after_withCache {α : Type} (reply : α → Reply) (s : Session) (cache : Cache Scalar)
    {x y : Except Fault (Session × α)} (h : y = x.map fun (t, a) => (t.withCache cache, a)) :
    (s.withCache cache).after reply y =
      ((s.after reply x).1.withCache cache, (s.after reply x).2) := by
  subst h
  cases x with
  | error f => rfl
  | ok result => rfl

theorem collectWith_withCache (o : CollectOptions) (values name : Value) (s : Session)
    (cache : Cache Scalar) :
    (s.withCache cache).collectWith o values name =
      (s.collectWith o values name).map fun (t, references) => (t.withCache cache, references) := by
  change (collect o name values s.registry >>= _) = (collect o name values s.registry >>= _).map _
  cases collect o name values s.registry with
  | error f => rfl
  | ok c => rfl

theorem createStyle_withCache (subject : Subject) (styles : Option Style) (s : Session)
    (cache : Cache Scalar) :
    (s.withCache cache).createStyle subject styles =
      (s.createStyle subject styles).map fun (t, style) => (t.withCache cache, style) := by
  unfold createStyle
  cases effectiveStyle subject styles with
  | error f => rfl
  | ok style =>
    cases style with
    | none => rfl
    | some style =>
      change (style.compile s.styleOptions [] >>= _) =
        (style.compile s.styleOptions [] >>= _).map _
      cases style.compile s.styleOptions [] with
      | error f => rfl
      | ok css =>
        by_cases hcss : css = []
        · subst hcss
          rfl
        · change Except.ok (if css = [] then _ else _, style) =
            (Except.ok (if css = [] then _ else _, style)).map _
          rw [if_neg hcss, if_neg hcss]
          rfl

theorem css_withCache (h : Cache.HoldsBehind used cache s.cache) (includeStyles : Bool)
    {key : Option Scalar} (hkey : ∀ k ∈ key, used k) :
    ∃ c, Cache.HoldsBehind used c (s.css includeStyles key).1.cache ∧
      (s.withCache cache).css includeStyles key =
        ((s.css includeStyles key).1.withCache c, (s.css includeStyles key).2) := by
  cases key with
  | none => exact ⟨cache, h, rfl⟩
  | some k =>
    have hused : used k := hkey k rfl
    have hregenerate : (s.withCache cache).cache.shouldRegenerate k includeStyles =
        s.cache.shouldRegenerate k includeStyles := h.shouldRegenerate_eq hused includeStyles
    cases hk : s.cache.shouldRegenerate k includeStyles with
    | true =>
      rw [css_of_regenerates hk, css_of_regenerates (hregenerate.trans hk)]
      exact ⟨_, h.set hused _ _, rfl⟩
    | false =>
      have hget : (s.withCache cache).cache.get? k = s.cache.get? k := by
        unfold Cache.get?
        exact congrArg (Option.map _) (h.get?_eq hused)
      rw [css_of_not_regenerates hk, css_of_not_regenerates (hregenerate.trans hk), hget]
      exact ⟨cache, h, rfl⟩

/-- **One call in two sessions whose caches differ in older entries.** -/
theorem step_withCache (h : Cache.HoldsBehind used cache s.cache) {call : Call}
    (hkey : ∀ k ∈ call.key?, used k) :
    ∃ c, Cache.HoldsBehind used c (s.step call).1.cache ∧
      (s.withCache cache).step call = ((s.step call).1.withCache c, (s.step call).2) := by
  -- The calls that bring something leave both caches as they are.
  have hbrings (hcall : call.collects = true ∨ call.compiles = true) :
      Cache.HoldsBehind used cache (s.step call).1.cache := (cache_step_of_brings s hcall).symm ▸ h
  cases call with
  | createTheme values name =>
    exact ⟨cache, hbrings (.inl rfl),
      after_withCache .references s cache (collectWith_withCache _ values name s cache)⟩
  | createVars values name =>
    exact ⟨cache, hbrings (.inl rfl),
      after_withCache .references s cache (collectWith_withCache _ values name s cache)⟩
  | createStyle subject styles =>
    exact ⟨cache, hbrings (.inr rfl),
      after_withCache .style s cache (createStyle_withCache subject styles s cache)⟩
  | css includeStyles key =>
    obtain ⟨c, hc, hcss⟩ := css_withCache h includeStyles hkey
    refine ⟨c, hc, ?_⟩
    change (((s.withCache cache).css includeStyles key).1, _) = _
    exact congrArg (fun r : Session × Text => (r.1, Except.ok (Reply.text r.2))) hcss
  | clearCache => exact ⟨cache.clear, h.clear, rfl⟩
  | generateStyles => exact ⟨cache, h, rfl⟩
  | optimize => exact ⟨cache, h, rfl⟩
  | reset => exact ⟨cache, h, rfl⟩

/-! ## Runs -/

theorem run_withCache (h : Cache.HoldsBehind used cache s.cache) {calls : List Call}
    (hkeys : ∀ call ∈ calls, ∀ k ∈ call.key?, used k) :
    ∃ c, (s.withCache cache).run calls = ((s.run calls).1.withCache c, (s.run calls).2) := by
  induction calls generalizing s cache with
  | nil => exact ⟨cache, rfl⟩
  | cons call calls ih =>
    obtain ⟨c, hc, hstep⟩ := step_withCache h (hkeys call List.mem_cons_self)
    obtain ⟨c', hrun⟩ := ih hc fun other hother => hkeys other (List.mem_cons_of_mem _ hother)
    refine ⟨c', ?_⟩
    rw [run, hstep]
    dsimp only
    rw [hrun]
    rfl

theorem bound_run (s : Session) (calls : List Call) :
    (s.run calls).1.cache.bound = s.cache.bound := by
  induction calls generalizing s with
  | nil => rfl
  | cons call calls ih => exact (ih _).trans (bound_step s call)

/-- A session that has been reset is a new one, but for its cache. -/
theorem reset_run (config : Config) (calls : List Call) :
    ((start config).run calls).1.reset =
      (start config).withCache ((start config).run calls).1.cache := by
  have hconfig : ((start config).run calls).1.config = config := config_run (start config) calls
  unfold reset
  rw [hconfig]
  rfl

/-- **A session that has been reset goes on like a new one**, whatever its cache holds and however many
entries there is room for, as long as it is not asked for what was kept there before: every call gets
the same answer, and the variables, the counts and the rules are the same behind every call. -/
theorem run_reset {config : Config} {earlier later : List Call}
    (h : ∀ call ∈ later, ∀ k ∈ call.key?, ((start config).run earlier).1.cache.has k = false) :
    let s := ((start config).run earlier).1.reset
    (s.run later).2 = ((start config).run later).2 ∧
      ∀ calls, calls <+: later →
        (s.run calls).1.registry = ((start config).run calls).1.registry ∧
          (s.run calls).1.chunks = ((start config).run calls).1.chunks := by
  intro s
  have hs : s = (start config).withCache ((start config).run earlier).1.cache :=
    reset_run config earlier
  have hcache : Cache.HoldsBehind (fun k => ((start config).run earlier).1.cache.has k = false)
      ((start config).run earlier).1.cache (start config).cache := by
    refine ⟨bound_run (start config) earlier, _, (List.append_nil _).symm, fun e he hfree => ?_⟩
    rw [Cache.has, OrderedMap.contains, OrderedMap.get?_eq_some_iff.mpr he] at hfree
    cases hfree
  have hrun {calls : List Call} (hcalls : calls <+: later) : ∃ c, s.run calls =
      (((start config).run calls).1.withCache c, ((start config).run calls).2) := by
    rw [hs]
    exact run_withCache hcache fun call hcall => h call (hcalls.subset hcall)
  refine ⟨?_, fun calls hcalls => ?_⟩
  · obtain ⟨c, hlater⟩ := hrun (List.prefix_refl later)
    rw [hlater]
  · obtain ⟨c, hcalls⟩ := hrun hcalls
    rw [hcalls]
    exact ⟨rfl, rfl⟩

/-- A theme and a style sheet that is kept under a key, in a cache with room for one. -/
def sizeCalls (key : Text) (size : Text) : List Call :=
  [.createTheme (.map [(.text "gap", .scalar (.text size))]) (.scalar (.text "")),
    .createStyle (.style (.rules [(.text "p", .rules
      [(.text "margin", .property (.scalar (.text ("var(--gap, " ++ size ++ ")"))))])])) none,
    .css false (some (.text key)), .css true (some (.text key)), .css true (some (.text key))]

theorem run_reset_full :
    let config : Config := { cacheMaxEntries := some 1 }
    let earlier := sizeCalls "a" "1px"
    let later := sizeCalls "b" "2px" ++ sizeCalls "c" "3px"
    (∀ call ∈ later, ∀ k ∈ call.key?, ((start config).run earlier).1.cache.has k = false) ∧
      ((start config).run earlier).1.cache.has (.text "a") = true ∧
      (((start config).run earlier).1.reset.run later).2 = ((start config).run later).2 ∧
      (((start config).run earlier).1.reset.run later).1.registry =
        ((start config).run later).1.registry := by
  intro config earlier later
  have hfree : ∀ call ∈ later, ∀ k ∈ call.key?,
      ((start config).run earlier).1.cache.has k = false := by decide +kernel
  obtain ⟨hreplies, hstates⟩ := run_reset hfree
  exact ⟨hfree, by decide +kernel, hreplies, (hstates later (List.prefix_refl later)).1⟩

end Session

end ThemedCss
