import ThemedCss.Proofs.Session.Meaning
import ThemedCss.Proofs.Variable.Growth
import ThemedCss.Proofs.Variable.Nesting

/-!
# What the references of a theme stand for

A theme may give one position several texts: for the light mode, for the dark mode and for both. The
reference at the position is written anew for each of them. The last one is right for all of them,
as long as no two positions share a name.

* `ThemedText.last?`: the last of some texts at a position for a mode;
* `Bindings.Yields`: the value behind the text of a reference;
* `StandsFor`: a reference is right for the texts of a position;
* `Store.Holds`, `holds_foldl_record`: what the texts of a theme leave in the partitions;
* `Store.Holds.standsFor_resolve`: the reference that is written last is right;
* **`Session.createTheme_standsFor`**: the references of a theme stand for its texts.
-/

namespace ThemedCss

open Variable

/-- How a theme collects its variables: a text without a mode goes to the root. -/
abbrev CollectOptions.full : CollectOptions := ⟨true, .scope⟩

/-- The parts of the name of a text in a tree below a name. -/
def ThemedText.path (o : CollectOptions) (theme : Text) (t : ThemedText) : List Text :=
  (t.leaf o (o.start theme)).path

theorem ThemedText.path_congr (o : CollectOptions) (theme : Text) {t u : ThemedText}
    (h : t.position = u.position) : t.path o theme = u.path o theme := by
  change _ ++ t.position.map segment = _ ++ u.position.map segment
  rw [h]

/-- The last of some texts at a position for a mode. -/
def ThemedText.last? (ts : List ThemedText) (p : List Text) (mode : Option Mode) : Option Text :=
  ((ts.filter fun t => t.position = p ∧ t.mode = mode).map ThemedText.text).getLast?

/-- Whether a text is a reference with a value behind it: the binding of its name, or else its
fallback. -/
def Bindings.Yields (e : Bindings) (reference text value : Text) : Prop :=
  (text = bareReference reference ∧ e.get? (ofReference reference) = some value) ∨
    ∃ fallback, text = inlineReference reference fallback ∧ e.select reference fallback = value

open ThemedText in
/-- Whether a text is the right reference for the texts of a position. -/
structure StandsFor (s : Store) (ts : List ThemedText) (p : List Text) (reference text : Text) :
    Prop where
  /-- It has no fallback, or the last dark text. -/
  form : text = bareReference reference ∨
    ∃ fallback, last? ts p (some .dark) = some fallback ∧ text = inlineReference reference fallback
  /-- In the light mode the last light text is behind it, or else the last text for both modes, or
  else the last dark text; in the dark mode the last dark text, or else what the light mode has. -/
  yields : ∃ value,
    (last? ts p (some .light)).or ((last? ts p none).or (last? ts p (some .dark))) = some value ∧
      (s.environment false).Yields reference text value ∧
      (s.environment true).Yields reference text ((last? ts p (some .dark)).getD value)
  /-- It has no fallback when there is a text for the light mode or for both, and no dark text comes
  after one for both. -/
  bare : (∃ t ∈ ts, t.position = p ∧ (t.mode = some .light ∨ t.mode = none)) →
    (ts.filter (·.position = p)).Pairwise (fun t u => t.mode = none → u.mode ≠ some .dark) →
      text = bareReference reference

/-! ## The last text at a position -/

namespace ThemedText

variable {ts before after : List ThemedText} {t : ThemedText} {p : List Text} {mode : Option Mode}

theorem last?_isSome (ht : t ∈ ts) : (last? ts t.position t.mode).isSome = true := by
  have hmem : t.text ∈ (ts.filter fun u => u.position = t.position ∧ u.mode = t.mode).map text :=
    List.mem_map_of_mem (List.mem_filter.mpr ⟨ht, decide_eq_true ⟨rfl, rfl⟩⟩)
  rw [last?, List.getLast?_isSome]
  exact List.ne_nil_of_mem hmem

theorem last?_append_of_forall_ne (h : ∀ u ∈ after, u.position ≠ p) :
    last? (before ++ after) p mode = last? before p mode := by
  have hafter : after.filter (fun t => t.position = p ∧ t.mode = mode) = [] :=
    List.filter_eq_nil_iff.mpr fun u hu hp => h u hu (of_decide_eq_true hp).1
  rw [last?, List.filter_append, hafter, List.append_nil, last?]

theorem last?_concat_self : last? (before ++ [t]) t.position t.mode = some t.text := by
  have hlast : [t].filter (fun u => u.position = t.position ∧ u.mode = t.mode) = [t] :=
    List.filter_eq_self.mpr fun u hu => by
      rw [List.mem_singleton.mp hu]
      exact decide_eq_true ⟨rfl, rfl⟩
  rw [last?, List.filter_append, hlast, List.map_append, List.map_singleton, List.getLast?_concat]

theorem not_pairwise_of_dark {u : ThemedText} (hdark : t.mode = some .dark)
    (hafter : ∀ v ∈ after, v.position ≠ t.position) (hu : u ∈ before ++ t :: after)
    (hp : u.position = t.position) (hnone : u.mode = none) :
    ¬ ((before ++ t :: after).filter (·.position = t.position)).Pairwise
      fun t u => t.mode = none → u.mode ≠ some .dark := by
  intro hpairwise
  have hbefore : u ∈ before := by
    rcases List.mem_append.mp hu with hu | hu
    · exact hu
    rcases List.mem_cons.mp hu with rfl | hu
    · rw [hnone] at hdark
      cases hdark
    · exact absurd hp (hafter u hu)
  have hu' : u ∈ before.filter (·.position = t.position) :=
    List.mem_filter.mpr ⟨hbefore, decide_eq_true hp⟩
  have ht' : t ∈ (t :: after).filter (·.position = t.position) :=
    List.mem_filter.mpr ⟨List.mem_cons_self, decide_eq_true rfl⟩
  rw [List.filter_append] at hpairwise
  exact (List.pairwise_append.mp hpairwise).2.2 u hu' t ht' hnone hdark

end ThemedText

/-! ## What the texts leave in the partitions -/

theorem Leaf.get?_foldl_record_eq (ls : List Leaf) (r : Registry) (m : Mode) (n : Text) :
    (ls.foldl record r).store.get? m n =
      ((ls.filter fun l => l.target = some m ∧ name l.path = n).map Leaf.text).getLast?.or
        (r.store.get? m n) := by
  induction ls generalizing r with
  | nil => rfl
  | cons l ls ih =>
    rw [List.foldl_cons, ih, get?_record, List.filter_cons]
    by_cases hl : l.target = some m ∧ name l.path = n
    · rw [if_pos hl, if_pos (decide_eq_true hl), List.map_cons, List.getLast?_cons, Option.some_or,
        Option.or_some]
    · rw [if_neg hl, if_neg fun h => hl (of_decide_eq_true h)]

/-- The mode of the texts that go to a partition. -/
def Mode.source : Mode → Option Mode
  | .root => none
  | m => some m

/-- Whether the partitions hold the last texts of a position under a name. -/
def Store.Holds (s : Store) (ts : List ThemedText) (p : List Text) (reference : Text) : Prop :=
  ∀ m : Mode, s.get? m (ofReference reference) = ThemedText.last? ts p m.source

section Theme

variable {theme : Text} {fields : List (Scalar × Value)}

/-- Whether texts of a theme that share a name share their position. -/
def Distinct (theme : Text) (ts : List ThemedText) : Prop :=
  ∀ t ∈ ts, ∀ u ∈ ts, name (t.path .full theme) = name (u.path .full theme) →
    t.position = u.position

instance (theme : Text) (ts : List ThemedText) : Decidable (Distinct theme ts) :=
  inferInstanceAs (Decidable (∀ t ∈ ts, ∀ u ∈ ts, _ → _))

theorem target?_full_eq_some_iff {mode : Option Mode} (h : mode ≠ some .root) (m : Mode) :
    CollectOptions.full.target? mode = some m ↔ mode = m.source := by
  rcases mode with _ | _ | _ | _
  · cases m <;> decide
  · exact absurd rfl h
  · cases m <;> decide
  · cases m <;> decide

/-- **The partitions hold the last texts of each position**, after any part of a theme. -/
theorem holds_foldl_record (h : Distinct theme (textsOf .full theme fields))
    {ts : List ThemedText} (hts : ts ⊆ textsOf .full theme fields) {t : ThemedText}
    (ht : t ∈ textsOf .full theme fields) :
    ((ts.map (ThemedText.leaf .full (CollectOptions.start .full theme))).foldl Leaf.record
        {}).store.Holds ts t.position (reference (t.path .full theme)) := by
  intro m
  have hempty : ({} : Registry).store.get? m (name (t.path .full theme)) = none := by
    cases m <;> rfl
  change Store.get? _ m (name (t.path .full theme)) = _
  rw [Leaf.get?_foldl_record_eq, hempty, Option.or_none, List.filter_map, List.map_map,
    ThemedText.last?]
  congr 2
  refine List.filter_congr fun u hu => decide_eq_decide.mpr ?_
  have htarget := target?_full_eq_some_iff (ThemedText.mode_ne_root (hts hu)) m
  constructor
  · rintro ⟨hm, hn⟩
    exact ⟨h u (hts hu) t ht hn, htarget.mp hm⟩
  · rintro ⟨hp, hm⟩
    exact ⟨htarget.mpr hm, congrArg name (ThemedText.path_congr .full theme hp)⟩

end Theme

/-! ## The reference to the last text of a position -/

namespace Store.Holds

open ThemedText

variable {s : Store} {ts ts' : List ThemedText} {p : List Text} {reference : Text}

theorem resolve_eq {r r' : Registry} (h : r.store.Holds ts p reference)
    (h' : r'.store.Holds ts' p reference) (hlast : ∀ mode, last? ts p mode = last? ts' p mode)
    (value : Text) : r.resolve reference value = r'.resolve reference value := by
  have hget (m : Mode) :
      r.store.get? m (ofReference reference) = r'.store.get? m (ofReference reference) :=
    (h m).trans ((hlast m.source).trans (h' m).symm)
  have hlight : r.store.has .light (ofReference reference) =
      r'.store.has .light (ofReference reference) := congrArg Option.isSome (hget .light)
  rw [Registry.resolve, Registry.resolve, hget .root, hlight]

theorem get?_environment (h : s.Holds ts p reference) (dark : Bool) :
    (s.environment dark).get? (ofReference reference) =
      (if dark then last? ts p (some .dark) else none).or
        ((last? ts p (some .light)).or (last? ts p none)) := by
  have hroot : s.root.get? (ofReference reference) = last? ts p none := h .root
  have hlight : s.light.get? (ofReference reference) = last? ts p (some .light) := h .light
  have hdark : s.dark.get? (ofReference reference) = last? ts p (some .dark) := h .dark
  rw [Store.get?_environment, hroot, hlight, hdark]

theorem standsFor_bareReference (h : s.Holds ts p reference) {value : Text}
    (hvalue : (last? ts p (some .light)).or (last? ts p none) = some value) :
    StandsFor s ts p reference (bareReference reference) := by
  refine ⟨.inl rfl, ⟨value, ?_, .inl ⟨rfl, ?_⟩, .inl ⟨rfl, ?_⟩⟩, fun _ _ => rfl⟩
  · rw [← Option.or_assoc, hvalue, Option.some_or]
  · rw [h.get?_environment, hvalue]
    rfl
  · rw [h.get?_environment, hvalue, if_pos rfl, Option.or_some]

theorem standsFor_inlineReference (h : s.Holds ts p reference) {fallback : Text}
    (hlight : last? ts p (some .light) = none) (hdark : last? ts p (some .dark) = some fallback)
    (hbare : (∃ t ∈ ts, t.position = p ∧ (t.mode = some .light ∨ t.mode = none)) →
      ¬ (ts.filter (·.position = p)).Pairwise fun t u => t.mode = none → u.mode ≠ some .dark) :
    StandsFor s ts p reference (inlineReference reference fallback) := by
  have henv := h.get?_environment
  rw [hlight, hdark] at henv
  refine ⟨.inr ⟨fallback, hdark, rfl⟩, ⟨(last? ts p none).getD fallback, ?_,
    .inr ⟨fallback, rfl, ?_⟩, .inr ⟨fallback, rfl, ?_⟩⟩, fun ht hpairwise => absurd hpairwise (hbare ht)⟩
  · rw [hlight, hdark, Option.none_or, Option.or_some]
  · rw [Bindings.select, henv]
    rfl
  · rw [Bindings.select, henv, hdark]
    rfl

/-- **The reference that is written for the last text of a position is right for all of them.** -/
theorem standsFor_resolve {r : Registry} {before after : List ThemedText} {t : ThemedText}
    (h : r.store.Holds (before ++ t :: after) t.position reference) (hmode : t.mode ≠ some .root)
    (hafter : ∀ u ∈ after, u.position ≠ t.position) :
    StandsFor r.store (before ++ t :: after) t.position reference (r.resolve reference t.text) := by
  have hlast : last? (before ++ t :: after) t.position t.mode = some t.text := by
    rw [List.append_cons, last?_append_of_forall_ne hafter, last?_concat_self]
  have hroot : r.store.get? .root (ofReference reference) =
      last? (before ++ t :: after) t.position none := h .root
  have hlight : r.store.get? .light (ofReference reference) =
      last? (before ++ t :: after) t.position (some .light) := h .light
  unfold Registry.resolve
  split
  · rename_i hbare
    have hsome : ((last? (before ++ t :: after) t.position (some .light)).or
        (last? (before ++ t :: after) t.position none)).isSome = true := by
      rw [← hroot, ← hlight, Option.isSome_or, Bool.or_eq_true]
      rcases hbare with h | h
      · exact .inr (h ▸ rfl)
      · exact .inl h
    obtain ⟨value, hvalue⟩ := Option.isSome_iff_exists.mp hsome
    exact h.standsFor_bareReference hvalue
  · rename_i hbare
    obtain ⟨hne, hhas⟩ := not_or.mp hbare
    have hnone : last? (before ++ t :: after) t.position (some .light) = none :=
      hlight.symm.trans (Option.not_isSome_iff_eq_none.mp hhas)
    have hdark : t.mode = some .dark := by
      rcases hm : t.mode with _ | _ | _ | _
      · rw [hm] at hlast
        exact absurd (hroot.trans hlast) hne
      · exact absurd hm hmode
      · rw [hm, hnone] at hlast
        cases hlast
      · rfl
    rw [hdark] at hlast
    refine h.standsFor_inlineReference hnone hlast ?_
    rintro ⟨u, hu, hp, hlightu | hnoneu⟩ hpairwise
    · have hsome := last?_isSome hu
      rw [hp, hlightu, hnone] at hsome
      cases hsome
    · exact not_pairwise_of_dark hdark hafter hu hp hnoneu hpairwise

end Store.Holds

namespace Session

/-- **The references of a theme stand for its texts.** When no two positions of a theme share a name
and no level stands at the position of a text, the references stand at the positions of the texts and
nowhere else, and each is right for the texts of its position. -/
theorem createTheme_standsFor (config : Config) (theme : Text) (fields : List (Scalar × Value))
    (hnames : Distinct theme (textsOf .full theme fields)) (hlevels : Unmixed .full theme fields) :
    ∃ s tree,
      (start config).createTheme (.map fields) (.scalar (.text theme)) = .ok (s, tree) ∧
      (∀ p text, ReferenceTree.find? (some tree) p = some (.reference text) →
        ∃ t ∈ textsOf .full theme fields, t.position = p) ∧
      ∀ t ∈ textsOf .full theme fields, ∃ text,
        ReferenceTree.find? (some tree) t.position = some (.reference text) ∧
          StandsFor s.registry.store (textsOf .full theme fields) t.position
            (reference (t.path .full theme)) text := by
  obtain ⟨c, hc, hresult⟩ := exists_collect .full theme fields (start config).registry
  have htree : ReferenceTree.level c.references = _ := congrArg Prod.snd hresult
  have hregistry := foldl_record_collect .full theme fields hresult
  refine ⟨{ start config with registry := c.registry }, .level c.references, ?_, ?_, ?_⟩
  · rw [createTheme, collectWith, hc]
    rfl
  · intro p text hp
    rw [htree] at hp
    exact exists_text_of_find? hp
  · intro t ht
    obtain ⟨before, u, after, htexts, hposition, hafter, hfind⟩ :=
      hlevels.find?_foldl_write ⟨t, ht, rfl⟩ (start config).registry
    have hu : u ∈ textsOf .full theme fields := by
      rw [htexts]
      exact List.mem_append_right _ List.mem_cons_self
    have hsofar : before ++ [u] ⊆ textsOf .full theme fields := by
      rw [htexts, List.append_cons before u after]
      exact List.subset_append_left _ _
    have hholds : c.registry.store.Holds (textsOf .full theme fields) u.position
        (reference (u.path .full theme)) := by
      rw [hregistry]
      exact holds_foldl_record hnames (List.Subset.refl _) hu
    rw [← hposition] at hafter
    -- the last text of a position is the last one that is written under its name
    have hresolve := (holds_foldl_record hnames hsofar hu).resolve_eq hholds (fun mode => by
      rw [htexts, List.append_cons before u after, ThemedText.last?_append_of_forall_ne hafter])
      u.text
    refine ⟨c.registry.resolve (reference (u.path .full theme)) u.text, ?_, ?_⟩
    · rw [htree, ← hresolve]
      exact hfind
    · rw [htexts] at hholds ⊢
      rw [ThemedText.path_congr .full theme hposition.symm, ← hposition]
      exact hholds.standsFor_resolve (ThemedText.mode_ne_root hu) hafter

/-- A theme with texts for several modes at one position, in different orders. -/
def modalTheme : List (Scalar × Value) :=
  [(.text "gap", .map [(.text "dark", .scalar (.text "8px")),
      (.text "light", .scalar (.text "4px"))]),
    (.text "pad", .scalar (.text "2px")),
    (.text "dark", .map [(.text "pad", .scalar (.text "3px"))])]

theorem createTheme_standsFor_modalTheme :
    Distinct "ui" (textsOf .full "ui" modalTheme) ∧ Unmixed .full "ui" modalTheme ∧
    ∃ s tree, (start {}).createTheme (.map modalTheme) (.scalar (.text "ui")) = .ok (s, tree) ∧
      ∃ text, ReferenceTree.find? (some tree) ["pad"] = some (.reference text) ∧
        StandsFor s.registry.store (textsOf .full "ui" modalTheme) ["pad"] "ui-pad" text := by
  have hnames : Distinct "ui" (textsOf .full "ui" modalTheme) := by decide +kernel
  have hlevels : Unmixed .full "ui" modalTheme := by decide +kernel
  have hpad : ⟨["pad"], none, "2px"⟩ ∈ textsOf .full "ui" modalTheme := by decide +kernel
  obtain ⟨s, tree, hcreate, -, hright⟩ := createTheme_standsFor {} "ui" modalTheme hnames hlevels
  exact ⟨hnames, hlevels, s, tree, hcreate, hright _ hpad⟩

end Session

end ThemedCss
