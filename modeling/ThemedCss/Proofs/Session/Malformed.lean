import ThemedCss.Proofs.Session.History
import ThemedCss.Proofs.Style.Markers

/-!
# Malformed sources

What is wrong with the sections and entries of a source is an error when it is read, and its variables
can always be applied. What is left are the markers in its styles: reading ends in a fault when what
one of them has for selectors is no sequence, and so does applying when one that is compiled holds
anything but texts and a level.

* `mapM_eq_error_iff`: going through a list fails at its first item that fails;
* `Source.StopsAtMarker`, **`Source.ofValue_eq_fault_iff`**: when reading a source ends in a fault;
* `replay_eq_ok_iff`, **`replay_calls_iff`**: when a source can be applied;
* **`malformed_cases`**: both for one source.
-/

namespace ThemedCss

theorem bind_eq_error_iff {ε α β : Type} {x : Except ε α} {f : α → Except ε β} {e : ε} :
    x >>= f = .error e ↔ x = .error e ∨ ∃ a, x = .ok a ∧ f a = .error e := by
  cases x with
  | error e' =>
    refine ⟨fun h => .inl (congrArg _ (Except.error.inj h)), ?_⟩
    rintro (h | ⟨a, ha, -⟩)
    · exact congrArg _ (Except.error.inj h)
    · cases ha
  | ok a =>
    refine ⟨fun h => .inr ⟨a, rfl, h⟩, ?_⟩
    rintro (h | ⟨a', ha, h⟩)
    · cases h
    · obtain rfl := Except.ok.inj ha
      exact h

/-- **Going through a list fails at the first item that fails.** -/
theorem mapM_eq_error_iff {ε α β : Type} {f : α → Except ε β} {l : List α} {e : ε} :
    l.mapM f = .error e ↔ ∃ before a after bs,
      l = before ++ a :: after ∧ before.mapM f = .ok bs ∧ f a = .error e := by
  induction l with
  | nil =>
    refine iff_of_false (fun h => nomatch h) ?_
    rintro ⟨before, a, after, -, h, -⟩
    exact List.append_ne_nil_of_right_ne_nil _ (List.cons_ne_nil a after) h.symm
  | cons a l ih =>
    rw [List.mapM_cons, bind_eq_error_iff]
    constructor
    · rintro (h | ⟨b, hb, h⟩)
      · exact ⟨[], a, l, [], rfl, rfl, h⟩
      obtain h | ⟨bs, -, h⟩ := bind_eq_error_iff.mp h
      · obtain ⟨before, a', after, bs, rfl, hbs, he⟩ := ih.mp h
        refine ⟨a :: before, a', after, b :: bs, rfl, ?_, he⟩
        rw [List.mapM_cons, hb, hbs]
        rfl
      · cases h
    · rintro ⟨before, a', after, bs, hl, hbs, he⟩
      cases before with
      | nil =>
        obtain ⟨rfl, rfl⟩ := List.cons.inj hl
        exact .inl he
      | cons c before =>
        obtain ⟨rfl, rfl⟩ := List.cons.inj hl
        rw [List.mapM_cons] at hbs
        obtain ⟨b, hb, hbs⟩ := bind_eq_ok_iff.mp hbs
        obtain ⟨bs', hbs', -⟩ := bind_eq_ok_iff.mp hbs
        have hrest := ih.mpr ⟨before, a', after, bs', rfl, hbs', he⟩
        exact .inr ⟨b, hb, bind_eq_error_iff.mpr (.inl hrest)⟩

namespace Source

/-! ## Reading a source -/

/-- The value that is read as the tree of an item of the styles. -/
def treeOf (fields : List (Scalar × Value)) : Value :=
  (if isForm "styles" "selectors" fields then Value.field? "styles" fields else none).getD
    (.map fields)

/-- Whether what some marker in an item of the styles has for selectors is no sequence. -/
def isUnreadable : Value → Bool
  | .map fields => !(treeOf fields).markerSelectors.all Value.isSequence
  | _ => false

/-- Whether reading a source comes to an unreadable item of the styles: there is no error in the
names of the sections, in the variables and in the items before it. -/
def StopsAtMarker (fields : List (Scalar × Value)) : Prop :=
  checkNames (fields.map Prod.fst) = .ok () ∧
    (∃ theme, (itemsOf "theme" fields).mapM (variableEntry "theme") = .ok theme) ∧
    (∃ vars, (itemsOf "vars" fields).mapM (variableEntry "vars") = .ok vars) ∧
    ∃ before item after entries, itemsOf "styles" fields = before ++ item :: after ∧
      before.mapM styleEntry = .ok entries ∧ isUnreadable item = true

variable {fields : List (Scalar × Value)} {f : Fault}

theorem both_ne_fault {α β γ : Type} {make : α → β → γ} {a : Checked α} {b : Checked β} :
    both make a b ≠ .error (.fault f) := by
  cases a with
  | error _ => exact fun h => nomatch h
  | ok _ =>
    cases b with
    | error _ => exact fun h => nomatch h
    | ok _ => exact fun h => nomatch h

theorem variableEntry_ne_fault {section_ : Text} {item : Value} :
    variableEntry section_ item ≠ .error (.fault f) := by
  intro h
  unfold variableEntry at h
  obtain h | ⟨fields, -, h⟩ := bind_eq_error_iff.mp h
  · cases item with
    | map _ => cases h
    | _ => exact nomatch h
  · split at h
    · exact both_ne_fault h
    · exact both_ne_fault h

theorem mapM_variableEntry_ne_fault {section_ : Text} {items : List Value} :
    items.mapM (variableEntry section_) ≠ .error (.fault f) := by
  intro h
  obtain ⟨before, item, after, entries, -, -, h⟩ := mapM_eq_error_iff.mp h
  exact variableEntry_ne_fault h

theorem mapM_ne_none_of_texts {g : Scalar → Option Text} (hg : ∀ t, g (.text t) = some t)
    {names : List Scalar} (h : ∀ n ∈ names, n.isText = true) : names.mapM g ≠ none := by
  have hsome : ∃ texts, names.mapM g = some texts := by
    induction names with
    | nil => exact ⟨[], rfl⟩
    | cons n names ih =>
      obtain ⟨texts, htexts⟩ := ih fun m hm => h m (List.mem_cons_of_mem n hm)
      match n, h n List.mem_cons_self with
      | .text t, _ =>
        rw [List.mapM_cons, htexts, hg]
        exact ⟨t :: texts, rfl⟩
  obtain ⟨texts, htexts⟩ := hsome
  exact htexts ▸ Option.some_ne_none texts

theorem checkNames_ne_fault {names : List Scalar} (h : ∀ n ∈ names, n.isText = true) :
    checkNames names ≠ .error (.fault f) := by
  unfold checkNames
  split
  · exact fun h => nomatch h
  · split
    · exact fun h => nomatch h
    · rename_i hnone
      exact absurd hnone
        (mapM_ne_none_of_texts (fun _ => rfl) fun n hn => h n (List.mem_filter.mp hn).1)

theorem styleOf_eq_fault_iff {v : Value} (h : v.any Scalar.isSpecial = false) :
    styleOf v = .error (.fault f) ↔
      f = .notSequence ∧ v.markerSelectors.all Value.isSequence = false := by
  rw [← (Style.settles_ofValue v h).error_iff f, styleOf]
  cases Style.ofValue v with
  | ok style => exact iff_of_false (fun h => nomatch h) fun h => nomatch h
  | error f' =>
    exact ⟨fun h => congrArg _ (Failure.fault.inj (Except.error.inj h)),
      fun h => congrArg (Except.error ∘ Failure.fault) (Except.error.inj h)⟩

theorem any_treeOf {p : Scalar → Bool} (h : (Value.map fields).any p = false) :
    (treeOf fields).any p = false := by
  unfold treeOf
  split
  · cases hstyles : Value.field? "styles" fields with
    | none => exact h
    | some styles => exact Value.any_of_field? h hstyles
  · exact h

theorem styleEntry_eq_fault_iff {item : Value} (h : item.any Scalar.isSpecial = false) :
    styleEntry item = .error (.fault f) ↔ f = .notSequence ∧ isUnreadable item = true := by
  cases item with
  | map fields =>
    have htree : styleEntry (.map fields) = .error (.fault f) ↔
        styleOf (treeOf fields) = .error (.fault f) := by
      have hboth {α : Type} {x : Except Failure α} {g : α → Except Failure StyleEntry}
          (hg : ∀ a, g a ≠ .error (.fault f)) :
          x >>= g = .error (.fault f) ↔ x = .error (.fault f) := by
        rw [bind_eq_error_iff, or_iff_left]
        rintro ⟨a, -, ha⟩
        exact hg a ha
      have hok (g : List (Scalar × Value) → Except Failure StyleEntry) :
          Except.ok fields >>= g = g fields := rfl
      rw [styleEntry, treeOf, mappingOf, hok]
      cases (if isForm "styles" "selectors" fields then Value.field? "styles" fields else none) with
      | none => exact hboth fun _ => both_ne_fault
      | some styles => exact hboth fun _ => both_ne_fault
    rw [htree, styleOf_eq_fault_iff (any_treeOf h), isUnreadable, Bool.not_eq_true']
  | _ =>
    constructor
    · intro h
      cases h
    · rintro ⟨-, h⟩
      cases h

theorem any_of_mem_itemsOf {name : Text} {p : Scalar → Bool} {item : Value}
    (h : (Value.map fields).any p = false) (hitem : item ∈ itemsOf name fields) :
    item.any p = false := by
  unfold itemsOf at hitem
  split at hitem
  · cases hitem
  · cases hitem
  · rename_i items hitems
    exact Value.any_of_mem (Value.any_of_field? h hitems) hitem
  · rename_i v _ _ hv
    obtain rfl := List.mem_singleton.mp hitem
    exact Value.any_of_field? h hv

theorem ofValue_map (fields : List (Scalar × Value)) : ofValue (.map fields) = (do
    checkNames (fields.map Prod.fst)
    let theme ← (itemsOf "theme" fields).mapM (variableEntry "theme")
    let vars ← (itemsOf "vars" fields).mapM (variableEntry "vars")
    let styles ← (itemsOf "styles" fields).mapM styleEntry
    return ⟨theme, vars, styles⟩) := by
  rw [ofValue, fieldsOf, bind_assoc]
  rfl

/-- **Reading a source ends in a fault** exactly when it comes to an unreadable item of the styles. -/
theorem ofValue_eq_fault_iff (hnames : ∀ entry ∈ fields, entry.1.isText = true)
    (hdata : (Value.map fields).any Scalar.isSpecial = false) :
    ofValue (.map fields) = .error (.fault f) ↔ f = .notSequence ∧ StopsAtMarker fields := by
  have hlisted : ∀ n ∈ fields.map Prod.fst, n.isText = true := List.forall_mem_map.mpr hnames
  have hitem : ∀ item ∈ itemsOf "styles" fields,
      (styleEntry item = .error (.fault f) ↔ f = .notSequence ∧ isUnreadable item = true) :=
    fun item hitem => styleEntry_eq_fault_iff (any_of_mem_itemsOf hdata hitem)
  rw [ofValue_map, bind_eq_error_iff, or_iff_right (checkNames_ne_fault hlisted)]
  constructor
  · rintro ⟨_, hchecked, h⟩
    obtain h | ⟨theme, htheme, h⟩ := bind_eq_error_iff.mp h
    · exact absurd h mapM_variableEntry_ne_fault
    obtain h | ⟨vars, hvars, h⟩ := bind_eq_error_iff.mp h
    · exact absurd h mapM_variableEntry_ne_fault
    obtain h | ⟨styles, -, h⟩ := bind_eq_error_iff.mp h
    · obtain ⟨before, item, after, entries, hstyles, hbefore, hfault⟩ := mapM_eq_error_iff.mp h
      obtain ⟨rfl, hunreadable⟩ := (hitem item (hstyles ▸ List.mem_append_cons_self)).mp hfault
      exact ⟨rfl, hchecked, ⟨theme, htheme⟩, ⟨vars, hvars⟩, before, item, after, entries, hstyles,
        hbefore, hunreadable⟩
    · cases h
  · rintro ⟨rfl, hchecked, ⟨theme, htheme⟩, ⟨vars, hvars⟩, before, item, after, entries, hstyles,
      hbefore, hunreadable⟩
    have hfault : (itemsOf "styles" fields).mapM styleEntry = .error (.fault .notSequence) :=
      mapM_eq_error_iff.mpr ⟨before, item, after, entries, hstyles, hbefore,
        (hitem item (hstyles ▸ List.mem_append_cons_self)).mpr ⟨rfl, hunreadable⟩⟩
    refine ⟨(), hchecked, ?_⟩
    rw [htheme, hvars, hfault]
    rfl

end Source

/-! ## Applying a source -/

/-- The tree that an entry is compiled as: its selectors, if there are any, are one key around its
styles. -/
def StyleEntry.whole (e : StyleEntry) : Style :=
  match e.selectors with
  | some (s :: selectors) =>
    .rules [(.text (List.intercalate "," (s :: selectors)), e.tree)]
  | _ => e.tree

namespace Session

theorem replay_eq_ok_iff {s : Session} {calls : List Call} (succeeds : Call → Prop)
    (h : ∀ call ∈ calls, ∀ t : Session, t.config = s.config →
      ((∃ reply, (t.step call).2 = .ok reply) ↔ succeeds call)) :
    (s.replay calls).2 = .ok () ↔ ∀ call ∈ calls, succeeds call := by
  induction calls generalizing s with
  | nil => exact iff_of_true rfl fun _ h => nomatch h
  | cons call calls ih =>
    have hcall := h call List.mem_cons_self s rfl
    have hcalls := ih (s := (s.step call).1) fun c hc t ht =>
      h c (List.mem_cons_of_mem call hc) t (ht.trans (config_step s call))
    rw [List.forall_mem_cons, ← hcall, ← hcalls, replay]
    cases s.step call with
    | mk t reply =>
      cases reply with
      | ok reply => exact (and_iff_right ⟨reply, rfl⟩).symm
      | error f => exact iff_of_false (fun h => nomatch h) fun h => nomatch h.1

theorem exists_collect (o : CollectOptions) (name : Text) (fields : List (Scalar × Value))
    (r : Registry) : ∃ c, collect o (Value.text name) (.map fields) r = .ok c := by
  unfold collect startOf Value.text
  dsimp only
  cases o.scopeOf? name with
  | some m => exact ⟨_, rfl⟩
  | none => exact ⟨_, rfl⟩

theorem exists_collectWith (o : CollectOptions) (e : VariableEntry) (s : Session) :
    ∃ result, s.collectWith o e.mapping (Value.text e.name) = .ok result := by
  obtain ⟨c, hc⟩ : ∃ c, collect o (Value.text e.name) e.mapping s.registry = .ok c :=
    exists_collect o e.name _ s.registry
  rw [collectWith, hc]
  exact ⟨_, rfl⟩

theorem exists_after_iff {α : Type} {s : Session} {reply : α → Reply}
    {x : Except Fault (Session × α)} :
    (∃ r, (s.after reply x).2 = .ok r) ↔ ∃ result, x = .ok result := by
  cases x with
  | ok result => exact iff_of_true ⟨_, rfl⟩ ⟨result, rfl⟩
  | error f => exact iff_of_false (fun ⟨_, h⟩ => nomatch h) fun ⟨_, h⟩ => nomatch h

theorem exists_createStyle_iff {subject : Subject} {styles : Option Style} {style : Style}
    (h : effectiveStyle subject styles = .ok (some style)) (s : Session) :
    (∃ result, s.createStyle subject styles = .ok result) ↔
      ∃ css, style.compile s.styleOptions [] = .ok css := by
  rw [createStyle, h]
  change (∃ result, (style.compile s.styleOptions [] >>= _) = .ok result) ↔ _
  cases style.compile s.styleOptions [] with
  | ok css => exact iff_of_true ⟨_, rfl⟩ ⟨css, rfl⟩
  | error f => exact iff_of_false (fun ⟨_, h⟩ => nomatch h) fun ⟨_, h⟩ => nomatch h

theorem exists_call_eq (e : StyleEntry) : ∃ subject styles,
    e.call = .createStyle subject styles ∧ effectiveStyle subject styles = .ok (some e.whole) := by
  obtain ⟨selectors, styles⟩ := e
  match selectors with
  | none | some [] => exact ⟨_, _, rfl, rfl⟩
  | some (s :: selectors) =>
    refine ⟨_, _, rfl, ?_⟩
    rw [effectiveStyle, joinSelectors]
    · change ((((s :: selectors).map fun t => Value.scalar (.text t)).mapM _ >>= _) >>= _) = _
      rw [mapM_texts fun _ => rfl]
      rfl
    · exact fun _ h => nomatch h

theorem isLevel_whole (e : StyleEntry) : e.whole.isLevel = true := by
  unfold StyleEntry.whole
  split
  · rfl
  · rfl

theorem exists_step_call_iff (e : StyleEntry) (s : Session) :
    (∃ reply, (s.step e.call).2 = .ok reply) ↔
      ∀ m ∈ Style.markersBelow s.styleOptions [] e.whole, m.isUsable = true := by
  obtain ⟨subject, styles, hcall, hstyle⟩ := exists_call_eq e
  rw [hcall, step, exists_after_iff, exists_createStyle_iff hstyle, Style.exists_compile_iff,
    and_iff_right (isLevel_whole e)]

theorem exists_step_of_mem {source : Source} {call : Call}
    (h : call ∈ source.calls ++ [.css true none]) :
    (∀ s : Session, ∃ reply, (s.step call).2 = .ok reply) ∨
      ∃ e ∈ source.styles, e.call = call := by
  obtain h | h := List.mem_append.mp h
  · obtain h | h := List.mem_append.mp h
    · refine .inl fun s => ?_
      obtain h | h := List.mem_append.mp h
      · obtain ⟨e, -, rfl⟩ := List.mem_map.mp h
        exact exists_after_iff.mpr (exists_collectWith ⟨true, .scope⟩ e s)
      · obtain ⟨e, -, rfl⟩ := List.mem_map.mp h
        exact exists_after_iff.mpr (exists_collectWith ⟨false, s.config.varsThemeKeys⟩ e s)
    · exact .inr (List.mem_map.mp h)
  · obtain rfl := List.mem_singleton.mp h
    exact .inl fun s => ⟨_, rfl⟩

/-- **A source can be applied** exactly when all the markers that compiling its styles comes upon
are usable. -/
theorem replay_calls_iff (source : Source) (s : Session) :
    (s.replay (source.calls ++ [.css true none])).2 = .ok () ↔
      ∀ e ∈ source.styles, ∀ m ∈ Style.markersBelow s.styleOptions [] e.whole, m.isUsable = true := by
  rw [replay_eq_ok_iff fun call => ∃ reply, (s.step call).2 = .ok reply]
  · constructor
    · intro h e he
      have hcall : e.call ∈ source.calls := List.mem_append_right _ (List.mem_map_of_mem he)
      exact (exists_step_call_iff e s).mp (h e.call (List.mem_append_left _ hcall))
    · intro h call hcall
      obtain hsucceeds | ⟨e, he, rfl⟩ := exists_step_of_mem hcall
      · exact hsucceeds s
      · exact (exists_step_call_iff e s).mpr (h e he)
  · intro call hcall t ht
    obtain hsucceeds | ⟨e, -, rfl⟩ := exists_step_of_mem hcall
    · exact iff_of_true (hsucceeds t) (hsucceeds s)
    · have hoptions : t.styleOptions = s.styleOptions := by rw [styleOptions, ht, styleOptions]
      rw [exists_step_call_iff, exists_step_call_iff, hoptions]

/-- **Malformed sources.** Reading a source without values that only documents hold ends in a fault
exactly when it comes to an item of the styles in which some marker has null, a truth value or a
number for selectors. A source that has been read, and can be worked on, is applied and its style
sheet made exactly when every marker that is compiled has texts for selectors and a level for
styles. -/
theorem malformed_cases (fields : List (Scalar × Value))
    (hnames : ∀ entry ∈ fields, entry.1.isText = true)
    (hdata : (Value.map fields).any Scalar.isSpecial = false) :
    (∀ f, Source.ofValue (.map fields) = .error (.fault f) ↔
      f = .notSequence ∧ Source.StopsAtMarker fields) ∧
    ∀ source, Source.ofValue (.map fields) = .ok source → source.fault? = none → ∀ s : Session,
      ((s.replay (source.calls ++ [.css true none])).2 = .ok () ↔
        ∀ e ∈ source.styles, ∀ m ∈ Style.markersBelow s.styleOptions [] e.whole,
          m.isUsable = true) :=
  ⟨fun _ => Source.ofValue_eq_fault_iff hnames hdata,
    fun source _ _ s => replay_calls_iff source s⟩

/-- A source in which a marker has a number for selectors. -/
def numbered : List (Scalar × Value) :=
  [(.text "styles", .list [.map [(.text "a", .map [(.text "$nested", .scalar (.int 5))])]])]

/-- A source in which a marker has some styles. -/
def marked (styles : Value) : List (Scalar × Value) :=
  [(.text "styles", .map [(.text "a", .map [(.text "b", .map
    [(.text "$nested", .list [Value.text "&:hover"]), (.text "$styles", styles)])])])]

/-- The first source cannot be read, and the second one, with a level for the styles of its marker,
can be read and applied. -/
theorem malformed_cases_markers :
    Source.ofValue (.map numbered) = .error (.fault .notSequence) ∧
      ∃ source, Source.ofValue (.map (marked (.map [(.text "color", Value.text "red")]))) =
          .ok source ∧
        ((start {}).replay (source.calls ++ [.css true none])).2 = .ok () := by
  have hread := (malformed_cases numbered (by decide) rfl).1
  have happlied := (malformed_cases (marked (.map [(.text "color", Value.text "red")]))
    (by decide) rfl).2
  refine ⟨(hread .notSequence).mpr ⟨rfl, rfl, ⟨[], rfl⟩, ⟨[], rfl⟩, [], _, [], [], rfl, rfl, rfl⟩,
    _, rfl, (happlied _ rfl rfl (start {})).mpr ?_⟩
  decide

/-- Reading can end in a fault, and so can applying what was read: the styles of the marker are a
text here. -/
theorem malformed_beyond_reading :
    Source.ofValue (.map numbered) = .error (.fault .notSequence) ∧
      ∃ source, Source.ofValue (.map (marked (Value.text "red"))) = .ok source ∧
        ((start {}).replay (source.calls ++ [.css true none])).2 = .error .notMapping :=
  ⟨rfl, _, rfl, rfl⟩

end Session

end ThemedCss
