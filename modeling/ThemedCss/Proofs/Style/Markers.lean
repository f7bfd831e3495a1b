import ThemedCss.Proofs.Style.Compiled
import ThemedCss.Source.Extent

/-!
# The markers of style trees

Nothing but a marker can be wrong in a style tree. When a tree is read, what a marker has for
selectors must be a sequence; when it is compiled, these must be texts, and the styles a level.

* `Value.markerSelectors`: what the markers in a value have for selectors;
* **`Style.settles_ofValue`**: a value is read unless one of them is no sequence;
* `Marker`, `Style.markersBelow`: the markers that compiling a tree comes upon;
* **`Style.exists_compile_iff`**: a tree compiles unless one of them is unusable.
-/

namespace ThemedCss

/-- Whether a scalar is one that only documents hold. -/
def Scalar.isSpecial : Scalar → Bool
  | special _ => true
  | _ => false

namespace Value

/-- Whether a value is a text. -/
def isText : Value → Bool
  | scalar s => s.isText
  | _ => false

/-- Whether a value is a text or a collection. -/
def isSequence : Value → Bool
  | scalar s => s.isText
  | _ => true

mutual

/-- What the markers in a value have for selectors, a marker behind those in its styles. -/
def markerSelectors : Value → List Value
  | map fields =>
    match field? Style.selectorsKey fields with
    | some selectors => selectorsInStyles fields ++ [selectors]
    | none => selectorsInFields fields
  | _ => []

/-- What the markers in the styles of a marker have for selectors. -/
def selectorsInStyles : List (Scalar × Value) → List Value
  | [] => []
  | (k, v) :: fields =>
    if k = .text Style.stylesKey then v.markerSelectors else selectorsInStyles fields

/-- What the markers in the entries of a mapping have for selectors. -/
def selectorsInFields : List (Scalar × Value) → List Value
  | [] => []
  | (_, v) :: fields => v.markerSelectors ++ selectorsInFields fields

end

theorem any_of_field? {p : Scalar → Bool} {key : Text} {fields : List (Scalar × Value)} {v : Value}
    (h : anyField p fields = false) (hv : field? key fields = some v) : v.any p = false := by
  induction fields with
  | nil => cases hv
  | cons entry fields ih =>
    obtain ⟨k, w⟩ := entry
    rw [anyField, Bool.or_eq_false_iff, Bool.or_eq_false_iff] at h
    rw [field?] at hv
    split at hv
    · obtain rfl := Option.some.inj hv
      exact h.1.2
    · exact ih h.2 hv

theorem any_of_mem {p : Scalar → Bool} {items : List Value} {v : Value}
    (h : anyItem p items = false) (hv : v ∈ items) : v.any p = false := by
  induction items with
  | nil => cases hv
  | cons w items ih =>
    rw [anyItem, Bool.or_eq_false_iff] at h
    obtain rfl | hv := List.mem_cons.mp hv
    · exact h.1
    · exact ih h.2 hv

end Value

/-! ## Reading a tree -/

theorem exists_map_iff {ε α β : Type} {x : Except ε α} {f : α → β} :
    (∃ b, f <$> x = .ok b) ↔ ∃ a, x = .ok a := by
  refine ⟨fun ⟨b, h⟩ => ?_, fun ⟨a, h⟩ => ⟨f a, map_eq_ok_iff.mpr ⟨a, h, rfl⟩⟩⟩
  obtain ⟨a, h, -⟩ := map_eq_ok_iff.mp h
  exact ⟨a, h⟩

/-- A computation that gives a result when all is well, and fails for want of a sequence
otherwise. -/
def Settles {α : Type} (x : Except Fault α) (well : Bool) : Prop :=
  if well then ∃ a, x = .ok a else x = .error .notSequence

namespace Settles

variable {α β : Type} {x : Except Fault α} {well well' : Bool}

theorem ok (a : α) : Settles (.ok a) true := ⟨a, rfl⟩

theorem bind {f : α → Except Fault β} (h : Settles x well) (h' : ∀ a, Settles (f a) well') :
    Settles (x >>= f) (well && well') := by
  cases well with
  | false =>
    obtain rfl : x = .error .notSequence := h
    rfl
  | true =>
    obtain ⟨a, rfl⟩ : ∃ a, x = .ok a := h
    exact h' a

theorem map {f : α → β} (h : Settles x well) : Settles (f <$> x) well := by
  cases well with
  | false =>
    obtain rfl : x = .error .notSequence := h
    rfl
  | true =>
    obtain ⟨a, rfl⟩ : ∃ a, x = .ok a := h
    exact ⟨f a, rfl⟩

theorem error_iff (h : Settles x well) (f : Fault) :
    x = .error f ↔ f = .notSequence ∧ well = false := by
  cases well with
  | false =>
    obtain rfl : x = .error .notSequence := h
    exact ⟨fun h => ⟨(Except.error.inj h).symm, rfl⟩, fun h => congrArg _ h.1.symm⟩
  | true =>
    obtain ⟨a, rfl⟩ : ∃ a, x = .ok a := h
    exact iff_of_false (fun h => nomatch h) fun h => nomatch h.2

end Settles

namespace Style

theorem settles_selectorsOf {v : Value} (h : v.any Scalar.isSpecial = false) :
    Settles (selectorsOf v) v.isSequence := by
  cases v with
  | scalar s =>
    cases s with
    | text t => exact .ok [Value.text t]
    | special d => cases h
    | _ => exact rfl
  | list items => exact .ok items
  | map fields => exact .ok _
  | pair first second => exact .ok [first, second]
  | set members => exact .ok (members.map Value.scalar)

mutual

/-- **A value is read as a style tree** unless what some marker in it has for selectors is neither
a text nor a collection. -/
theorem settles_ofValue (v : Value) (h : v.any Scalar.isSpecial = false) :
    Settles (ofValue v) (v.markerSelectors.all Value.isSequence) := by
  match v with
  | .scalar (.special _) => cases h
  | .scalar .null | .scalar (.bool _) | .scalar (.int _) | .scalar (.float _) | .scalar (.text _) =>
    exact .ok _
  | .list _ | .pair _ _ | .set _ => exact .ok _
  | .map fields =>
    rw [ofValue, Value.markerSelectors]
    cases hselectors : Value.field? selectorsKey fields with
    | some selectors =>
      rw [List.all_append, List.all_cons, List.all_nil]
      refine (settles_markerStyles fields h).bind fun styles => ?_
      exact (settles_selectorsOf (Value.any_of_field? h hselectors)).bind fun items => .ok _
    | none => exact (settles_entriesOfFields fields h).map

theorem settles_markerStyles (fields : List (Scalar × Value))
    (h : Value.anyField Scalar.isSpecial fields = false) :
    Settles (markerStyles fields) ((Value.selectorsInStyles fields).all Value.isSequence) := by
  match fields with
  | [] => exact .ok _
  | (k, v) :: fields =>
    rw [Value.anyField, Bool.or_eq_false_iff, Bool.or_eq_false_iff] at h
    rw [markerStyles, Value.selectorsInStyles]
    split
    · exact settles_ofValue v h.1.2
    · exact settles_markerStyles fields h.2

theorem settles_entriesOfFields (fields : List (Scalar × Value))
    (h : Value.anyField Scalar.isSpecial fields = false) :
    Settles (entriesOfFields fields) ((Value.selectorsInFields fields).all Value.isSequence) := by
  match fields with
  | [] => exact .ok _
  | (k, v) :: fields =>
    rw [Value.anyField, Bool.or_eq_false_iff, Bool.or_eq_false_iff] at h
    rw [entriesOfFields, Value.selectorsInFields, List.all_append]
    refine (settles_ofValue v h.1.2).bind fun style => ?_
    exact (settles_entriesOfFields fields h.2).map

end

end Style

/-! ## The markers that compiling comes upon -/

/-- A marker, and the selector that it stands below. -/
structure Marker where
  parent : Text
  selectors : List Value
  styles : Style

/-- Whether a tree is a level of properties and rules. -/
def Style.isLevel : Style → Bool
  | rules _ => true
  | _ => false

/-- Whether a marker can be compiled: its selectors are texts, and if there are any, its styles are
a level unless they are empty. Below a selector without parts nothing is looked at. -/
def Marker.isUsable (m : Marker) : Bool :=
  (m.parent ≠ [] && Selector.split m.parent = []) ||
    (m.selectors.all Value.isText &&
      (m.selectors.isEmpty || !m.styles.isTrue || m.styles.isLevel))

theorem Marker.isUsable_iff {parent : Text} {selectors : List Value} {styles : Style} :
    Marker.isUsable ⟨parent, selectors, styles⟩ = true ↔
      parent ≠ [] ∧ Selector.split parent = [] ∨
        selectors.all Value.isText = true ∧
          (selectors = [] ∨ styles.isTrue = false ∨ styles.isLevel = true) := by
  simp only [isUsable, Bool.or_eq_true, Bool.and_eq_true, decide_eq_true_eq, List.isEmpty_iff,
    Bool.not_eq_true', or_assoc]

/-- The selector that the rules in a place stand below. -/
def Placement.selector : Placement → Text
  | under selector | inside _ selector => selector
  | alone _ => []

namespace Style

mutual

/-- The markers that compiling a tree below a parent selector comes upon. -/
def markersBelow (o : Options) (parent : Text) : Style → List Marker
  | rules entries => markersIn o parent entries
  | _ => []

/-- The markers in the entries of a level. -/
def markersIn (o : Options) (parent : Text) : List (Scalar × Style) → List Marker
  | [] => []
  | (k, style) :: entries => markersOf o k.display parent style ++ markersIn o parent entries

/-- The markers in what stands under one key: those in the styles of a marker count when there is a
selector for them. -/
def markersOf (o : Options) (key parent : Text) : Style → List Marker
  | property _ => []
  | nested selectors styles =>
    ⟨parent, selectors, styles⟩ ::
      if Selector.combined (markerTexts selectors) parent = [] then []
      else markersBelow o
        (List.intercalate ", " (Selector.combined (markerTexts selectors) parent)) styles
  | rules entries => markersIn o (Placement.ofKey o.themeKeys key parent).selector entries

end

theorem markerTexts_of_all {selectors : List Value} (h : selectors.all Value.isText = true) :
    selectors = (markerTexts selectors).map fun t => .scalar (.text t) := by
  induction selectors with
  | nil => rfl
  | cons v selectors ih =>
    rw [List.all_cons, Bool.and_eq_true] at h
    match v, h.1 with
    | .scalar (.text t), _ => exact congrArg _ (ih h.2)

theorem all_isText_of_mapM {selectors : List Value} {keys : List Text}
    (h : selectors.mapM (fun
      | .scalar (.text t) => Except.ok t
      | _ => .error Fault.notText) = .ok keys) : selectors.all Value.isText = true := by
  induction selectors generalizing keys with
  | nil => rfl
  | cons v selectors ih =>
    rw [List.mapM_cons] at h
    obtain ⟨t, ht, h⟩ := bind_eq_ok_iff.mp h
    obtain ⟨others, hothers, -⟩ := bind_eq_ok_iff.mp h
    match v with
    | .scalar (.text _) => exact ih hothers

/-- The selectors of a marker can be joined with a parent when they are texts; and they need not be
when the parent has no parts. -/
theorem exists_combine_iff {selectors : List Value} {parent : Text} :
    (∃ combined, combine selectors parent = .ok combined) ↔
      parent ≠ [] ∧ Selector.split parent = [] ∨ selectors.all Value.isText = true := by
  have hparts : (if parent = [] then [[]] else Selector.split parent) = [] ↔
      parent ≠ [] ∧ Selector.split parent = [] := by
    split
    · exact iff_of_false (List.cons_ne_nil _ _) fun h => h.1 ‹_›
    · exact (and_iff_right ‹_›).symm
  rw [← hparts, combine]
  cases (if parent = [] then [[]] else Selector.split parent) with
  | nil => exact iff_of_true ⟨[], rfl⟩ (.inl rfl)
  | cons part parts =>
    rw [or_iff_right (List.cons_ne_nil _ _), combineParts]
    · constructor
      · rintro ⟨combined, h⟩
        obtain ⟨keys, hkeys, -⟩ := bind_eq_ok_iff.mp h
        exact all_isText_of_mapM hkeys
      · intro h
        rw [markerTexts_of_all h, mapM_texts fun _ => rfl]
        exact ⟨_, rfl⟩
    · exact List.cons_ne_nil part parts

theorem markersBelow_of_not_isTrue {o : Options} {parent : Text} {style : Style}
    (h : style.isTrue = false) : markersBelow o parent style = [] := by
  match style with
  | .property _ | .rules [] => rfl

/-! ## Compiling a tree -/

theorem exists_block_nested_iff {o : Options} {key parent : Text} {selectors : List Value}
    {styles : Style} (ih : ∀ parent, (∃ css, compile o parent styles = .ok css) ↔
      styles.isLevel = true ∧ ∀ m ∈ markersBelow o parent styles, m.isUsable = true) :
    (∃ css, block o key parent (.nested selectors styles) = .ok css) ↔
      ∀ m ∈ markersOf o key parent (.nested selectors styles), m.isUsable = true := by
  rw [markersOf, List.forall_mem_cons, Marker.isUsable_iff, block]
  by_cases hparts : parent ≠ [] ∧ Selector.split parent = []
  · have hcombine : combine selectors parent = .ok [] := by
      rw [combine, if_neg hparts.1, hparts.2, combineParts]
    rw [hcombine, if_pos (Selector.combined_eq_nil_iff.mpr (.inr hparts))]
    exact iff_of_true ⟨[], rfl⟩ ⟨.inl hparts, List.forall_mem_nil _⟩
  rw [or_iff_right hparts]
  by_cases htexts : selectors.all Value.isText = true
  · obtain ⟨combined, hcombine⟩ := exists_combine_iff.mpr (.inr htexts)
    have hnil : Selector.combined (markerTexts selectors) parent = [] ↔ selectors = [] := by
      rw [Selector.combined_eq_nil_iff, or_iff_left hparts]
      conv => rhs; rw [markerTexts_of_all htexts, List.map_eq_nil_iff]
    rw [hcombine, ← combine_eq_ok hcombine, and_iff_right htexts]
    rw [← combine_eq_ok hcombine] at hnil
    change (∃ css, (if combined = [] ∨ (!styles.isTrue) = true then .ok [] else
      compile o (List.intercalate ", " combined) styles) = .ok css) ↔ _
    by_cases hselectors : selectors = []
    · rw [if_pos (.inl (hnil.mpr hselectors)), if_pos (hnil.mpr hselectors)]
      exact iff_of_true ⟨[], rfl⟩ ⟨.inl hselectors, List.forall_mem_nil _⟩
    rw [if_neg (mt hnil.mp hselectors), or_iff_right hselectors]
    cases htrue : styles.isTrue with
    | false =>
      rw [if_pos (.inr rfl), markersBelow_of_not_isTrue htrue]
      exact iff_of_true ⟨[], rfl⟩ ⟨.inl rfl, List.forall_mem_nil _⟩
    | true =>
      have hlooked : ¬ (combined = [] ∨ (!true) = true) :=
        not_or_intro (mt hnil.mp hselectors) Bool.false_ne_true
      rw [if_neg hlooked, or_iff_right Bool.false_ne_true.symm, ih]
  · rw [iff_false_intro htexts, false_and, false_and, iff_false]
    rintro ⟨css, h⟩
    obtain ⟨combined, hcombine, -⟩ := bind_eq_ok_iff.mp h
    exact (exists_combine_iff.mp ⟨combined, hcombine⟩).elim hparts htexts

mutual

/-- **A tree compiles** exactly when it is a level and every marker that is come upon is usable. -/
theorem exists_compile_iff (o : Options) (parent : Text) (style : Style) :
    (∃ css, compile o parent style = .ok css) ↔
      style.isLevel = true ∧ ∀ m ∈ markersBelow o parent style, m.isUsable = true := by
  match style with
  | .property _ | .nested _ _ => exact iff_of_false (fun ⟨_, h⟩ => nomatch h) fun h => nomatch h.1
  | .rules entries =>
    rw [compile, exists_map_iff, exists_blocks_iff o parent entries]
    exact (and_iff_right rfl).symm

theorem exists_blocks_iff (o : Options) (parent : Text) (entries : List (Scalar × Style)) :
    (∃ texts, blocks o parent entries = .ok texts) ↔
      ∀ m ∈ markersIn o parent entries, m.isUsable = true := by
  match entries with
  | [] => exact iff_of_true ⟨[], rfl⟩ fun _ h => nomatch h
  | (k, style) :: entries =>
    rw [markersIn, List.forall_mem_append, ← exists_block_iff o k.display parent style,
      ← exists_blocks_iff o parent entries, blocks]
    constructor
    · rintro ⟨texts, h⟩
      obtain ⟨css, hcss, h⟩ := bind_eq_ok_iff.mp h
      obtain ⟨others, hothers, -⟩ := bind_eq_ok_iff.mp h
      exact ⟨⟨css, hcss⟩, others, hothers⟩
    · rintro ⟨⟨css, hcss⟩, others, hothers⟩
      rw [hcss, hothers]
      exact ⟨_, rfl⟩

theorem exists_block_iff (o : Options) (key parent : Text) (style : Style) :
    (∃ css, block o key parent style = .ok css) ↔
      ∀ m ∈ markersOf o key parent style, m.isUsable = true := by
  match style with
  | .property _ => exact iff_of_true ⟨[], rfl⟩ fun _ h => nomatch h
  | .nested selectors styles =>
    exact exists_block_nested_iff fun parent => exists_compile_iff o parent styles
  | .rules entries =>
    rw [markersOf, block]
    cases Placement.ofKey o.themeKeys key parent with
    | under selector => exact exists_map_iff.trans (exists_blocks_iff o selector entries)
    | inside header selector => exact exists_map_iff.trans (exists_blocks_iff o selector entries)
    | alone header => exact exists_map_iff.trans (exists_blocks_iff o [] entries)

end

end Style

end ThemedCss
