import ThemedCss.Style.Check

/-!
# Style trees whose texts can be made

A compilation fails for two reasons: the selectors of a marker, or a property value of which no text
can be made. Where all the texts of a tree can be made, the first one is left.

* `Style.values`: the property values of a tree;
* `Style.check_eq`, `Style.checkEntry_eq`: making the texts fails where the compilation at once does;
* **`Style.compileChecked_eq`**: the rules of such a tree are those of the compilation at once.
-/

namespace ThemedCss.Style

mutual

/-- The property values of a tree. -/
def values : Style → List Value
  | property v => [v]
  | rules entries => valuesIn entries
  | nested _ styles => styles.values

/-- The property values below the entries of a level. -/
def valuesIn : List (Scalar × Style) → List Value
  | [] => []
  | (_, style) :: entries => style.values ++ valuesIn entries

end

theorem checkProperties_eq_ok {entries : List (Scalar × Style)}
    (h : ∀ v ∈ valuesIn entries, v.fault? Value.room = none) : checkProperties entries = .ok () := by
  induction entries with
  | nil => rfl
  | cons entry entries ih =>
    obtain ⟨k, style⟩ := entry
    rw [valuesIn, List.forall_mem_append] at h
    cases style with
    | property v =>
      rw [checkProperties, Value.format_eq_ok (h.1 v (List.mem_singleton_self v))]
      exact ih h.2
    | rules below => exact ih h.2
    | nested selectors styles => exact ih h.2

mutual

theorem check_eq (o : Options) (parent : Text) {style : Style}
    (h : ∀ v ∈ style.values, v.fault? Value.room = none) :
    check o parent style = (fun _ => ()) <$> compile o parent style := by
  match style with
  | property v => rfl
  | nested selectors styles => rfl
  | rules entries =>
    rw [check, compile, checkEntries_eq o parent h]
    cases blocks o parent entries <;> rfl

theorem checkEntries_eq (o : Options) (parent : Text) {entries : List (Scalar × Style)}
    (h : ∀ v ∈ valuesIn entries, v.fault? Value.room = none) :
    checkEntries o parent entries = (fun _ => ()) <$> blocks o parent entries := by
  match entries with
  | [] => rfl
  | (k, style) :: entries =>
    rw [valuesIn, List.forall_mem_append] at h
    rw [checkEntries, blocks, checkEntry_eq o k.display parent h.1, checkEntries_eq o parent h.2]
    cases block o k.display parent style with
    | error f => rfl
    | ok css => cases blocks o parent entries <;> rfl

theorem checkEntry_eq (o : Options) (key parent : Text) {style : Style}
    (h : ∀ v ∈ style.values, v.fault? Value.room = none) :
    checkEntry o key parent style = (fun _ => ()) <$> block o key parent style := by
  match style with
  | property v =>
    rw [checkEntry, Value.format_eq_ok (h v (List.mem_singleton_self v))]
    rfl
  | nested selectors styles =>
    rw [checkEntry, block]
    cases combine selectors parent with
    | error f => rfl
    | ok combined =>
      change (if _ then _ else _) = _ <$> (if _ then _ else _)
      split
      · rfl
      · exact check_eq o _ h
  | rules entries =>
    rw [checkEntry, block]
    cases Placement.ofKey o.themeKeys key parent with
    | under selector =>
      dsimp only
      rw [checkEntries_eq o selector h]
      cases blocks o selector entries <;> rfl
    | inside header selector =>
      dsimp only
      rw [checkEntries_eq o selector h]
      cases blocks o selector entries <;> rfl
    | alone header =>
      dsimp only
      rw [checkProperties_eq_ok h, checkEntries_eq o [] h]
      cases blocks o [] entries <;> rfl

end

/-- **The rules of a tree are those of its compilation at once** if texts can be made of all its
values. -/
theorem compileChecked_eq (o : Options) (parent : Text) {style : Style}
    (h : ∀ v ∈ style.values, v.fault? Value.room = none) :
    style.compileChecked o parent = style.compile o parent := by
  unfold compileChecked
  rw [check_eq o parent h]
  cases style.compile o parent <;> rfl

end ThemedCss.Style
