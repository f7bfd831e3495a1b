import Mathlib.Data.List.Basic
import Mathlib.Tactic.SplitIfs
import ThemedCss.Proofs.Style.Layout

/-!
# Colour-scheme queries

Read as scopes, the keys `light` and `dark` in front of levels are short for the queries of these
colour schemes. A tree with the queries spelled out, whose theme keys are read as plain names, has the
same text.

* `queryKey`, `withQueries`: the theme keys of a tree replaced with the queries;
* `ofKey_queryKey`: a theme key and its query lead to the same place;
* `EachLevel`: what holds of all levels of a tree;
* `HasDistinctKeys`, `AsksOnce`: a level that is a mapping, and one that asks for no colour scheme in
  two ways;
* **`compile_eq_compile_withQueries`**: reading theme keys as scopes, and spelling their queries out.
-/

namespace ThemedCss.Style

/-! ## Queries spelled out -/

/-- The key under which a tree stands when queries are spelled out: a theme key in front of a level is
replaced with its query, and every other key stays. -/
def queryKey (k : Scalar) : Style → Scalar
  | rules _ =>
    if (Mode.ofThemeKey? k.display).isSome then .text (AtRule.colorScheme k.display) else k
  | _ => k

mutual

/-- A tree with its queries spelled out, at all levels and inside markers. -/
def withQueries : Style → Style
  | property v => property v
  | rules entries => rules (withQueriesIn entries)
  | nested selectors styles => nested selectors (withQueries styles)

/-- The entries of a level with the queries spelled out. -/
def withQueriesIn : List (Scalar × Style) → List (Scalar × Style)
  | [] => []
  | (k, style) :: entries => (queryKey k style, withQueries style) :: withQueriesIn entries

end

theorem isTrue_withQueries (style : Style) : style.withQueries.isTrue = style.isTrue := by
  match style with
  | .property _ | .rules [] | .rules (_ :: _) | .nested _ _ => rfl

theorem isHeader_of_isSome_ofThemeKey? {key : Text} (h : (Mode.ofThemeKey? key).isSome = true) :
    AtRule.isHeader key = false := by
  obtain ⟨m, hm⟩ := Option.isSome_iff_exists.mp h
  obtain ⟨rfl, -⟩ := Mode.ofThemeKey?_eq_some.mp hm
  cases m <;> rfl

theorem ofKey_queryKey (k : Scalar) (entries : List (Scalar × Style)) (parent : Text) :
    Placement.ofKey .scope k.display parent =
      Placement.ofKey .literal (queryKey k (rules entries)).display parent := by
  cases htheme : (Mode.ofThemeKey? k.display).isSome with
  | true =>
    have hquery : queryKey k (rules entries) = .text (AtRule.colorScheme k.display) := if_pos htheme
    have hscope : AtRule.header? .scope k.display = some (AtRule.colorScheme k.display) := by
      unfold AtRule.header?
      rw [isHeader_of_isSome_ofThemeKey? htheme, if_neg Bool.false_ne_true, if_pos ⟨rfl, htheme⟩]
    rw [hquery, Placement.ofKey, hscope]
    rfl
  | false =>
    have hkey : queryKey k (rules entries) = k := by
      unfold queryKey
      rw [htheme, if_neg Bool.false_ne_true]
    have hheader : AtRule.header? .scope k.display = AtRule.header? .literal k.display := by
      unfold AtRule.header?
      simp [htheme]
    rw [hkey, Placement.ofKey, hheader]
    rfl

section Compile

variable (indent : Text)

theorem declarations_withQueries (entries : List (Scalar × Style)) :
    declarations ⟨indent, .scope⟩ entries =
      declarations ⟨indent, .literal⟩ (withQueriesIn entries) := by
  induction entries with
  | nil => rfl
  | cons entry entries ih =>
    obtain ⟨k, style⟩ := entry
    cases style with
    | property v =>
      have hentry : withQueriesIn ((k, .property v) :: entries) =
          (k, .property v) :: withQueriesIn entries := rfl
      rw [hentry, declarations_property, declarations_property, ih]
    | rules _ => exact ih
    | nested _ _ => exact ih

mutual

theorem compile_withQueries (parent : Text) (style : Style) :
    compile ⟨indent, .scope⟩ parent style = compile ⟨indent, .literal⟩ parent style.withQueries := by
  match style with
  | .property _ | .nested _ _ => rfl
  | .rules entries =>
    rw [withQueries, compile, compile, declarations_withQueries,
      blocks_withQueries parent entries]

theorem blocks_withQueries (parent : Text) (entries : List (Scalar × Style)) :
    blocks ⟨indent, .scope⟩ parent entries =
      blocks ⟨indent, .literal⟩ parent (withQueriesIn entries) := by
  match entries with
  | [] => rfl
  | (k, style) :: entries =>
    rw [withQueriesIn, blocks, blocks, block_withQueries parent k style,
      blocks_withQueries parent entries]

theorem block_withQueries (parent : Text) (k : Scalar) (style : Style) :
    block ⟨indent, .scope⟩ k.display parent style =
      block ⟨indent, .literal⟩ (queryKey k style).display parent style.withQueries := by
  match style with
  | .property _ => rfl
  | .nested selectors styles =>
    have hstyles := fun parent => compile_withQueries parent styles
    rw [withQueries, block, block, isTrue_withQueries]
    simp only [hstyles]
  | .rules entries =>
    have hblocks := fun parent => blocks_withQueries parent entries
    rw [withQueries, block, block, ofKey_queryKey k entries, declarations_withQueries]
    simp only [hblocks]
    rfl

end

end Compile

/-! ## Levels as mappings -/

mutual

/-- Whether all levels of a tree are as wanted, those inside markers included. -/
def EachLevel (p : List (Scalar × Style) → Prop) : Style → Prop
  | property _ => True
  | rules entries => p entries ∧ EachLevelIn p entries
  | nested _ styles => EachLevel p styles

/-- Whether all levels below the entries of one are as wanted. -/
def EachLevelIn (p : List (Scalar × Style) → Prop) : List (Scalar × Style) → Prop
  | [] => True
  | (_, style) :: entries => EachLevel p style ∧ EachLevelIn p entries

end

/-- Whether a level is a mapping: no two entries have one key. -/
def HasDistinctKeys (entries : List (Scalar × Style)) : Prop :=
  entries.Pairwise fun a b => a.1.sameKey b.1 = false

/-- Whether an entry asks for a colour scheme: by the query as its key, or by the theme key in front of
a level. -/
def AsksFor (m : Mode) : Scalar × Style → Prop
  | (k, rules _) => k.display = m.name ∨ k = .text (AtRule.colorScheme m.name)
  | (k, _) => k = .text (AtRule.colorScheme m.name)

/-- Whether no two entries of a level ask for one colour scheme. -/
def AsksOnce (entries : List (Scalar × Style)) : Prop :=
  entries.Pairwise fun a b => ∀ m, m ≠ .root → ¬ (AsksFor m a ∧ AsksFor m b)

instance (m : Mode) : DecidablePred (AsksFor m)
  | (k, rules _) =>
    inferInstanceAs (Decidable (k.display = m.name ∨ k = .text (AtRule.colorScheme m.name)))
  | (k, property _) | (k, nested _ _) =>
    inferInstanceAs (Decidable (k = .text (AtRule.colorScheme m.name)))

instance (p : Mode → Prop) [DecidablePred p] : Decidable (∀ m, p m) :=
  decidable_of_iff (p .root ∧ p .light ∧ p .dark)
    ⟨fun ⟨hroot, hlight, hdark⟩ m => by cases m <;> assumption, fun h => ⟨h _, h _, h _⟩⟩

theorem colorScheme_inj {s t : Text} (h : AtRule.colorScheme s = AtRule.colorScheme t) : s = t :=
  List.append_cancel_left (List.append_cancel_right h)

/-- An entry keeps its key, or asks for a colour scheme and gets its query for one. -/
theorem queryKey_cases (k : Scalar) (style : Style) :
    queryKey k style = k ∨ ∃ m, m ≠ .root ∧ AsksFor m (k, style) ∧
      queryKey k style = .text (AtRule.colorScheme m.name) := by
  cases style with
  | property _ => exact .inl rfl
  | nested _ _ => exact .inl rfl
  | rules entries =>
    by_cases htheme : (Mode.ofThemeKey? k.display).isSome = true
    · obtain ⟨m, hm⟩ := Option.isSome_iff_exists.mp htheme
      obtain ⟨hname, hroot⟩ := Mode.ofThemeKey?_eq_some.mp hm
      exact .inr ⟨m, hroot, .inl hname, (if_pos htheme).trans (by rw [hname])⟩
    · exact .inl (if_neg htheme)

theorem asksFor_of_queryKey {k : Scalar} {style : Style} {m : Mode}
    (h : queryKey k style = .text (AtRule.colorScheme m.name)) : AsksFor m (k, style) := by
  cases style with
  | property _ => exact h
  | nested _ _ => exact h
  | rules entries =>
    unfold queryKey at h
    split_ifs at h
    · exact .inl (colorScheme_inj (Scalar.text.inj h))
    · exact .inr h

theorem withQueriesIn_eq_map (entries : List (Scalar × Style)) :
    withQueriesIn entries = entries.map fun entry => (queryKey entry.1 entry.2, withQueries entry.2) := by
  induction entries with
  | nil => rfl
  | cons entry entries ih => rw [withQueriesIn, ih, List.map_cons]

/-- A level stays a mapping when its queries are spelled out, unless it asks for one in two ways. -/
theorem HasDistinctKeys.withQueriesIn {entries : List (Scalar × Style)} (h : HasDistinctKeys entries)
    (honce : AsksOnce entries) : HasDistinctKeys (withQueriesIn entries) := by
  rw [withQueriesIn_eq_map, HasDistinctKeys, List.pairwise_map]
  refine (List.Pairwise.and h honce).imp ?_
  rintro ⟨k, style⟩ ⟨k', style'⟩ ⟨hkeys, hasks⟩
  rw [Bool.eq_false_iff]
  intro hsame
  obtain hk | ⟨m, hm, hfirst, hquery⟩ := queryKey_cases k style
  · obtain hk' | ⟨m, hm, hsecond, hquery⟩ := queryKey_cases k' style'
    · rw [hk, hk', hkeys] at hsame
      cases hsame
    · rw [hquery, Scalar.sameKey_comm, Scalar.sameKey_text_iff] at hsame
      exact hasks m hm ⟨asksFor_of_queryKey hsame, hsecond⟩
  · rw [hquery, Scalar.sameKey_text_iff] at hsame
    exact hasks m hm ⟨hfirst, asksFor_of_queryKey hsame⟩

mutual

theorem eachLevel_withQueries (style : Style) (h : style.EachLevel HasDistinctKeys)
    (honce : style.EachLevel AsksOnce) : style.withQueries.EachLevel HasDistinctKeys := by
  match style with
  | .property _ => exact trivial
  | .nested _ styles => exact eachLevel_withQueries styles h honce
  | .rules entries =>
    exact ⟨h.1.withQueriesIn honce.1, eachLevelIn_withQueriesIn entries h.2 honce.2⟩

theorem eachLevelIn_withQueriesIn (entries : List (Scalar × Style))
    (h : EachLevelIn HasDistinctKeys entries) (honce : EachLevelIn AsksOnce entries) :
    EachLevelIn HasDistinctKeys (withQueriesIn entries) := by
  match entries with
  | [] => exact trivial
  | (_, style) :: entries =>
    exact ⟨eachLevel_withQueries style h.1 honce.1,
      eachLevelIn_withQueriesIn entries h.2 honce.2⟩

end

/-- **Reading theme keys as scopes is spelling their queries out**: a tree compiles to the text, or
fails with the fault, of the tree with its queries spelled out and theme keys read as plain names.
That tree is made of mappings when the tree itself is and no level asks for a colour scheme by its theme
key and by its query. -/
theorem compile_eq_compile_withQueries (indent parent : Text) (style : Style) :
    compile ⟨indent, .scope⟩ parent style = compile ⟨indent, .literal⟩ parent style.withQueries ∧
    (style.EachLevel HasDistinctKeys → style.EachLevel AsksOnce →
      style.withQueries.EachLevel HasDistinctKeys) :=
  ⟨compile_withQueries indent parent style, eachLevel_withQueries style⟩

/-- A link in the dark, and the dark as a colour, a scope inside a marker and a scope of its own. -/
def darkStyle : Style :=
  .rules [(.text "a", .rules
      [(.text "dark", .property (.scalar (.text "no"))),
        (.text "states", .nested [.scalar (.text "&:hover")]
          (.rules [(.text "dark", .rules [(.text "color", .property (.scalar (.text "white")))])]))]),
    (.text "dark", .rules
      [(.text "color-scheme", .property (.scalar (.text "dark"))),
        (.text "light", .nested [.scalar (.text "b")]
          (.rules [(.text "margin", .property (.scalar (.int 0)))]))])]

theorem compile_eq_compile_withQueries_dark :
    darkStyle.EachLevel HasDistinctKeys ∧ darkStyle.EachLevel AsksOnce ∧
    compile ⟨"  ", .scope⟩ "" darkStyle = compile ⟨"  ", .literal⟩ "" darkStyle.withQueries ∧
    darkStyle.withQueries.EachLevel HasDistinctKeys := by
  have hkeys : darkStyle.EachLevel HasDistinctKeys := by
    simp only [darkStyle, EachLevel, EachLevelIn, HasDistinctKeys]
    decide
  have honce : darkStyle.EachLevel AsksOnce := by
    simp only [darkStyle, EachLevel, EachLevelIn, AsksOnce]
    decide
  obtain ⟨hcompile, hspelled⟩ := compile_eq_compile_withQueries "  " "" darkStyle
  exact ⟨hkeys, honce, hcompile, hspelled hkeys honce⟩

end ThemedCss.Style
