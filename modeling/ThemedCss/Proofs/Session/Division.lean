import ThemedCss.Proofs.Session.Counting
import ThemedCss.Proofs.Session.Repetition
import ThemedCss.Proofs.Sheet.Shortened
import ThemedCss.Proofs.Style.Balanced
import ThemedCss.Proofs.Style.Entries

/-!
# Dividing styles over calls

Styles may be given in one call or in two: a level without properties of its own compiles entry by
entry, so two calls leave two chunks where one call leaves both as one. The rules are the same text.
A style sheet counts and shortens the references of each chunk by itself, which comes to the same
when no reference goes on from one chunk into the next; balanced parentheses see to that.

* `Style.isLine_of_compile`: a balanced chunk is read by itself;
* `Session.css_extend_joinBlocks`: the style sheets with two chunks and with both as one;
* **`Session.createStyle_append`**: styles given in one call, or divided over two.
-/

namespace ThemedCss

open Variable

/-! ## Chunks read by themselves -/

namespace Style

variable {o : Options} {parent : Text}

/-- A balanced chunk is read by itself: it closes what it opens, and ends with a block. -/
theorem isLine_of_compile {style : Style} {css : Text} (hcss : compile o parent style = .ok css)
    (h : IsBalanced css) : IsLine css := by
  refine ⟨isClosed_of_isBalanced h, ?_⟩
  have hlayouts := compile_eq_ok o parent style hcss
  by_cases hnil : layoutsBelow o parent style = []
  · left
    rw [hlayouts, hnil]
    rfl
  · right
    have hlast := Layout.getLast?_joinBlocks o hnil
    rw [← hlayouts] at hlast
    obtain ⟨s, hs⟩ := List.getLast?_eq_some_iff.mp hlast
    exact ⟨s, '\x7d', hs, .inr (.inr rfl)⟩

end Style

/-! ## Two chunks as one -/

theorem joinBlocks_pair (a b : Text) : Style.joinBlocks [a, b] = Text.unlines [a, [], b] := by
  simp [Style.joinBlocks, Text.unlines, List.intercalate]

section Pair

variable {a b : Text} (ha : IsLine a) (hb : IsLine b)

include ha hb

theorem isLine_pair : ∀ l ∈ [a, [], b], IsLine l := by
  have hnil : IsLine [] := ⟨isClosed_of_isBalanced rfl, .inl rfl⟩
  simp only [List.forall_mem_cons]
  exact ⟨ha, hnil, hb, List.forall_mem_nil _⟩

theorem shorten_joinBlocks_pair (root : Bindings) :
    shorten root (Style.joinBlocks [a, b]) = Style.joinBlocks [shorten root a, shorten root b] := by
  rw [joinBlocks_pair, shorten_unlines (isLine_pair ha hb), joinBlocks_pair, List.map_cons,
    List.map_cons, List.map_cons, List.map_nil, shorten_nil]

theorem allReferences_joinBlocks_pair :
    allReferences (Style.joinBlocks [a, b]) = [a, b].flatMap allReferences := by
  rw [joinBlocks_pair, allReferences_unlines (isLine_pair ha hb)]
  simp only [List.flatMap_cons, allReferences_nil, List.nil_append]

end Pair

theorem Style.joinBlocks_append_joinBlocks (xs : List Text) {ys : List Text} (hy : ys ≠ []) :
    joinBlocks (xs ++ [joinBlocks ys]) = joinBlocks (xs ++ ys) := by
  by_cases hx : xs = []
  · rw [hx, List.nil_append, List.nil_append, joinBlocks_singleton]
  · rw [joinBlocks_append hx (List.cons_ne_nil _ _), joinBlocks_append hx hy, joinBlocks_singleton]

theorem joinBlocks_pair_ne_nil {a : Text} (ha : a ≠ []) (b : Text) :
    Style.joinBlocks [a, b] ≠ [] := by
  rw [Style.joinBlocks_cons (List.cons_ne_nil _ _), List.append_assoc]
  exact List.append_ne_nil_of_left_ne_nil ha _

theorem Sheet.assemble_joinBlocks_pair (o : Options) (store : Store) (chunks : List Text)
    {a b : Text} (ha : a ≠ []) (hb : b ≠ []) :
    assemble o store (chunks ++ [Style.joinBlocks [a, b]]) =
      assemble o store (chunks ++ [a, b]) := by
  have hpair : Style.joinBlocks [a, b] ≠ [] := joinBlocks_pair_ne_nil ha b
  have hrules (themes : List Text) :
      List.intercalate "\n\n" (themes ++ (chunks ++ [Style.joinBlocks [a, b]]).filter (· ≠ [])) =
        List.intercalate "\n\n" (themes ++ (chunks ++ [a, b]).filter (· ≠ [])) := by
    have hone : [Style.joinBlocks [a, b]].filter (· ≠ []) = [Style.joinBlocks [a, b]] :=
      List.filter_eq_self.mpr (by simpa using hpair)
    have htwo : [a, b].filter (· ≠ []) = [a, b] := List.filter_eq_self.mpr (by simp [ha, hb])
    rw [List.filter_append, List.filter_append, hone, htwo, ← List.append_assoc,
      ← List.append_assoc]
    exact Style.joinBlocks_append_joinBlocks _ (List.cons_ne_nil _ _)
  rw [assemble, assemble, assembleAround, assembleAround]
  cases o.includeStyles with
  | true => exact congrArg (· ++ _) (hrules _)
  | false => rfl

/-! ## Sessions -/

namespace Session

section Pair

variable {s : Session} {a b : Text}

theorem generateStyles_extend_joinBlocks (s : Session) (a b : Text) :
    (s.extend [] [Style.joinBlocks [a, b]]).generateStyles =
      (s.extend [] [a, b]).generateStyles :=
  Style.joinBlocks_append_joinBlocks s.chunks (List.cons_ne_nil _ _)

variable (hscanned : s.scanned ≤ s.chunks.length) (ha : IsLine a) (hb : IsLine b)

include hscanned ha hb

theorem registry_scanChunks_extend_joinBlocks :
    (s.extend [] [Style.joinBlocks [a, b]]).scanChunks.registry =
      (s.extend [] [a, b]).scanChunks.registry := by
  change ((s.chunks ++ [Style.joinBlocks [a, b]]).drop s.scanned).foldl Registry.scan s.registry =
    ((s.chunks ++ [a, b]).drop s.scanned).foldl Registry.scan s.registry
  rw [List.drop_append_of_le_length hscanned, List.drop_append_of_le_length hscanned,
    Registry.foldl_scan_eq, Registry.foldl_scan_eq, List.flatMap_append, List.flatMap_append,
    List.flatMap_singleton, allReferences_joinBlocks_pair ha hb]

theorem registry_optimize_extend_joinBlocks :
    (s.extend [] [Style.joinBlocks [a, b]]).optimize.1.registry =
      (s.extend [] [a, b]).optimize.1.registry := by
  rw [optimize_eq, optimize_eq]
  dsimp only
  rw [registry_scanChunks_extend_joinBlocks hscanned ha hb]
  rfl

theorem sheet_optimize_extend_joinBlocks (ha' : a ≠ []) (hb' : b ≠ []) (includeStyles : Bool) :
    (s.extend [] [Style.joinBlocks [a, b]]).optimize.1.sheet includeStyles =
      (s.extend [] [a, b]).optimize.1.sheet includeStyles := by
  have hregistry := registry_optimize_extend_joinBlocks hscanned ha hb
  generalize hr : (s.extend [] [a, b]).optimize.1.registry = r at hregistry
  have hone : (s.extend [] [Style.joinBlocks [a, b]]).optimize.1.chunks =
      s.chunks.map (shorten r.store.root) ++
        [Style.joinBlocks [shorten r.store.root a, shorten r.store.root b]] := by
    rw [← shorten_joinBlocks_pair ha hb, ← hregistry]
    exact List.map_append
  have htwo : (s.extend [] [a, b]).optimize.1.chunks = s.chunks.map (shorten r.store.root) ++
      [shorten r.store.root a, shorten r.store.root b] := by
    rw [← hr]
    exact List.map_append
  have hne {t : Text} (ht : t ≠ []) : shorten r.store.root t ≠ [] :=
    fun hnil => ht ((shorten_eq_nil_iff _ _).mp hnil)
  have hsheet := Sheet.assemble_joinBlocks_pair (s.sheetOptions includeStyles) r.store
    (s.chunks.map (shorten r.store.root)) (hne ha') (hne hb')
  rw [← hone, ← htwo] at hsheet
  rw [sheet, sheet, hregistry, hr]
  exact congrArg (fun css => if s.config.dedupe then Sheet.merge css else Sheet.collapse css) hsheet

/-- **A style sheet with two chunks is the one with both as one chunk**, and so are the variables,
the uses and the cache behind it. -/
theorem css_extend_joinBlocks (ha' : a ≠ []) (hb' : b ≠ []) (includeStyles : Bool)
    (key : Option Scalar) :
    let whole := (s.extend [] [Style.joinBlocks [a, b]]).css includeStyles key
    let parts := (s.extend [] [a, b]).css includeStyles key
    parts.2 = whole.2 ∧ parts.1.registry = whole.1.registry ∧ parts.1.cache = whole.1.cache := by
  have hregistry := (registry_optimize_extend_joinBlocks hscanned ha hb).symm
  have hsheet := (sheet_optimize_extend_joinBlocks hscanned ha hb ha' hb' includeStyles).symm
  cases key with
  | none => exact ⟨hsheet, hregistry, rfl⟩
  | some k =>
    cases hk : s.cache.shouldRegenerate k includeStyles with
    | true =>
      rw [css_of_regenerates hk (s := s.extend [] [a, b]),
        css_of_regenerates hk (s := s.extend [] [Style.joinBlocks [a, b]])]
      refine ⟨hsheet, hregistry, ?_⟩
      dsimp only
      rw [hsheet]
      rfl
    | false =>
      rw [css_of_not_regenerates hk (s := s.extend [] [a, b]),
        css_of_not_regenerates hk (s := s.extend [] [Style.joinBlocks [a, b]])]
      exact ⟨rfl, rfl, rfl⟩

end Pair

theorem extend_filter_cases (s : Session) (a b : Text) :
    s.extend [] ([Style.joinBlocks ([a, b].filter (· ≠ []))].filter (· ≠ [])) =
        s.extend [] ([a, b].filter (· ≠ [])) ∨
      a ≠ [] ∧ b ≠ [] ∧ [a, b].filter (· ≠ []) = [a, b] ∧
        s.extend [] ([Style.joinBlocks ([a, b].filter (· ≠ []))].filter (· ≠ [])) =
          s.extend [] [Style.joinBlocks [a, b]] := by
  by_cases ha : a = []
  · left
    by_cases hb : b = []
    · rw [ha, hb]
      rfl
    · have hparts : [a, b].filter (· ≠ []) = [b] := by simp [ha, hb]
      rw [hparts, Style.joinBlocks_singleton, List.filter_cons_of_pos (by simpa using hb),
        List.filter_nil]
  · by_cases hb : b = []
    · left
      have hparts : [a, b].filter (· ≠ []) = [a] := by simp [ha, hb]
      rw [hparts, Style.joinBlocks_singleton, List.filter_cons_of_pos (by simpa using ha),
        List.filter_nil]
    · right
      have hparts : [a, b].filter (· ≠ []) = [a, b] := by simp [ha, hb]
      have hpair : Style.joinBlocks [a, b] ≠ [] := joinBlocks_pair_ne_nil ha b
      rw [hparts, List.filter_cons_of_pos (by simpa using hpair), List.filter_nil]
      exact ⟨ha, hb, rfl, rfl⟩

/-! ## Calls -/

section Calls

variable {s : Session} {e : List (Scalar × Style)} {css : Text} {f : Fault}

/-- The call that gives the entries of a level as styles. -/
def styleCall (e : List (Scalar × Style)) : Call := .createStyle (.style (.rules e)) none

theorem step_styleCall_ok (h : (Style.rules e).compile s.styleOptions [] = .ok css) :
    s.step (styleCall e) =
      (s.extend [] ([css].filter (· ≠ [])), .ok (.style (.rules e))) := by
  have hcreate : s.createStyle (.style (.rules e)) none =
      .ok (if css = [] then s else { s with chunks := s.chunks ++ [css] }, .rules e) := by
    change ((Style.rules e).compile s.styleOptions [] >>= _) = _
    rw [h]
    rfl
  rw [styleCall, step, hcreate]
  by_cases hcss : css = []
  · rw [hcss]
    exact congrArg (·, _) (extend_nil s).symm
  · rw [if_neg hcss, List.filter_cons_of_pos (by simpa using hcss)]
    rfl

theorem step_styleCall_error (h : (Style.rules e).compile s.styleOptions [] = .error f) :
    s.step (styleCall e) = (s, .error f) := by
  have hcreate : s.createStyle (.style (.rules e)) none = .error f := by
    change ((Style.rules e).compile s.styleOptions [] >>= _) = _
    rw [h]
    rfl
  rw [styleCall, step, hcreate]
  rfl

end Calls

theorem scanned_le (config : Config) (calls : List Call) :
    ((start config).run calls).1.scanned ≤ ((start config).run calls).1.chunks.length :=
  ((Watches.empty config _).run calls).scanned_le

theorem replay_styleCalls (s : Session) {e₁ e₂ : List (Scalar × Style)}
    (h₁ : ∀ entry ∈ e₁, entry.2.isProperty = false)
    (h₂ : ∀ entry ∈ e₂, entry.2.isProperty = false) :
    (∃ t f, s.replay [styleCall (e₁ ++ e₂)] = (s, .error f) ∧
        s.replay [styleCall e₁, styleCall e₂] = (t, .error f)) ∨
      ∃ a b, (Style.rules e₁).compile s.styleOptions [] = .ok a ∧
        (Style.rules e₂).compile s.styleOptions [] = .ok b ∧
        s.replay [styleCall (e₁ ++ e₂)] =
          (s.extend [] ([Style.joinBlocks ([a, b].filter (· ≠ []))].filter (· ≠ [])), .ok ()) ∧
        s.replay [styleCall e₁, styleCall e₂] =
          (s.extend [] ([a, b].filter (· ≠ [])), .ok ()) := by
  have happend := Style.compile_append s.styleOptions [] h₁ h₂
  cases hc₁ : (Style.rules e₁).compile s.styleOptions [] with
  | error f =>
    rw [hc₁] at happend
    refine .inl ⟨s, f, ?_, ?_⟩
    · rw [replay, step_styleCall_error happend]
    · rw [replay, step_styleCall_error hc₁]
  | ok a =>
    have hfirst := step_styleCall_ok hc₁
    rw [hc₁] at happend
    cases hc₂ : (Style.rules e₂).compile s.styleOptions [] with
    | error f =>
      rw [hc₂] at happend
      refine .inl ⟨s.extend [] ([a].filter (· ≠ [])), f, ?_, ?_⟩
      · rw [replay, step_styleCall_error happend]
      · rw [replay, hfirst]
        dsimp only
        rw [replay, step_styleCall_error (s := s.extend [] _) hc₂]
    | ok b =>
      rw [hc₂] at happend
      refine .inr ⟨a, b, rfl, rfl, ?_, ?_⟩
      · rw [replay, step_styleCall_ok happend]
        rfl
      · have hadded : [a, b].filter (· ≠ []) = [a].filter (· ≠ []) ++ [b].filter (· ≠ []) :=
          List.filter_append [a] [b]
        have hboth : (s.extend [] ([a].filter (· ≠ []))).extend [] ([b].filter (· ≠ [])) =
            s.extend [] ([a, b].filter (· ≠ [])) := by
          rw [hadded]
          unfold extend
          rw [← List.append_assoc]
          rfl
        rw [replay, hfirst]
        dsimp only
        rw [replay, step_styleCall_ok (s := s.extend [] _) hc₂, hboth]
        rfl

theorem isBalanced_of_compile_levels {o : Style.Options} (ho : IsBalanced o.indent)
    {e₁ e₂ : List (Scalar × Style)} (h : ∀ t ∈ Style.textsIn (e₁ ++ e₂), IsBalanced t) {a b : Text}
    (ha : (Style.rules e₁).compile o [] = .ok a) (hb : (Style.rules e₂).compile o [] = .ok b) :
    ∀ css ∈ [a, b], IsBalanced css := by
  rw [Style.textsIn_append, List.forall_mem_append, ← Style.texts_rules, ← Style.texts_rules] at h
  rw [List.forall_mem_cons, List.forall_mem_singleton]
  have hempty : IsBalanced [] := rfl
  exact ⟨Style.isBalanced_compile ho hempty h.1 ha, Style.isBalanced_compile ho hempty h.2 hb⟩

/-- **Styles may be divided over calls.** Give the entries of two levels, neither with properties of
its own, one behind the other in one call, or each in a call: both ways fail together, with the same
fault, and the rules are the same text. When the chunks are balanced, as those of balanced keys,
selectors and values are, then the next style sheet is the same, and so are the variables, the uses
and the cache behind it. -/
theorem createStyle_append (config : Config) (calls : List Call) (e₁ e₂ : List (Scalar × Style))
    (h₁ : ∀ entry ∈ e₁, entry.2.isProperty = false)
    (h₂ : ∀ entry ∈ e₂, entry.2.isProperty = false) :
    let s := ((start config).run calls).1
    let whole := s.replay [styleCall (e₁ ++ e₂)]
    let parts := s.replay [styleCall e₁, styleCall e₂]
    let added := parts.1.chunks.drop s.chunks.length
    parts.2 = whole.2 ∧ (whole.2 = .ok () →
      parts.1.generateStyles = whole.1.generateStyles ∧
      (IsBalanced config.indent → (∀ t ∈ Style.textsIn (e₁ ++ e₂), IsBalanced t) →
        ∀ chunk ∈ added, IsBalanced chunk) ∧
      ((∀ chunk ∈ added, IsBalanced chunk) → ∀ includeStyles key,
        (parts.1.css includeStyles key).2 = (whole.1.css includeStyles key).2 ∧
        (parts.1.css includeStyles key).1.registry = (whole.1.css includeStyles key).1.registry ∧
        (parts.1.css includeStyles key).1.cache = (whole.1.css includeStyles key).1.cache)) := by
  intro s whole parts added
  have hconfig : s.config = config := config_run (start config) calls
  rcases replay_styleCalls s h₁ h₂ with ⟨t, f, hwhole, hparts⟩ | ⟨a, b, ha, hb, hwhole, hparts⟩
  · refine ⟨(congrArg Prod.snd hparts).trans (congrArg Prod.snd hwhole).symm, fun h => ?_⟩
    cases (congrArg Prod.snd hwhole).symm.trans h
  have hwhole' : whole.1 = _ := congrArg Prod.fst hwhole
  have hparts' : parts.1 = _ := congrArg Prod.fst hparts
  have hadded : added = [a, b].filter (· ≠ []) := by
    change parts.1.chunks.drop s.chunks.length = _
    rw [hparts']
    exact List.drop_left
  have hbalanced (ho : IsBalanced config.indent)
      (h : ∀ t ∈ Style.textsIn (e₁ ++ e₂), IsBalanced t) : ∀ chunk ∈ added, IsBalanced chunk := by
    rw [← hconfig] at ho
    rw [hadded]
    exact fun chunk hchunk =>
      isBalanced_of_compile_levels (o := s.styleOptions) ho h ha hb chunk (List.mem_of_mem_filter hchunk)
  refine ⟨(congrArg Prod.snd hparts).trans (congrArg Prod.snd hwhole).symm, fun _ => ?_⟩
  rw [hwhole', hparts']
  rcases extend_filter_cases s a b with hsame | ⟨hne₁, hne₂, hpair, hjoined⟩
  · rw [hsame]
    exact ⟨rfl, hbalanced, fun _ _ _ => ⟨rfl, rfl, rfl⟩⟩
  · rw [hjoined, hpair]
    refine ⟨(generateStyles_extend_joinBlocks s a b).symm, hbalanced, fun h includeStyles key => ?_⟩
    rw [hadded, hpair, List.forall_mem_cons, List.forall_mem_singleton] at h
    exact css_extend_joinBlocks (scanned_le config calls) (Style.isLine_of_compile ha h.1)
      (Style.isLine_of_compile hb h.2) hne₁ hne₂ includeStyles key

/-- Two levels that use a variable three times between them. -/
def gapLevels : List (Scalar × Style) × List (Scalar × Style) :=
  let gap : Style := .property (.scalar (.text "var(--gap, 1rem)"))
  ([(.text "a", .rules [(.text "margin", gap), (.text "padding", gap)])],
    [(.text "b", .rules [(.text "gap", gap)])])

theorem createStyle_append_gap :
    let whole := (start {}).replay [styleCall (gapLevels.1 ++ gapLevels.2)]
    let parts := (start {}).replay [styleCall gapLevels.1, styleCall gapLevels.2]
    whole.1.chunks.length = 1 ∧ parts.1.chunks.length = 2 ∧
      (parts.1.css true none).2 = (whole.1.css true none).2 ∧
      (parts.1.css true none).1.registry.store.get? .root "--gap" = some "1rem" := by
  have h := createStyle_append {} [] gapLevels.1 gapLevels.2 (by decide +kernel)
    (by decide +kernel)
  have hsame := h.2 (by decide +kernel)
  have hbalanced := hsame.2.1 (by decide +kernel) (by decide +kernel)
  exact ⟨by decide +kernel, by decide +kernel, (hsame.2.2 hbalanced true none).1,
    by decide +kernel⟩

end Session

end ThemedCss
