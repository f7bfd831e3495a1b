import ThemedCss.Proofs.Text.Lines
import ThemedCss.Proofs.Text.Strip

/-!
# The cascade of a style sheet

What a style sheet without blocks in blocks says: its rules in order, each with the selectors that
it lists and the lines of its body. Of the rules that list a selector and declare a property, the
last one holds.

* `Sheet.Rule`, `Sheet.rules`: the rules that a text is read as;
* `Rule.value?`: the value that a rule gives a property of a selector;
* `Sheet.value?`: the value that holds in a style sheet;
* `lastOf_range_eq_some_iff`: the last of some values is one behind which there is none;
* `LastBy`, **`Found.lastOf_eq_some_iff`**: the last of some values in an order.
-/

namespace ThemedCss.Sheet

/-! ## Reading rules -/

/-- A rule, as the selectors it lists and the lines of its body. -/
structure Rule where
  /-- What the header lists. -/
  selectors : List Text
  /-- The lines between the braces that are not empty. -/
  body : List Text

/-- The header of a line that opens a block. -/
def headerOf? (line : Text) : Option Text :=
  if line.getLast? = some '\x7b' then some line.dropLast else none

/-- The selectors that a header lists. -/
def listed (header : Text) : List Text := (header.splitOn ',').map Text.strip

/-- The lines before the first header or closing brace, and the rules among the others. -/
def readLines : List Text → List Text × List Rule
  | [] => ([], [])
  | l :: ls =>
    if l = Block.closing then ([], (readLines ls).2)
    else
      match headerOf? l with
      | some header => ([], ⟨listed header, (readLines ls).1⟩ :: (readLines ls).2)
      | none => (l :: (readLines ls).1, (readLines ls).2)

/-- The rules of a style sheet, in order. -/
def rules (css : Text) : List Rule := (readLines (Text.contentLines css)).2

/-! ## Values -/

/-- The property that a line of a body declares and its value, without the semicolon. -/
def declared? (line : Text) : Option (Text × Text) :=
  match line.dropWhile (· ≠ ':') with
  | [] => none
  | _ :: rest =>
    let value := Text.strip rest
    some (Text.strip (line.takeWhile (· ≠ ':')),
      if value.getLast? = some ';' then value.dropLast else value)

/-- The last of the values that a function gives. -/
def lastOf {α β : Type} (f : α → Option β) (as : List α) : Option β := as.reverse.findSome? f

/-- The value that a body gives a property: that of its last declaration. -/
def valueIn (body : List Text) (property : Text) : Option Text :=
  lastOf (fun line => (declared? line).bind fun (name, value) =>
    if name = property then some value else none) body

/-- The value that a rule gives a property of a selector. -/
def Rule.value? (selector property : Text) (r : Rule) : Option Text :=
  if selector ∈ r.selectors then valueIn r.body property else none

/-- The value of a property for a selector: that of the last rule in order which lists the selector
and declares the property. -/
def value? (css selector property : Text) : Option Text :=
  lastOf (Rule.value? selector property) (rules css)

/-! ## Lemmas -/

theorem Rule.value?_eq_some_iff {selector property v : Text} {r : Rule} :
    r.value? selector property = some v ↔
      selector ∈ r.selectors ∧ valueIn r.body property = some v := by
  rw [Rule.value?]
  exact Option.ite_none_right_eq_some

theorem listed_of_not_mem {header : Text} (h : ',' ∉ header) :
    listed header = [Text.strip header] := by
  rw [listed, List.splitOn_eq_singleton h]
  rfl

theorem listed_cons_blank (header : Text) : listed (' ' :: header) = listed header := by
  rw [listed, List.splitOn_cons_eq_if_modifyHead, if_neg (by decide), listed]
  cases header.splitOn ',' with
  | nil => rfl
  | cons t ts =>
    rw [List.modifyHead_cons, List.map_cons, List.map_cons, Text.strip_cons_of_blank (by decide)]

theorem listed_append_cons {s : Text} (h : ',' ∉ s) (header : Text) :
    listed (s ++ ',' :: header) = Text.strip s :: listed header := by
  rw [listed, List.splitOn_append_cons_self_of_not_mem h]
  rfl

theorem listed_intercalate {selectors : List Text} (hne : selectors ≠ [])
    (h : ∀ s ∈ selectors, ',' ∉ s ∧ Text.strip s = s) :
    listed (List.intercalate ", " selectors ++ [' ']) = selectors := by
  induction selectors with
  | nil => exact absurd rfl hne
  | cons s ss ih =>
    obtain ⟨hcomma, hstrip⟩ := h s List.mem_cons_self
    cases ss with
    | nil =>
      have hblank : ∀ c ∈ [' '], Text.isBlank c = true := List.forall_mem_singleton.mpr rfl
      rw [List.intercalate_singleton, listed_of_not_mem (by simpa using hcomma),
        Text.strip_append_blanks hblank, hstrip]
    | cons t ts =>
      have ht : t :: ts ≠ [] := List.cons_ne_nil t ts
      rw [List.intercalate_cons_of_ne_nil ht, List.append_assoc, List.append_assoc]
      refine (listed_append_cons hcomma _).trans ?_
      refine congrArg₂ List.cons hstrip ((listed_cons_blank _).trans ?_)
      exact ih ht fun u hu => h u (List.mem_cons_of_mem s hu)

theorem getLast?_opening (selector : Text) : (Block.opening selector).getLast? = some '\x7b' := by
  rw [Block.opening]
  split
  · rfl
  · rw [List.getLast?_append]
    rfl

theorem headerOf?_opening (selector : Text) :
    headerOf? (Block.opening selector) =
      some (if selector = [] then [] else selector ++ [' ']) := by
  rw [headerOf?, if_pos (getLast?_opening selector), Option.some_inj, Block.opening]
  split
  · rfl
  · rw [List.dropLast_append_of_ne_nil (by decide)]
    rfl

theorem headerOf?_opening_intercalate {selectors : List Text} (hne : selectors ≠ [])
    (h : ∀ s ∈ selectors, ',' ∉ s ∧ Text.strip s = s) :
    (headerOf? (Block.opening (List.intercalate ", " selectors))).map listed = some selectors := by
  rw [headerOf?_opening, Option.map_some, Option.some_inj]
  split
  · rename_i hempty
    match selectors, hne with
    | [s], _ =>
      rw [List.intercalate_singleton] at hempty
      rw [hempty]
      rfl
    | s :: t :: ts, _ =>
      rw [List.intercalate_cons_cons] at hempty
      simp at hempty
  · exact listed_intercalate hne h

theorem ne_closing_of_no_brace {l : Text} (h : l.any Block.isBrace = false) :
    l ≠ Block.closing := by
  rintro rfl
  exact absurd h (by decide)

/-- Lines without braces belong to the rule in front of them. -/
theorem readLines_append_of_no_brace {body : List Text}
    (h : ∀ l ∈ body, l.any Block.isBrace = false) (ls : List Text) :
    readLines (body ++ ls) = (body ++ (readLines ls).1, (readLines ls).2) := by
  induction body with
  | nil => rfl
  | cons l body ih =>
    have hl := h l List.mem_cons_self
    have hheader : headerOf? l = none := by
      refine if_neg fun hlast => ?_
      obtain ⟨r, rfl⟩ := List.getLast?_eq_some_iff.mp hlast
      simp [Block.isBrace] at hl
    rw [List.cons_append, readLines, if_neg (ne_closing_of_no_brace hl), hheader,
      ih fun m hm => h m (List.mem_cons_of_mem l hm)]
    rfl

theorem feed_not_mem_intercalate {selectors : List Text} (h : ∀ s ∈ selectors, '\n' ∉ s) :
    '\n' ∉ List.intercalate ", " selectors := by
  intro hmem
  rcases Text.mem_of_mem_intercalate hmem with hc | ⟨s, hs, hc⟩
  · exact absurd hc (by decide)
  · exact h s hs hc

theorem flatMap_contentLines {ls : List Text} (h : ∀ l ∈ ls, '\n' ∉ l) :
    ls.flatMap Text.contentLines = ls.filter (· ≠ []) := by
  induction ls with
  | nil => rfl
  | cons l ls ih =>
    rw [List.flatMap_cons, Text.contentLines_of_not_mem (h l List.mem_cons_self),
      ih fun m hm => h m (List.mem_cons_of_mem l hm)]
    by_cases hl : l = [] <;> simp [hl]

theorem readLines_block {selectors body : List Text} (hne : selectors ≠ [])
    (hs : ∀ s ∈ selectors, ',' ∉ s ∧ Text.strip s = s) (hfeed : ∀ s ∈ selectors, '\n' ∉ s)
    (hbody : ∀ l ∈ body, '\n' ∉ l ∧ l.any Block.isBrace = false) (ls : List Text) :
    readLines
        ((Block.lines (List.intercalate ", " selectors) body).flatMap Text.contentLines ++ ls) =
      ([], ⟨selectors, body.filter (· ≠ [])⟩ :: (readLines ls).2) := by
  obtain ⟨header, hheader, hlisted⟩ :=
    Option.map_eq_some_iff.mp (headerOf?_opening_intercalate hne hs)
  have hlast := getLast?_opening (List.intercalate ", " selectors)
  have hopening : Text.contentLines (Block.opening (List.intercalate ", " selectors)) =
      [Block.opening (List.intercalate ", " selectors)] := by
    refine (Text.contentLines_of_not_mem ?_).trans (if_neg fun hempty => ?_)
    · exact Block.feed_not_mem_opening (feed_not_mem_intercalate hfeed)
    · rw [hempty] at hlast
      cases hlast
  have hclosing : Block.opening (List.intercalate ", " selectors) ≠ Block.closing := by
    intro hclosing
    rw [hclosing] at hlast
    cases hlast
  have hcontent : ∀ l ∈ body.filter (· ≠ []), l.any Block.isBrace = false := fun l hl =>
    (hbody l (List.mem_filter.mp hl).1).2
  rw [Block.lines, List.cons_append, List.flatMap_cons, hopening, List.flatMap_append,
    flatMap_contentLines fun l hl => (hbody l hl).1, List.singleton_append, List.cons_append,
    readLines, if_neg hclosing, hheader, List.append_assoc, readLines_append_of_no_brace hcontent,
    ← hlisted]
  refine Prod.ext rfl (congrArg₂ List.cons ?_ rfl)
  exact congrArg (Rule.mk _) (List.append_nil _)

section Last

variable {α β : Type}

theorem lastOf_filterMap {γ : Type} (f : β → Option γ) (g : α → Option β) (as : List α) :
    lastOf f (as.filterMap g) = lastOf (fun a => (g a).bind f) as := by
  rw [lastOf, lastOf, ← List.filterMap_reverse]
  induction as.reverse with
  | nil => rfl
  | cons a as ih =>
    rw [List.filterMap_cons, List.findSome?_cons]
    cases g a with
    | none => exact ih
    | some b => rw [List.findSome?_cons, ih]; rfl

/-- **The last value below a bound is one that no other follows.** -/
theorem lastOf_range_eq_some_iff {f : Nat → Option β} {n : Nat} {b : β} :
    lastOf f (List.range n) = some b ↔
      ∃ i < n, f i = some b ∧ ∀ k, i < k → k < n → f k = none := by
  induction n with
  | zero => exact iff_of_false (fun h => nomatch h) fun ⟨i, hi, _⟩ => nomatch hi
  | succ n ih =>
    rw [lastOf, List.range_succ, List.reverse_append, List.reverse_singleton,
      List.singleton_append, List.findSome?_cons]
    cases hn : f n with
    | some c =>
      refine ⟨fun h => ⟨n, Nat.lt_succ_self n, hn.trans h, fun k hk hkn => ?_⟩, ?_⟩
      · omega
      · rintro ⟨i, hi, hb, hlast⟩
        rcases Nat.lt_succ_iff_lt_or_eq.mp hi with hlt | rfl
        · rw [hlast n hlt (Nat.lt_succ_self n)] at hn
          cases hn
        · exact hn.symm.trans hb
    | none =>
      refine ih.trans ⟨?_, ?_⟩
      · rintro ⟨i, hi, hb, hlast⟩
        refine ⟨i, Nat.lt_succ_of_lt hi, hb, fun k hk hkn => ?_⟩
        rcases Nat.lt_succ_iff_lt_or_eq.mp hkn with hlt | rfl
        · exact hlast k hk hlt
        · exact hn
      · rintro ⟨i, hi, hb, hlast⟩
        rcases Nat.lt_succ_iff_lt_or_eq.mp hi with hlt | rfl
        · exact ⟨i, hlt, hb, fun k hk hkn => hlast k hk (Nat.lt_succ_of_lt hkn)⟩
        · rw [hn] at hb
          cases hb

end Last

/-! ## Values in an order -/

/-- Whether the rule at a position gives a value and no rule that gives one comes later in an
order. -/
def LastBy (order : Nat → Nat) (values : Nat → Option Text) (i : Nat) (v : Text) : Prop :=
  values i = some v ∧ ∀ k w, values k = some w → order k ≤ order i

/-- Whether the values of rules are found at their positions in an order. -/
structure Found (order : Nat → Nat) (values found : Nat → Option Text) (n : Nat) : Prop where
  eq_some_iff : ∀ i v, found i = some v ↔ ∃ j, values j = some v ∧ order j = i
  lt : ∀ i v, found i = some v → i < n

namespace Found

variable {order : Nat → Nat} {values found : Nat → Option Text} {n : Nat}

theorem lastOf_eq_some_iff (h : Found order values found n) {v : Text} :
    lastOf found (List.range n) = some v ↔ ∃ i, LastBy order values i v := by
  rw [lastOf_range_eq_some_iff]
  constructor
  · rintro ⟨i, _, hv, hlast⟩
    obtain ⟨j, hj, rfl⟩ := (h.eq_some_iff i v).mp hv
    refine ⟨j, hj, fun k w hk => Nat.not_lt.mp fun hlt => ?_⟩
    have hw : found (order k) = some w := (h.eq_some_iff _ w).mpr ⟨k, hk, rfl⟩
    rw [hlast _ hlt (h.lt _ w hw)] at hw
    cases hw
  · rintro ⟨j, hj, hlast⟩
    have hv : found (order j) = some v := (h.eq_some_iff _ v).mpr ⟨j, hj, rfl⟩
    refine ⟨order j, h.lt _ v hv, hv, fun k hk _ => ?_⟩
    refine Option.eq_none_iff_forall_ne_some.mpr fun w hw => ?_
    obtain ⟨l, hl, rfl⟩ := (h.eq_some_iff k w).mp hw
    exact Nat.not_lt.mpr (hlast l w hl) hk

theorem lastOf_eq_none_iff (h : Found order values found n) :
    lastOf found (List.range n) = none ↔ ∀ i, values i = none := by
  rw [lastOf, List.findSome?_eq_none_iff]
  constructor
  · refine fun hnone i => Option.eq_none_iff_forall_ne_some.mpr fun v hv => ?_
    have hw : found (order i) = some v := (h.eq_some_iff _ v).mpr ⟨i, hv, rfl⟩
    rw [hnone _ (List.mem_reverse.mpr (List.mem_range.mpr (h.lt _ v hw)))] at hw
    cases hw
  · refine fun hnone i _ => Option.eq_none_iff_forall_ne_some.mpr fun v hv => ?_
    obtain ⟨j, hj, _⟩ := (h.eq_some_iff i v).mp hv
    rw [hnone j] at hj
    cases hj

end Found

end ThemedCss.Sheet
