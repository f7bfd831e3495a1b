import ThemedCss.Proofs.Sheet.Flat

/-!
# What merging does to the cascade

A merged rule takes the place of the first rule with its body, so that it no longer overrides what
stands between the two. Which value a property has depends on the rule that comes last; after
merging that is the one whose place comes last.

* `place`: where a rule stands after merging;
* `leftAt`, `rules_merge_writeFlat`: the rules that merging leaves;
* `valueAt`: the value that the rule at a position gives;
* **`value?_merge_writeFlat`**: the values after merging, and when they are those before;
* `merging_reorders_cascade`: a rule that is overridden in the end.
-/

namespace ThemedCss.Sheet

/-- Where a rule stands after merging: a merged one at the first rule with its body. -/
def place (rs : List FlatRule) (i : Nat) : Nat :=
  match rs[i]? with
  | none => i
  | some r =>
    if r.Mergeable ∧ Shared rs r.declarations then
      rs.findIdx fun q => q.Bears r.declarations
    else i

/-! ## The rules after merging -/

/-- The rule that merging leaves at a position, among all the pieces. -/
def leftAt (all : List Piece) (rs : List FlatRule) (i : Nat) : Option Rule :=
  rs[i]?.bind fun r =>
    if r.Mergeable ∧ Shared rs r.declarations then
      if place rs i = i then some ⟨sharing r.declarations all, r.rule.body⟩ else none
    else some r.rule

section LeftAt

variable {all : List Piece} {rs : List FlatRule} {i : Nat} {r : FlatRule}

theorem leftAt_of_shared (hi : rs[i]? = some r) (h : r.Mergeable ∧ Shared rs r.declarations) :
    leftAt all rs i =
      if place rs i = i then some ⟨sharing r.declarations all, r.rule.body⟩ else none := by
  rw [leftAt, hi, Option.bind_some, if_pos h]

theorem leftAt_of_not_shared (hi : rs[i]? = some r)
    (h : ¬ (r.Mergeable ∧ Shared rs r.declarations)) : leftAt all rs i = some r.rule := by
  rw [leftAt, hi, Option.bind_some, if_neg h]

theorem place_of_shared (hi : rs[i]? = some r) (h : r.Mergeable ∧ Shared rs r.declarations) :
    place rs i = rs.findIdx fun q => q.Bears r.declarations := by
  rw [place, hi]
  exact if_pos h

theorem place_of_not_shared (hi : rs[i]? = some r)
    (h : ¬ (r.Mergeable ∧ Shared rs r.declarations)) : place rs i = i := by
  rw [place, hi]
  exact if_neg h

end LeftAt

namespace FlatRule

variable (r : FlatRule)

theorem rule_eq : (Piece.rule r.selector r.declarations).body? = some r.declarations :=
  if_neg r.comma_not_mem

theorem linesOf_of_isShared {all : List Piece} {merged : List (List Text)}
    (h : isShared r.declarations all = true) :
    linesOf all merged (.rule r.selector r.declarations) =
      if r.declarations ∈ merged then [[]]
      else Block.lines (List.intercalate ", " (sharing r.declarations all)) r.declarations := by
  refine if_neg ?_
  rw [r.rule_eq, h]
  exact not_or_intro (Option.some_ne_none _) Bool.false_ne_true

theorem linesOf_of_not_isShared {all : List Piece} {merged : List (List Text)}
    (h : isShared r.declarations all = false) :
    linesOf all merged (.rule r.selector r.declarations) = r.lines :=
  if_pos (.inr (congrArg not h))

theorem mergedLines_pieces_append (all : List Piece) (merged : List (List Text)) (ps : List Piece) :
    mergedLines all merged (r.pieces ++ ps) =
      (if r.Mergeable then linesOf all merged (.rule r.selector r.declarations) else r.lines) ++
        mergedLines all ((if r.Mergeable then [r.declarations] else []) ++ merged) ps := by
  rw [pieces]
  split
  · rw [List.singleton_append, mergedLines, r.rule_eq]
    rfl
  · exact mergedLines_map_line all merged r.lines ps

theorem readLines_lines (ls : List Text) :
    readLines (r.lines.flatMap Text.contentLines ++ ls) = ([], r.rule :: (readLines ls).2) := by
  have h := @readLines_block [r.selector] r.declarations (List.cons_ne_nil _ _)
    (List.forall_mem_singleton.mpr ⟨r.comma_not_mem, r.strip_selector⟩)
    (List.forall_mem_singleton.mpr r.feed_not_mem_selector)
    (fun d hd => ⟨r.feed_not_mem d hd, r.no_brace d hd⟩) ls
  rwa [List.intercalate_singleton] at h

end FlatRule

section Place

variable {done rest : List FlatRule} {r : FlatRule}

theorem getElem?_append_cons : (done ++ r :: rest)[done.length]? = some r := by
  rw [List.getElem?_append_right (Nat.le_refl _), Nat.sub_self]
  rfl

theorem place_eq_self_iff (hm : r.Mergeable) (hs : Shared (done ++ r :: rest) r.declarations) :
    place (done ++ r :: rest) done.length = done.length ↔ ∀ q ∈ done, ¬ q.Bears r.declarations := by
  rw [place_of_shared getElem?_append_cons ⟨hm, hs⟩, List.findIdx_append]
  split
  · rename_i hlt
    obtain ⟨q, hq, hb⟩ := List.findIdx_lt_length.mp hlt
    exact iff_of_false (Nat.ne_of_lt hlt) fun h => h q hq (of_decide_eq_true hb)
  · rename_i hle
    have hr : decide (r.Bears r.declarations) = true := decide_eq_true ⟨hm, rfl⟩
    rw [List.findIdx_cons, hr, cond_true, Nat.zero_add]
    exact iff_of_true rfl fun q hq hb => hle (List.findIdx_lt_length.mpr ⟨q, hq, decide_eq_true hb⟩)

end Place

namespace Spread

variable {rs done rest : List FlatRule} {ls ls' : List Text}

theorem readLines_eq (h : Spread rs ls) :
    readLines (ls.flatMap Text.contentLines) = ([], rs.map FlatRule.rule) := by
  induction h with
  | nil => rfl
  | blank _ ih => exact ih
  | rule r _ ih => rw [List.flatMap_append, r.readLines_lines, ih, List.map_cons]

theorem readLines_left {r : FlatRule} (h : Spread (done ++ r :: rest) ls)
    {merged : List (List Text)} (hmerged : ∀ body, body ∈ merged ↔ ∃ q ∈ done, q.Bears body)
    {ms : List Text} (hms : (readLines ms).1 = []) :
    readLines ((if r.Mergeable then linesOf (pieces ls) merged (.rule r.selector r.declarations)
        else r.lines).flatMap Text.contentLines ++ ms) =
      ([], (leftAt (pieces ls) (done ++ r :: rest) done.length).toList ++ (readLines ms).2) := by
  have hi : (done ++ r :: rest)[done.length]? = some r := getElem?_append_cons
  by_cases hm : r.Mergeable
  · rw [if_pos hm]
    by_cases hs : Shared (done ++ r :: rest) r.declarations
    · rw [r.linesOf_of_isShared (h.isShared_pieces.mpr hs), leftAt_of_shared hi ⟨hm, hs⟩]
      by_cases hmem : r.declarations ∈ merged
      · have hplace : place (done ++ r :: rest) done.length ≠ done.length := fun hplace => by
          obtain ⟨q, hq, hb⟩ := (hmerged _).mp hmem
          exact (place_eq_self_iff hm hs).mp hplace q hq hb
        rw [if_pos hmem, if_neg hplace]
        exact Prod.ext hms rfl
      · have hplace : place (done ++ r :: rest) done.length = done.length :=
          (place_eq_self_iff hm hs).mpr fun q hq hb => hmem ((hmerged _).mpr ⟨q, hq, hb⟩)
        rw [if_neg hmem, if_pos hplace]
        refine readLines_block ?_ ?_ ?_ (fun d hd => ⟨r.feed_not_mem d hd, r.no_brace d hd⟩) ms
        · exact List.ne_nil_of_mem (h.mem_sharing_pieces.mpr ⟨r, by simp, ⟨hm, rfl⟩, rfl⟩)
        · intro s hs
          obtain ⟨q, _, _, rfl⟩ := h.mem_sharing_pieces.mp hs
          exact ⟨q.comma_not_mem, q.strip_selector⟩
        · intro s hs
          obtain ⟨q, _, _, rfl⟩ := h.mem_sharing_pieces.mp hs
          exact q.feed_not_mem_selector
    · have hshared : isShared r.declarations (pieces ls) = false :=
        Bool.eq_false_iff.mpr fun h' => hs (h.isShared_pieces.mp h')
      rw [r.linesOf_of_not_isShared hshared, leftAt_of_not_shared hi fun h' => hs h'.2]
      exact r.readLines_lines ms
  · rw [if_neg hm, leftAt_of_not_shared hi fun h' => hm h'.1]
    exact r.readLines_lines ms

/-- **The rules of merged lines are those that merging leaves**, from any position on. -/
theorem readLines_mergedLines (h : Spread (done ++ rest) ls) (h' : Spread rest ls')
    {merged : List (List Text)}
    (hmerged : ∀ body, body ∈ merged ↔ ∃ q ∈ done, q.Bears body) :
    readLines ((mergedLines (pieces ls) merged (pieces ls')).flatMap Text.contentLines) =
      ([], (List.range' done.length rest.length).filterMap
        (leftAt (pieces ls) (done ++ rest))) := by
  induction h' generalizing done merged with
  | nil =>
    rw [pieces]
    rfl
  | blank _ ih =>
    rw [pieces_of_rule?_eq_none (rule?_eq_none_of_not_mem List.not_mem_nil _), mergedLines]
    exact ih h hmerged
  | @rule r rest ls' _ ih =>
    have hnext := @ih (done ++ [r]) (by rwa [List.append_assoc])
      ((if r.Mergeable then [r.declarations] else []) ++ merged) fun body => ?_
    · have hms := congrArg Prod.fst hnext
      rw [r.pieces_lines_append, r.mergedLines_pieces_append, List.flatMap_append,
        h.readLines_left hmerged hms, hnext, List.length_cons, List.range'_succ,
        List.filterMap_cons, List.append_assoc, List.length_append]
      cases leftAt (pieces ls) (done ++ r :: rest) done.length with
      | none => rfl
      | some left => rfl
    · have hr : body ∈ (if r.Mergeable then [r.declarations] else []) ↔ r.Bears body := by
        rw [FlatRule.Bears]
        split
        · rename_i hm
          rw [List.mem_singleton]
          exact ⟨fun hb => ⟨hm, hb.symm⟩, fun hb => hb.2.symm⟩
        · rename_i hm
          exact iff_of_false List.not_mem_nil fun hb => hm hb.1
      rw [List.mem_append, hr, hmerged]
      simp [or_comm, or_and_right, exists_or]

end Spread

/-! ## Before and after merging -/

theorem contentLines_eq_flatMap (css : Text) :
    Text.contentLines css = (Text.lines css).flatMap Text.contentLines := by
  rw [← Text.contentLines_unlines, Text.unlines_lines]

theorem contentLines_merge (css : Text) :
    Text.contentLines (merge css) =
      (mergedLines (pieces (Text.lines css)) [] (pieces (Text.lines css))).flatMap
        Text.contentLines := by
  refine Eq.trans ?_ ((Text.contentLines_collapse _).trans (Text.contentLines_unlines _))
  rw [merge]
  split
  · exact Text.contentLines_dropLastFeeds _
  · rfl

section Written

variable (rs : List FlatRule) (feeds : Nat)

theorem rules_writeFlat : rules (writeFlat rs feeds) = rs.map FlatRule.rule := by
  rw [rules, contentLines_eq_flatMap, (spread_writeFlat rs feeds).readLines_eq]

/-- **The rules of a merged style sheet** are those that merging leaves at the positions. -/
theorem rules_merge_writeFlat :
    rules (merge (writeFlat rs feeds)) =
      (List.range rs.length).filterMap (leftAt (pieces (Text.lines (writeFlat rs feeds))) rs) := by
  have h := spread_writeFlat rs feeds
  have hread := @Spread.readLines_mergedLines [] rs _ _ h h []
    fun body => iff_of_false List.not_mem_nil fun ⟨q, hq, _⟩ => List.not_mem_nil hq
  rw [rules, contentLines_merge, hread, List.range_eq_range']
  rfl

end Written

/-! ## Places and values -/

/-- The value that the rule at a position gives a property of a selector. -/
def valueAt (rs : List FlatRule) (selector property : Text) (i : Nat) : Option Text :=
  (rs[i]?.map FlatRule.rule).bind (Rule.value? selector property)

section Values

variable {rs : List FlatRule} {i j : Nat} {selector property v : Text}

theorem valueAt_eq_some_iff : valueAt rs selector property i = some v ↔
    ∃ r, rs[i]? = some r ∧ r.selector = selector ∧ valueIn r.rule.body property = some v := by
  rw [valueAt, Option.bind_eq_some_iff]
  constructor
  · rintro ⟨rule, hrule, hv⟩
    obtain ⟨r, hr, rfl⟩ := Option.map_eq_some_iff.mp hrule
    obtain ⟨hs, hv⟩ := Rule.value?_eq_some_iff.mp hv
    exact ⟨r, hr, (List.mem_singleton.mp hs).symm, hv⟩
  · rintro ⟨r, hr, hs, hv⟩
    exact ⟨r.rule, Option.map_eq_some_iff.mpr ⟨r, hr, rfl⟩,
      Rule.value?_eq_some_iff.mpr ⟨List.mem_singleton.mpr hs.symm, hv⟩⟩

theorem shared_findIdx {body : List Text} (h : Shared rs body) :
    ∃ q, rs[rs.findIdx fun q => q.Bears body]? = some q ∧ q.Bears body := by
  obtain ⟨q, hq, _, _, hb, _⟩ := h
  have hlt : (rs.findIdx fun q => q.Bears body) < rs.length :=
    List.findIdx_lt_length.mpr ⟨q, hq, decide_eq_true hb⟩
  exact ⟨_, List.getElem?_eq_getElem hlt, of_decide_eq_true (List.findIdx_getElem (w := hlt))⟩

/-- A rule stands after merging at a rule with its body. -/
theorem declarations_place {r : FlatRule} (hi : rs[i]? = some r) :
    ∃ q, rs[place rs i]? = some q ∧ q.declarations = r.declarations := by
  by_cases h : r.Mergeable ∧ Shared rs r.declarations
  · obtain ⟨q, hq, hb⟩ := shared_findIdx h.2
    exact ⟨q, by rw [place_of_shared hi h, hq], hb.2⟩
  · exact ⟨r, by rw [place_of_not_shared hi h, hi], rfl⟩

theorem place_le (rs : List FlatRule) (i : Nat) : place rs i ≤ i := by
  cases hi : rs[i]? with
  | none =>
    rw [place, hi]
  | some r =>
    by_cases h : r.Mergeable ∧ Shared rs r.declarations
    · obtain ⟨hlt, hr⟩ := List.getElem?_eq_some_iff.mp hi
      rw [place_of_shared hi h]
      refine Nat.not_lt.mp fun hfind => ?_
      have hb := List.not_of_lt_findIdx hfind
      rw [hr] at hb
      exact of_decide_eq_false hb ⟨h.1, rfl⟩
    · exact Nat.le_of_eq (place_of_not_shared hi h)

/-- **The values after merging** are those of the rules with their places. -/
theorem Spread.value?_leftAt_eq_some_iff {ls : List Text} (h : Spread rs ls) :
    (leftAt (pieces ls) rs i).bind (Rule.value? selector property) = some v ↔
      ∃ j, valueAt rs selector property j = some v ∧ place rs j = i := by
  constructor
  · intro hv
    obtain ⟨rule, hrule, hv⟩ := Option.bind_eq_some_iff.mp hv
    obtain ⟨hmem, hvalue⟩ := Rule.value?_eq_some_iff.mp hv
    cases hi : rs[i]? with
    | none =>
      rw [leftAt, hi] at hrule
      cases hrule
    | some r =>
      by_cases hr : r.Mergeable ∧ Shared rs r.declarations
      · rw [leftAt_of_shared hi hr, Option.ite_none_right_eq_some] at hrule
        obtain ⟨hplace, hrule⟩ := hrule
        cases hrule
        obtain ⟨q, hq, hb, hs⟩ := h.mem_sharing_pieces.mp hmem
        obtain ⟨j, hj⟩ := List.getElem?_of_mem hq
        have hbody : q.rule.body = r.rule.body := congrArg (List.filter _) hb.2
        refine ⟨j, valueAt_eq_some_iff.mpr ⟨q, hj, hs, hbody ▸ hvalue⟩, ?_⟩
        rw [← hplace, place_of_shared hi hr, ← hb.2,
          place_of_shared hj ⟨hb.1, hb.2.symm ▸ hr.2⟩]
      · rw [leftAt_of_not_shared hi hr] at hrule
        cases hrule
        exact ⟨i, valueAt_eq_some_iff.mpr ⟨r, hi, (List.mem_singleton.mp hmem).symm, hvalue⟩,
          place_of_not_shared hi hr⟩
  · rintro ⟨j, hj, rfl⟩
    obtain ⟨q, hq, hs, hvalue⟩ := valueAt_eq_some_iff.mp hj
    by_cases hshared : q.Mergeable ∧ Shared rs q.declarations
    · obtain ⟨r, hr, hb⟩ := shared_findIdx hshared.2
      rw [← place_of_shared hq hshared] at hr
      have hrshared : r.Mergeable ∧ Shared rs r.declarations := ⟨hb.1, hb.2.symm ▸ hshared.2⟩
      have hplace : place rs (place rs j) = place rs j := by
        rw [place_of_shared hr hrshared, hb.2, place_of_shared hq hshared]
      have hbody : r.rule.body = q.rule.body := congrArg (List.filter _) hb.2
      rw [leftAt_of_shared hr hrshared, if_pos hplace, Option.bind_some]
      refine Rule.value?_eq_some_iff.mpr ⟨?_, hbody ▸ hvalue⟩
      exact h.mem_sharing_pieces.mpr
        ⟨q, List.mem_of_getElem? hq, ⟨hshared.1, hb.2.symm⟩, hs⟩
    · rw [place_of_not_shared hq hshared, leftAt_of_not_shared hq hshared, Option.bind_some]
      exact Rule.value?_eq_some_iff.mpr ⟨List.mem_singleton.mpr hs.symm, hvalue⟩

theorem lt_of_valueAt (h : valueAt rs selector property i = some v) : i < rs.length := by
  obtain ⟨r, hr, _⟩ := valueAt_eq_some_iff.mp h
  exact (List.getElem?_eq_some_iff.mp hr).1

theorem valueAt_eq_of_place_eq {w : Text} (hi : valueAt rs selector property i = some v)
    (hj : valueAt rs selector property j = some w) (h : place rs i = place rs j) : v = w := by
  obtain ⟨q, hq, _, hv⟩ := valueAt_eq_some_iff.mp hi
  obtain ⟨r, hr, _, hw⟩ := valueAt_eq_some_iff.mp hj
  obtain ⟨q', hq', hqd⟩ := declarations_place hq
  obtain ⟨r', hr', hrd⟩ := declarations_place hr
  rw [h, hr'] at hq'
  cases hq'
  have hbody : q.rule.body = r.rule.body := congrArg (List.filter _) (hqd.symm.trans hrd)
  rw [hbody, hw] at hv
  exact (Option.some.inj hv).symm

theorem filterMap_range_getElem? {α : Type} (as : List α) :
    (List.range as.length).filterMap (as[·]?) = as := by
  induction as with
  | nil => rfl
  | cons a as ih =>
    rw [List.length_cons, List.range_succ_eq_map, List.filterMap_cons, List.filterMap_map]
    exact congrArg (a :: ·) ih

theorem found_writeFlat (rs : List FlatRule) (feeds : Nat) (selector property : Text) :
    ∃ found, Found id (valueAt rs selector property) found rs.length ∧
      value? (writeFlat rs feeds) selector property = lastOf found (List.range rs.length) := by
  refine ⟨valueAt rs selector property, ⟨fun i v => ?_, fun i v => lt_of_valueAt⟩, ?_⟩
  · refine ⟨fun hv => ⟨i, hv, rfl⟩, ?_⟩
    rintro ⟨j, hj, rfl⟩
    exact hj
  · have hrange : rs.map FlatRule.rule =
        (List.range rs.length).filterMap fun i => rs[i]?.map FlatRule.rule := by
      conv => lhs; rw [← filterMap_range_getElem? rs, List.map_filterMap]
    rw [value?, rules_writeFlat, hrange, lastOf_filterMap]
    rfl

theorem found_merge_writeFlat (rs : List FlatRule) (feeds : Nat) (selector property : Text) :
    ∃ found, Found (place rs) (valueAt rs selector property) found rs.length ∧
      value? (merge (writeFlat rs feeds)) selector property =
        lastOf found (List.range rs.length) := by
  have h := spread_writeFlat rs feeds
  refine ⟨_, ⟨fun i v => h.value?_leftAt_eq_some_iff, fun i v hv => ?_⟩, ?_⟩
  · obtain ⟨j, hj, rfl⟩ := h.value?_leftAt_eq_some_iff.mp hv
    exact Nat.lt_of_le_of_lt (place_le rs j) (lt_of_valueAt hj)
  · rw [value?, rules_merge_writeFlat, lastOf_filterMap]

end Values

/-- **After merging a property has the value of the rule whose place comes last.** It has a value
exactly when it had one, the same one exactly when the last rule and the one with the last place
agree, and so whenever no rule overtakes one that gives it another value. -/
theorem value?_merge_writeFlat (rs : List FlatRule) (feeds : Nat) (selector property : Text) :
    ((value? (merge (writeFlat rs feeds)) selector property).isSome =
      (value? (writeFlat rs feeds) selector property).isSome) ∧
    (value? (merge (writeFlat rs feeds)) selector property =
        value? (writeFlat rs feeds) selector property ↔
      ∀ i j v w, LastBy id (valueAt rs selector property) i v →
        LastBy (place rs) (valueAt rs selector property) j w → v = w) ∧
    ((∀ i k v w, valueAt rs selector property i = some v →
        valueAt rs selector property k = some w → place rs i < k → k < i → v = w) →
      value? (merge (writeFlat rs feeds)) selector property =
        value? (writeFlat rs feeds) selector property) := by
  obtain ⟨before, hbefore, heq⟩ := found_writeFlat rs feeds selector property
  obtain ⟨after, hafter, heq'⟩ := found_merge_writeFlat rs feeds selector property
  rw [heq, heq']
  have hnone : lastOf after (List.range rs.length) = none ↔
      lastOf before (List.range rs.length) = none :=
    hafter.lastOf_eq_none_iff.trans hbefore.lastOf_eq_none_iff.symm
  have hiff : lastOf after (List.range rs.length) = lastOf before (List.range rs.length) ↔
      ∀ i j v w, LastBy id (valueAt rs selector property) i v →
        LastBy (place rs) (valueAt rs selector property) j w → v = w := by
    constructor
    · intro h i j v w hi hj
      have hv := hbefore.lastOf_eq_some_iff.mpr ⟨i, hi⟩
      rw [← h, hafter.lastOf_eq_some_iff.mpr ⟨j, hj⟩] at hv
      exact (Option.some.inj hv).symm
    · intro h
      cases hv : lastOf before (List.range rs.length) with
      | none => exact hnone.mpr hv
      | some v =>
        have hsome : lastOf after (List.range rs.length) ≠ none := fun hn =>
          nomatch hv.symm.trans (hnone.mp hn)
        obtain ⟨w, hw⟩ := Option.ne_none_iff_exists'.mp hsome
        obtain ⟨i, hi⟩ := hbefore.lastOf_eq_some_iff.mp hv
        obtain ⟨j, hj⟩ := hafter.lastOf_eq_some_iff.mp hw
        rw [hw, h i j v w hi hj]
  refine ⟨?_, hiff, fun h => hiff.mpr fun i j v w hi hj => ?_⟩
  · rw [Bool.eq_iff_iff, Option.isSome_iff_ne_none, Option.isSome_iff_ne_none]
    exact not_congr hnone
  -- the rule with the last place comes no later than the last rule, and its place no earlier
  have hji : j ≤ i := hi.2 j w hj.1
  have hplace : place rs i ≤ place rs j := hj.2 i v hi.1
  rcases Nat.eq_or_lt_of_le hplace with heq | hlt
  · exact valueAt_eq_of_place_eq hi.1 hj.1 heq
  · rcases Nat.eq_or_lt_of_le hji with rfl | hji
    · exact absurd hlt (Nat.lt_irrefl _)
    · exact h i j v w hi.1 hj.1 (Nat.lt_of_lt_of_le hlt (place_le rs j)) hji

/-- A rule that overrides another one, and has the body of a third one in front of both. -/
def overriding : List FlatRule :=
  [⟨"a", ["  x: 1;"], by decide, by decide, by decide, by decide, by decide⟩,
    ⟨"b", ["  x: 2;"], by decide, by decide, by decide, by decide, by decide⟩,
    ⟨"b", ["  x: 1;"], by decide, by decide, by decide, by decide, by decide⟩]

/-- **Merging does not keep the value of every property**: the last rule moves in front of the one
that it overrides. Nor does it keep a selector on two lines, whose first line is left behind. -/
theorem merging_reorders_cascade :
    (¬ ∀ (rs : List FlatRule) (feeds : Nat) (selector property : Text),
      value? (merge (writeFlat rs feeds)) selector property =
        value? (writeFlat rs feeds) selector property) ∧
    merge "c \x7b\n  x: 1;\n\x7d\n\na\nb \x7b\n  x: 1;\n\x7d\n" =
      "c, b \x7b\n  x: 1;\n\x7d\n\na\n" := by
  refine ⟨fun h => ?_, by decide +kernel⟩
  have hsame := h overriding 1 "b" "x"
  exact absurd hsame (by decide +kernel)

end ThemedCss.Sheet
