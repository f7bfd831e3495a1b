import Mathlib.Data.List.Basic
import ThemedCss.Proofs.Selector.Parts

/-!
# Nested keys

The selector of a nested key is meant to be the key below each part of its parent. It is that where
the parent is a list of two parts or more, or ends with its only part; and a key that is a list stands
for itself where the parent is none.

* `IsTail`, `exists_join_eq_append`: what a key puts behind the selectors that it is joined with;
* `split_intercalate_join`, `split_join_eq_map_iff`: a key below the parts of a text, and below the
  text as it is;
* `nest_eq_intercalate_combined`: a key and the only selector of a marker;
* **`split_nest_eq_map_iff`**: when the selectors of a nested key are those below each part of the
  parent.
-/

namespace ThemedCss.Selector

variable {a g key p parent t : Text}

/-! ## What a key puts behind a selector -/

theorem create_eq_join (hat : key.head? ≠ some '@') (hkey : isList key = false) (parent : Text) :
    create key parent = join key parent := by
  unfold create
  simp [hat, hkey]

/-- A text to put behind selectors: not empty, without a comma outside brackets and without a blank at
its end. -/
structure IsTail (g : Text) : Prop where
  ne_nil : g ≠ []
  pieces_eq : pieces 0 g = [g]
  last : ∀ c ∈ g.getLast?, Text.isBlank c = false

theorem exists_join_eq_append (hk : IsPart key) (hamp : key.head? ≠ some '&') :
    ∃ g, IsTail g ∧ ∀ p, p ≠ [] → join key p = p ++ g := by
  have hlast := (Text.strip_eq_self_iff.mp hk.strip_eq).2
  obtain ⟨c, rest, rfl⟩ := List.exists_cons_of_ne_nil hk.ne_nil
  have hc : c ≠ '&' := fun h => hamp (congrArg some h)
  by_cases hattach : attaches c = true
  · refine ⟨c :: rest, ⟨List.cons_ne_nil _ _, hk.pieces_eq, hlast⟩, fun p _ => ?_⟩
    simp [join, hattach]
  · refine ⟨' ' :: c :: rest, ⟨List.cons_ne_nil _ _, ?_, ?_⟩, fun p hp => ?_⟩
    · rw [pieces_cons_blank, hk.pieces_eq]
      rfl
    · rwa [List.getLast?_cons_cons]
    · simp [join, hattach, hp]

namespace IsTail

theorem pieces_append (h : IsTail g) (ht : pieces 0 t = [t]) : pieces 0 (t ++ g) = [t ++ g] :=
  pieces_append_eq_singleton_iff.mpr ⟨ht, pieces_eq_singleton_of_le (Nat.zero_le _) h.pieces_eq⟩

theorem strip_ne_nil (h : IsTail g) (t : Text) : Text.strip (t ++ g) ≠ [] := by
  obtain ⟨c, hc⟩ := Option.ne_none_iff_exists'.mp (mt List.getLast?_eq_none_iff.mp h.ne_nil)
  exact Text.strip_ne_nil_iff.mpr
    ⟨c, List.mem_append_right t (List.mem_of_getLast? hc), h.last c hc⟩

theorem strip_append (h : IsTail g) (hp : Text.strip p = p) (hne : p ≠ []) (y : Text) :
    Text.strip (p ++ (y ++ g)) = p ++ (y ++ g) := by
  refine Text.strip_eq_self_iff.mpr ⟨?_, ?_⟩
  · obtain ⟨c, r, rfl⟩ := List.exists_cons_of_ne_nil hne
    exact (Text.strip_eq_self_iff.mp hp).1
  · rw [← List.append_assoc, List.getLast?_append_of_ne_nil (p ++ y) h.ne_nil]
    exact h.last

theorem isOpenPart_append (h : IsTail g) (hp : IsOpenPart p) : IsOpenPart (p ++ g) :=
  ⟨List.append_ne_nil_of_left_ne_nil hp.ne_nil g, h.strip_append hp.strip_eq hp.ne_nil [],
    h.pieces_append hp.pieces_eq⟩

theorem split_append (h : IsTail g) (ha : IsHead a) (ht : pieces 0 t = [t]) :
    split (a ++ t ++ g) = split a ++ [Text.strip (t ++ g)] := by
  rw [List.append_assoc, ha.split_append, split_of_pieces (h.pieces_append ht),
    if_neg (h.strip_ne_nil t)]

end IsTail

/-! ## Keys below any text -/

/-- **A key below the parts of a text**, one by one and joined again: these are the parts. -/
theorem split_intercalate_join (hk : IsPart key) (hamp : key.head? ≠ some '&') (parent : Text) :
    split (List.intercalate ", " ((split parent).map (join key))) =
      (split parent).map (join key) := by
  obtain ⟨hparts, hclosed⟩ := isOpenPart_of_mem_split parent
  obtain ⟨g, hg, hjoin⟩ := exists_join_eq_append hk hamp
  rw [split_intercalate_of_dropLast, flatMap_split]
  · intro q hq
    obtain ⟨p, hp, rfl⟩ := List.mem_map.mp hq
    rw [hjoin p (hparts p hp).ne_nil]
    exact hg.isOpenPart_append (hparts p hp)
  · intro q hq
    rw [← List.map_dropLast] at hq
    obtain ⟨p, hp, rfl⟩ := List.mem_map.mp hq
    exact (hk.isSound.join (hclosed p hp)).closed

/-- **A key below a text as it is**, when that is no list: what comes out is the key below the only
part of the text exactly when the text ends with this part. Otherwise blanks or a comma stand between
the two. -/
theorem split_join_eq_map_iff (hk : IsPart key) (hamp : key.head? ≠ some '&') (hne : parent ≠ [])
    (hlist : isList parent = false) :
    split (join key parent) = (split parent).map (join key) ↔
      ∃ p, split parent = [p] ∧ p <:+ parent := by
  obtain ⟨g, hg, hjoin⟩ := exists_join_eq_append hk hamp
  have hmap : (split parent).map (join key) = (split parent).map (· ++ g) :=
    List.map_congr_left fun q hq => hjoin q ((isOpenPart_of_mem_split parent).1 q hq).ne_nil
  obtain ⟨a, t, rfl, ha, ht⟩ := exists_head parent
  rw [hmap, hjoin _ hne, hg.split_append ha ht, ha.split_append, split_of_pieces ht]
  by_cases hstrip : Text.strip t = []
  · -- nothing follows the last comma, so the key becomes a part of its own
    rw [if_pos hstrip, List.append_nil]
    refine iff_of_false (fun h => ?_) ?_
    · have hlength := congrArg List.length h
      simp at hlength
    · rintro ⟨p, hp, hsuffix⟩
      exact ha.not_suffix hne hstrip (hp ▸ List.mem_singleton_self p) hsuffix
  · -- the only part stands behind the last comma, and perhaps blanks behind it
    have hnil : split a = [] := by
      have hlength := of_decide_eq_false hlist
      rw [ha.split_append, split_of_pieces ht, if_neg hstrip] at hlength
      exact List.length_eq_zero_iff.mp (by simpa using hlength)
    obtain ⟨x, y, hxy, hx, hy⟩ := Text.exists_eq_append_strip t
    have hput : Text.strip (t ++ g) = Text.strip t ++ (y ++ g) := by
      conv_lhs => rw [hxy, List.append_assoc, List.append_assoc, Text.strip_append_of_blank hx]
      exact hg.strip_append (Text.strip_strip t) hstrip y
    have hat : a ++ t = a ++ x ++ Text.strip t ++ y := by
      conv_lhs => rw [hxy]
      simp
    have hy_iff : [Text.strip t ++ (y ++ g)] = [Text.strip t ++ g] ↔ y = [] := by simp
    rw [if_neg hstrip, hnil, hput, hat]
    refine hy_iff.trans ⟨fun hynil => ⟨Text.strip t, rfl, a ++ x, by rw [hynil, List.append_nil]⟩, ?_⟩
    rintro ⟨p, hp, hsuffix⟩
    obtain rfl := List.singleton_inj.mp hp
    exact eq_nil_of_suffix hstrip (Text.strip_strip t) hy hsuffix

theorem nest_of_isList (hat : key.head? ≠ some '@') (hamp : key.head? ≠ some '&')
    (hkey : isList key = true) (parent : Text) :
    nest key parent = if isList parent = true then
      List.intercalate ", " (List.replicate (split parent).length key) else key := by
  have hcreate : ∀ part, create key part = key := by
    intro part
    simp [create, hat, hamp, hkey]
  unfold nest
  split_ifs
  · rw [List.map_congr_left fun part _ => hcreate part, List.map_const']
  · exact hcreate parent

theorem intercalate_replicate_ne {n : Nat} (hn : 1 < n) (key : Text) :
    List.intercalate ", " (List.replicate n key) ≠ key := by
  obtain ⟨m, rfl⟩ := Nat.exists_eq_add_of_le' hn
  rw [List.replicate_succ, List.replicate_succ, List.intercalate_cons_cons]
  intro h
  have hlength := congrArg List.length h
  simp at hlength

theorem nest_eq_intercalate_combined (hat : key.head? ≠ some '@') (hkey : isList key = false)
    (hparent : parent = [] ∨ IsFilled parent) :
    nest key parent = List.intercalate ", " (combined [key] parent) := by
  have hcreate := create_eq_join hat hkey
  have hcombined : ∀ parts : List Text,
      (parts.flatMap fun part => [key].map (join · part)) = parts.map (create key) := by
    intro parts
    rw [List.map_congr_left fun part _ => hcreate part]
    exact List.flatMap_pure_eq_map (join key) parts
  unfold nest combined
  rw [hcombined]
  obtain rfl | hfilled := hparent
  · exact (List.intercalate_singleton).symm
  · have hne : parent ≠ [] := by
      rintro rfl
      exact hfilled.full [] List.mem_cons_self rfl
    rw [if_neg hne]
    split_ifs with hlist
    · rfl
    · rw [hfilled.split_eq_singleton (Bool.eq_false_iff.mpr hlist)]
      exact (List.intercalate_singleton).symm

/-- **When the selectors of a nested key are those below each part of the parent.** A key that is a
list stands for itself exactly where the parent is no list of two parts or more; below such a list it
is written once for each part. Any other key makes the selectors that it makes with the parts of the
parent exactly when the parent is such a list or ends with its only part. -/
theorem split_nest_eq_map_iff (hk : IsSound key) (hat : key.head? ≠ some '@')
    (hamp : key.head? ≠ some '&') (hne : parent ≠ []) :
    (isList key = true →
      (nest key parent = key ↔ isList parent = false) ∧
      (isList parent = true → nest key parent =
        List.intercalate ", " (List.replicate (split parent).length key))) ∧
    (isList key = false →
      (split (nest key parent) = (split parent).map (join key) ↔
        isList parent = true ∨ ∃ p, split parent = [p] ∧ p <:+ parent)) := by
  refine ⟨fun hkey => ?_, fun hkey => ?_⟩
  · rw [nest_of_isList hat hamp hkey]
    cases hlist : isList parent with
    | true =>
      have htwice := intercalate_replicate_ne (of_decide_eq_true hlist) key
      exact ⟨iff_of_false htwice Bool.noConfusion, fun _ => if_pos rfl⟩
    | false => exact ⟨iff_of_true rfl rfl, fun h => Bool.noConfusion h⟩
  · have hpart := hk.isPart hkey
    have hcreate := create_eq_join hat hkey
    unfold nest
    cases hlist : isList parent with
    | true =>
      rw [if_pos rfl, List.map_congr_left fun part _ => hcreate part]
      exact iff_of_true (split_intercalate_join hpart hamp parent) (.inl rfl)
    | false =>
      rw [if_neg Bool.false_ne_true, hcreate, split_join_eq_map_iff hpart hamp hne hlist]
      exact (or_iff_right Bool.false_ne_true).symm

theorem split_nest_eq_map_iff_links :
    IsSound "span" ∧ IsSound "b, i" ∧
    split (nest "span" ", nav a,, .link[rel=\"x, y\"] ,") =
      [("nav a span" : Text), ".link[rel=\"x, y\"] span"] ∧
    split (nest "span" " , nav a") = [("nav a span" : Text)] ∧
    nest "b, i" "nav a," = ("b, i" : Text) := by
  have hspan : IsSound "span" := ⟨by decide, by decide, by decide⟩
  have hlist : IsSound "b, i" := ⟨by decide, by decide, by decide⟩
  refine ⟨hspan, hlist, ?_, ?_, ?_⟩
  · have hlaw := (@split_nest_eq_map_iff "span" ", nav a,, .link[rel=\"x, y\"] ," hspan
      (by decide) (by decide) (by decide)).2 (by decide)
    exact hlaw.mpr (.inl (by decide +kernel))
  · have hlaw := (@split_nest_eq_map_iff "span" " , nav a" hspan
      (by decide) (by decide) (by decide)).2 (by decide)
    exact hlaw.mpr (.inr ⟨"nav a", by decide +kernel, " , ", rfl⟩)
  · have hlaw := (@split_nest_eq_map_iff "b, i" "nav a," hlist
      (by decide) (by decide) (by decide)).1 (by decide +kernel)
    exact hlaw.1.mpr (by decide +kernel)

/-- **A nested key may miss its parent.** Below the only part of a text that goes on with a comma, a key
becomes a selector of its own; and below a list, a key that is a list is written twice. -/
theorem nest_behind_comma :
    IsSound "b" ∧ isList "b" = false ∧ split "a," = [("a" : Text)] ∧
    nest "b" "a," = ("a, b" : Text) ∧ split (nest "b" "a,") = [("a" : Text), "b"] ∧
    (split "a,").map (join "b") = [("a b" : Text)] ∧
    IsSound "b, c" ∧ isList "b, c" = true ∧ nest "b, c" "x, y" = ("b, c, b, c" : Text) := by
  refine ⟨⟨by decide, by decide, by decide⟩, by decide, by decide, by decide, by decide, by decide,
    ⟨by decide, by decide, by decide⟩, by decide, by decide +kernel⟩

end ThemedCss.Selector
