import Mathlib.Data.List.ReduceOption
import ThemedCss.Proofs.Text.Lines

/-!
# Single blank lines

Texts whose blank lines stand alone are left as they are when blank lines collapse, and so is a single
blank line between them. Where such a text is taken out, the blank lines around it become one.

* `Spaced`: lines that start and end with content, with single blank lines between them;
* `IsTight`, **`Spaced.isTight_unlines`**: texts that are left as they are, wherever they stand;
* `behindGaps`, **`exists_collapseFrom_behindGaps`**: what becomes of tight texts when some are taken
  out;
* `dropLastFeeds_append`: the line feeds at the end.
-/

namespace ThemedCss.Text

open Sheet

/-! ## Lines -/

/-- Lines that start and end with content, with single blank lines between them. -/
inductive Spaced : List Text → Prop
  | one {l} : l ≠ [] → Spaced [l]
  | next {l ls} : l ≠ [] → Spaced ls → Spaced (l :: ls)
  | gap {l ls} : l ≠ [] → Spaced ls → Spaced (l :: [] :: ls)

namespace Spaced

variable {ls ms : List Text}

theorem ne_nil (h : Spaced ls) : ls ≠ [] := by
  cases h with
  | one _ | next _ _ | gap _ _ => exact List.cons_ne_nil _ _

theorem append (h : Spaced ls) (h' : Spaced ms) : Spaced (ls ++ ms) := by
  induction h with
  | one hl => exact .next hl h'
  | next hl _ ih => exact .next hl ih
  | gap hl _ ih => exact .gap hl ih

theorem append_gap (h : Spaced ls) (h' : Spaced ms) : Spaced (ls ++ [] :: ms) := by
  induction h with
  | one hl => exact .gap hl h'
  | next hl _ ih => exact .next hl ih
  | gap hl _ ih => exact .gap hl ih

theorem map (h : Spaced ls) {f : Text → Text} (hf : ∀ l, f l = [] ↔ l = []) :
    Spaced (ls.map f) := by
  induction h with
  | one hl => exact .one (mt (hf _).mp hl)
  | next hl _ ih => exact .next (mt (hf _).mp hl) ih
  | gap hl _ ih =>
    rw [List.map_cons, List.map_cons, (hf []).mpr rfl]
    exact .gap (mt (hf _).mp hl) ih

theorem of_ne_nil (hne : ls ≠ []) (h : ∀ l ∈ ls, l ≠ []) : Spaced ls := by
  induction ls with
  | nil => exact absurd rfl hne
  | cons l ls ih =>
    have hl := h l List.mem_cons_self
    cases ls with
    | nil => exact .one hl
    | cons m ms => exact .next hl (ih (List.cons_ne_nil m ms) fun n hn => h n (List.mem_cons_of_mem l hn))

end Spaced

/-! ## Texts that stay -/

/-- A text that is left as it is when blank lines collapse, however many line feeds stand in front of
it, and behind which the count starts anew. -/
def IsTight (t : Text) : Prop :=
  ∀ before s, collapseFrom before (t ++ s) = t ++ collapseFrom 0 s

theorem collapseFrom_append_of_not_mem {l : Text} (h : '\n' ∉ l) (s : Text) :
    collapseFrom 0 (l ++ s) = l ++ collapseFrom 0 s := by
  induction l with
  | nil => rfl
  | cons c l ih =>
    rw [List.mem_cons, not_or] at h
    rw [List.cons_append, collapseFrom, if_neg (Ne.symm h.1), ih h.2]
    rfl

theorem isTight_line {l : Text} (hne : l ≠ []) (h : '\n' ∉ l) : IsTight l := by
  intro before s
  cases l with
  | nil => exact absurd rfl hne
  | cons c l =>
    rw [List.mem_cons, not_or] at h
    rw [List.cons_append, collapseFrom, if_neg (Ne.symm h.1), collapseFrom_append_of_not_mem h.2]
    rfl

theorem IsTight.append {t u : Text} (ht : IsTight t) (hu : IsTight u) : IsTight (t ++ '\n' :: u) := by
  intro before s
  have hfeed : collapseFrom 0 ('\n' :: (u ++ s)) = '\n' :: collapseFrom 1 (u ++ s) := rfl
  rw [List.append_assoc, ht before, List.cons_append, hfeed, hu 1, List.append_assoc]
  rfl

theorem IsTight.append_gap {t u : Text} (ht : IsTight t) (hu : IsTight u) :
    IsTight (t ++ '\n' :: '\n' :: u) := by
  intro before s
  have hfeeds : collapseFrom 0 ('\n' :: '\n' :: (u ++ s)) = '\n' :: '\n' :: collapseFrom 2 (u ++ s) :=
    rfl
  rw [List.append_assoc, ht before, List.cons_append, List.cons_append, hfeeds, hu 2,
    List.append_assoc]
  rfl

/-- **Lines with single blank lines between them are left as they are.** -/
theorem Spaced.isTight_unlines {ls : List Text} (h : Spaced ls) (hfeed : ∀ l ∈ ls, '\n' ∉ l) :
    IsTight (unlines ls) := by
  induction h with
  | @one l hl =>
    rw [unlines, List.intercalate_singleton]
    exact isTight_line hl (hfeed l List.mem_cons_self)
  | @next l ls hl hls ih =>
    rw [unlines_cons hls.ne_nil]
    exact (isTight_line hl (hfeed l List.mem_cons_self)).append
      (ih fun m hm => hfeed m (List.mem_cons_of_mem l hm))
  | @gap l ls hl hls ih =>
    rw [unlines_cons (List.cons_ne_nil _ _), unlines_cons hls.ne_nil]
    exact (isTight_line hl (hfeed l List.mem_cons_self)).append_gap
      (ih fun m hm => hfeed m (List.mem_cons_of_mem l (List.mem_cons_of_mem _ hm)))

/-! ## Texts that are taken out -/

/-- Texts with a blank line in front of each. -/
def behindGaps (ts : List Text) : Text := ts.flatMap fun t => '\n' :: '\n' :: t

theorem behindGaps_cons (t : Text) (ts : List Text) :
    behindGaps (t :: ts) = '\n' :: '\n' :: (t ++ behindGaps ts) := rfl

theorem unlines_append {ls ms : List Text} (hl : ls ≠ []) (hm : ms ≠ []) :
    unlines (ls ++ ms) = unlines ls ++ '\n' :: unlines ms := by
  induction ls with
  | nil => exact absurd rfl hl
  | cons l ls ih =>
    cases ls with
    | nil =>
      rw [List.singleton_append, unlines_cons hm, unlines, unlines, List.intercalate_singleton]
    | cons k ks =>
      rw [List.cons_append, unlines_cons (List.append_ne_nil_of_left_ne_nil (List.cons_ne_nil k ks) ms),
        ih (List.cons_ne_nil k ks), unlines_cons (List.cons_ne_nil k ks), List.append_assoc]
      rfl

/-- Lines with an empty one behind each of their parts are the parts with a blank line between them, and
a line feed at the end. -/
theorem unlines_flatMap_concat (l : List Text) (ls : List (List Text)) (h : ∀ m ∈ l :: ls, m ≠ []) :
    unlines ((l :: ls).flatMap (· ++ [[]])) =
      unlines l ++ (behindGaps (ls.map unlines) ++ ['\n']) := by
  have hblank : ([[]] : List Text) ≠ [] := List.cons_ne_nil _ _
  induction ls generalizing l with
  | nil =>
    rw [List.flatMap_singleton, unlines_append (h l List.mem_cons_self) hblank]
    rfl
  | cons m ls ih =>
    have hrest : (m :: ls).flatMap (· ++ [[]]) ≠ [] := by
      rw [List.flatMap_cons]
      exact List.append_ne_nil_of_left_ne_nil (List.append_ne_nil_of_right_ne_nil m hblank) _
    rw [List.flatMap_cons, List.append_assoc, unlines_append (h l List.mem_cons_self)
      (List.append_ne_nil_of_left_ne_nil hblank _), unlines_append hblank hrest,
      ih m fun k hk => h k (List.mem_cons_of_mem l hk), List.map_cons, behindGaps_cons,
      List.cons_append, List.cons_append, List.append_assoc]
    rfl

/-- **Tight texts behind blank lines, some of which are taken out**: a single blank line is left in
front of those that stay, and further line feeds at the end, where nothing is taken out just one. -/
theorem exists_collapseFrom_behindGaps (parts : List (Option Text))
    (h : ∀ t, some t ∈ parts → IsTight t) :
    (∃ feeds, collapseFrom 0 (behindGaps (parts.map (·.getD [])) ++ ['\n']) =
        behindGaps parts.reduceOption ++ List.replicate feeds '\n' ∧ (none ∉ parts → feeds = 1)) ∧
    ∃ feeds, '\n' :: '\n' :: collapseFrom 2 (behindGaps (parts.map (·.getD [])) ++ ['\n']) =
        behindGaps parts.reduceOption ++ List.replicate feeds '\n' := by
  induction parts with
  | nil => exact ⟨⟨1, rfl, fun _ => rfl⟩, 2, rfl⟩
  | cons p parts ih =>
    obtain ⟨⟨feeds, hzero, hone⟩, feeds', htwo⟩ := ih fun t ht => h t (List.mem_cons_of_mem p ht)
    cases p with
    | none =>
      -- behind two line feeds the next two are dropped
      exact ⟨⟨feeds', htwo, fun hnone => absurd List.mem_cons_self hnone⟩, feeds', htwo⟩
    | some t =>
      have ht := h t List.mem_cons_self
      have hkept : '\n' :: '\n' ::
          collapseFrom 2 (t ++ (behindGaps (parts.map (·.getD [])) ++ ['\n'])) =
            behindGaps (some t :: parts).reduceOption ++ List.replicate feeds '\n' := by
        rw [ht 2, hzero, List.reduceOption_cons_of_some, behindGaps_cons, List.cons_append,
          List.cons_append, List.append_assoc]
      have htext : behindGaps ((some t :: parts).map (·.getD [])) ++ ['\n'] =
          '\n' :: '\n' :: (t ++ (behindGaps (parts.map (·.getD [])) ++ ['\n'])) := by
        rw [List.map_cons, behindGaps_cons, List.cons_append, List.cons_append, List.append_assoc]
        rfl
      rw [htext]
      exact ⟨⟨feeds, hkept, fun hnone => hone fun hmem => hnone (List.mem_cons_of_mem _ hmem)⟩,
        feeds, hkept⟩

theorem dropLastFeeds_append {t : Text} (h : t.getLast? ≠ some '\n') (feeds : Nat) :
    dropLastFeeds (t ++ List.replicate feeds '\n') = t := by
  rw [dropLastFeeds, List.reverse_append, List.reverse_replicate,
    List.dropWhile_append_of_pos fun c hc => decide_eq_true (List.eq_of_mem_replicate hc)]
  cases hr : t.reverse with
  | nil =>
    rw [List.dropWhile_nil, ← hr, List.reverse_reverse]
  | cons c r =>
    have hlast : t.getLast? = some c := by
      rw [← List.head?_reverse, hr]
      rfl
    have hc : c ≠ '\n' := fun hc => h (hc ▸ hlast)
    rw [List.dropWhile_cons_of_neg (by simpa using hc), ← hr, List.reverse_reverse]

end ThemedCss.Text
