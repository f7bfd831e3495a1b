import ThemedCss.Proofs.Style.Layout
import ThemedCss.Proofs.Text.Strip

/-!
# Selector lists

A selector list is split at the commas outside brackets. When the brackets of its parts are closed
at their ends, joining lists and splitting the result gives the parts of all of them.

* `endDepth`: the bracket depth behind a text;
* `split_intercalate`: the parts of joined lists;
* `IsPart`, `IsSound`: one selector, and a list of selectors without an empty one;
* `IsFilled`: such a list, whose brackets may stay open;
* `IsSound.nest`, `IsSound.combined`: the selectors of keys and markers are sound again;
* **`split_nest`**: the parts of the selector of a key below a list.
-/

namespace ThemedCss.Selector

/-! ## Depths and pieces -/

/-- The bracket depth behind a text that starts at a depth. -/
def endDepth (depth : Nat) (s : Text) : Nat := s.foldl depthAfter depth

variable {depth : Nat} {s t : Text} {ts : List Text}

theorem endDepth_append (depth : Nat) (s t : Text) :
    endDepth depth (s ++ t) = endDepth (endDepth depth s) t :=
  List.foldl_append

theorem endDepth_of_blank (hs : ∀ c ∈ s, Text.isBlank c = true) : endDepth depth s = depth := by
  induction s with
  | nil => rfl
  | cons c s ih =>
    have hc := hs c List.mem_cons_self
    have hdepth : depthAfter depth c = depth := by
      rw [depthAfter, if_neg, if_neg]
      all_goals
        rintro (rfl | rfl) <;> exact absurd hc (by decide)
    rw [endDepth, List.foldl_cons, hdepth]
    exact ih fun d hd => hs d (List.mem_cons_of_mem c hd)

theorem pieces_ne_nil (depth : Nat) (s : Text) : pieces depth s ≠ [] := by
  cases s with
  | nil => exact List.cons_ne_nil _ _
  | cons c s =>
    rw [pieces]
    split
    · exact List.cons_ne_nil _ _
    · exact Text.consHead_ne_nil _ _

theorem pieces_append_comma (h : endDepth depth s = 0) (t : Text) :
    pieces depth (s ++ ',' :: t) = pieces depth s ++ pieces 0 t := by
  induction s generalizing depth with
  | nil =>
    obtain rfl : depth = 0 := h
    rfl
  | cons c s ih =>
    rw [List.cons_append, pieces, pieces]
    split
    · rename_i hc
      obtain ⟨rfl, rfl⟩ := hc
      have hs : endDepth 0 s = 0 := h
      rw [ih hs, List.cons_append]
    · have hs : endDepth (depthAfter depth c) s = 0 := h
      rw [ih hs, Text.consHead_append c (pieces_ne_nil _ _)]

theorem pieces_cons_eq_singleton_iff {c : Char} :
    pieces depth (c :: s) = [c :: s] ↔
      ¬ (c = ',' ∧ depth = 0) ∧ pieces (depthAfter depth c) s = [s] := by
  obtain ⟨p, ps, hps⟩ := List.exists_cons_of_ne_nil (pieces_ne_nil (depthAfter depth c) s)
  rw [pieces]
  split
  · rename_i hc
    exact iff_of_false (fun h => nomatch (List.cons.inj h).1) fun h => h.1 hc
  · rename_i hc
    rw [hps, Text.consHead, List.cons.injEq, List.cons.injEq, List.cons.injEq]
    exact ⟨fun h => ⟨hc, h.1.2, h.2⟩, fun h => ⟨⟨rfl, h.2.1⟩, h.2.2⟩⟩

theorem eq_of_pieces_eq_singleton {p : Text} (h : pieces depth s = [p]) : p = s := by
  induction s generalizing depth p with
  | nil => exact (List.singleton_inj.mp h).symm
  | cons c s ih =>
    rw [pieces] at h
    split at h
    · exact absurd (List.cons.inj h).2 (pieces_ne_nil _ s)
    · obtain ⟨q, qs, hqs⟩ := List.exists_cons_of_ne_nil (pieces_ne_nil (depthAfter depth c) s)
      rw [hqs] at h
      obtain ⟨rfl, rfl⟩ := List.cons.inj h
      rw [ih hqs]

theorem pieces_append_eq_singleton_iff :
    pieces depth (s ++ t) = [s ++ t] ↔
      pieces depth s = [s] ∧ pieces (endDepth depth s) t = [t] := by
  induction s generalizing depth with
  | nil => exact (and_iff_right rfl).symm
  | cons c s ih =>
    rw [List.cons_append, pieces_cons_eq_singleton_iff, ih, pieces_cons_eq_singleton_iff, and_assoc]
    rfl

theorem pieces_append (h : pieces depth s = [s]) (t : Text) :
    pieces depth (s ++ t) = s.foldr Text.consHead (pieces (endDepth depth s) t) := by
  induction s generalizing depth with
  | nil => rfl
  | cons c s ih =>
    obtain ⟨hc, hs⟩ := pieces_cons_eq_singleton_iff.mp h
    rw [List.cons_append, pieces, if_neg hc, ih hs]
    rfl

/-- Every piece has closed brackets and no comma outside them; the first one starts at the depth at
which the text starts. -/
theorem pieces_spec (h : endDepth depth s = 0) :
    ∃ p ps, pieces depth s = p :: ps ∧ (endDepth depth p = 0 ∧ pieces depth p = [p]) ∧
      ∀ q ∈ ps, endDepth 0 q = 0 ∧ pieces 0 q = [q] := by
  induction s generalizing depth with
  | nil => exact ⟨[], [], rfl, ⟨h, rfl⟩, nofun⟩
  | cons c s ih =>
    rw [pieces]
    split
    · rename_i hc
      obtain ⟨rfl, rfl⟩ := hc
      have hs : endDepth 0 s = 0 := h
      obtain ⟨p, ps, hps, hp, hall⟩ := ih hs
      refine ⟨[], pieces 0 s, rfl, ⟨rfl, rfl⟩, ?_⟩
      rw [hps]
      rintro q (_ | ⟨_, hq⟩)
      · exact hp
      · exact hall q hq
    · rename_i hc
      have hs : endDepth (depthAfter depth c) s = 0 := h
      obtain ⟨p, ps, hps, hp, hall⟩ := ih hs
      rw [hps]
      exact ⟨c :: p, ps, rfl, ⟨hp.1, pieces_cons_eq_singleton_iff.mpr ⟨hc, hp.2⟩⟩, hall⟩

theorem foldr_consHead (s p : Text) (ps : List Text) :
    s.foldr Text.consHead (p :: ps) = (s ++ p) :: ps := by
  induction s with
  | nil => rfl
  | cons c s ih =>
    rw [List.foldr_cons, ih]
    rfl

theorem pieces_cons_blank (t : Text) : pieces 0 (' ' :: t) = Text.consHead ' ' (pieces 0 t) := by
  rw [pieces, if_neg (by decide)]
  rfl

/-! ## Parts -/

theorem split_append_comma (h : endDepth 0 s = 0) (t : Text) :
    split (s ++ ',' :: t) = split s ++ split t := by
  rw [split, pieces_append_comma h, List.map_append, List.filter_append]
  rfl

theorem split_cons_blank (t : Text) : split (' ' :: t) = split t := by
  rw [split, pieces_cons_blank, split]
  cases pieces 0 t with
  | nil => rfl
  | cons p ps =>
    rw [Text.consHead, List.map_cons, List.map_cons, Text.strip_cons_of_blank (by decide)]

theorem split_append_separator (h : endDepth 0 s = 0) (t : Text) :
    split (s ++ ", " ++ t) = split s ++ split t := by
  rw [List.append_assoc]
  exact (split_append_comma h (' ' :: t)).trans (congrArg (split s ++ ·) (split_cons_blank t))

/-- The parts of joined lists are the parts of all of them; only the last one may leave brackets
open. -/
theorem split_intercalate_of_dropLast (h : ∀ t ∈ ts.dropLast, endDepth 0 t = 0) :
    split (List.intercalate ", " ts) = ts.flatMap split := by
  induction ts with
  | nil => rfl
  | cons t ts ih =>
    cases ts with
    | nil => rw [List.intercalate_singleton, List.flatMap_singleton]
    | cons u us =>
      rw [List.dropLast_cons_cons] at h
      have ih' := ih fun v hv => h v (List.mem_cons_of_mem t hv)
      rw [List.intercalate_cons_of_ne_nil (List.cons_ne_nil u us),
        split_append_separator (h t List.mem_cons_self), ih']
      rfl

/-- **The parts of joined lists** are the parts of all of them. -/
theorem split_intercalate (h : ∀ t ∈ ts, endDepth 0 t = 0) :
    split (List.intercalate ", " ts) = ts.flatMap split :=
  split_intercalate_of_dropLast fun t ht => h t (List.dropLast_subset ts ht)

/-! ## Sound lists -/

/-- One selector: not empty, without blanks at the ends, with closed brackets and without a comma
outside them. -/
structure IsPart (s : Text) : Prop where
  ne_nil : s ≠ []
  strip_eq : Text.strip s = s
  closed : endDepth 0 s = 0
  pieces_eq : pieces 0 s = [s]

/-- A list of selectors without blanks at the ends, with closed brackets and without an empty
part. -/
structure IsSound (s : Text) : Prop where
  strip_eq : Text.strip s = s
  closed : endDepth 0 s = 0
  full : ∀ p ∈ pieces 0 s, Text.strip p ≠ []

/-- A list of selectors without blanks at the ends and without an empty part. Its brackets may stay
open. -/
structure IsFilled (s : Text) : Prop where
  strip_eq : Text.strip s = s
  full : ∀ p ∈ pieces 0 s, Text.strip p ≠ []

theorem IsPart.isSound (h : IsPart s) : IsSound s := by
  refine ⟨h.strip_eq, h.closed, fun p hp => ?_⟩
  rw [h.pieces_eq] at hp
  rw [List.mem_singleton.mp hp, h.strip_eq]
  exact h.ne_nil

theorem pieces_strip (hp : pieces 0 s = [s]) : pieces 0 (Text.strip s) = [Text.strip s] := by
  obtain ⟨a, b, hs, ha, -⟩ := Text.exists_eq_append_strip s
  rw [hs, pieces_append_eq_singleton_iff, pieces_append_eq_singleton_iff, endDepth_of_blank ha] at hp
  exact hp.1.2

theorem isPart_strip (hc : endDepth 0 s = 0) (hp : pieces 0 s = [s]) (hne : Text.strip s ≠ []) :
    IsPart (Text.strip s) := by
  obtain ⟨a, b, hs, ha, hb⟩ := Text.exists_eq_append_strip s
  have hdepth : endDepth 0 (Text.strip s) = 0 := by
    rw [hs, endDepth_append, endDepth_append, endDepth_of_blank ha, endDepth_of_blank hb] at hc
    exact hc
  exact ⟨hne, Text.strip_strip s, hdepth, pieces_strip hp⟩

theorem isPart_of_mem_split {p : Text} (hs : endDepth 0 s = 0) (hp : p ∈ split s) : IsPart p := by
  obtain ⟨hmem, hne⟩ := List.mem_filter.mp hp
  obtain ⟨m, hm, rfl⟩ := List.mem_map.mp hmem
  obtain ⟨q, qs, hqs, hq, hall⟩ := pieces_spec hs
  rw [hqs] at hm
  rcases List.mem_cons.mp hm with rfl | hm
  · exact isPart_strip hq.1 hq.2 (of_decide_eq_true hne)
  · exact isPart_strip (hall m hm).1 (hall m hm).2 (of_decide_eq_true hne)

namespace IsFilled

theorem split_eq (h : IsFilled s) : split s = (pieces 0 s).map Text.strip := by
  refine List.filter_eq_self.mpr fun p hp => ?_
  obtain ⟨q, hq, rfl⟩ := List.mem_map.mp hp
  exact decide_eq_true (h.full q hq)

theorem split_eq_singleton (h : IsFilled s) (hs : isList s = false) : split s = [s] := by
  obtain ⟨q, qs, hqs⟩ := List.exists_cons_of_ne_nil (pieces_ne_nil 0 s)
  have hlength := of_decide_eq_false hs
  rw [h.split_eq, hqs] at hlength
  obtain rfl : qs = [] := List.length_eq_zero_iff.mp (by simpa using hlength)
  rw [h.split_eq, hqs, eq_of_pieces_eq_singleton hqs, List.map_singleton, h.strip_eq]

theorem split_ne_nil (h : IsFilled s) : split s ≠ [] := by
  rw [h.split_eq]
  exact mt List.map_eq_nil_iff.mp (pieces_ne_nil 0 s)

end IsFilled

namespace IsSound

variable {p : Text}

theorem isFilled (h : IsSound s) : IsFilled s := ⟨h.strip_eq, h.full⟩

theorem isPart_of_mem_split (h : IsSound s) (hp : p ∈ split s) : IsPart p :=
  Selector.isPart_of_mem_split h.closed hp

theorem split_eq (h : IsSound s) : split s = (pieces 0 s).map Text.strip := h.isFilled.split_eq

theorem split_eq_singleton (h : IsSound s) (hs : isList s = false) : split s = [s] :=
  h.isFilled.split_eq_singleton hs

theorem split_ne_nil (h : IsSound s) : split s ≠ [] := h.isFilled.split_ne_nil

theorem ne_nil (h : IsSound s) : s ≠ [] := by
  rintro rfl
  exact h.full [] List.mem_cons_self rfl

/-- A text behind one selector makes a sound list when its own parts behind the first are not
empty. -/
theorem of_append (hs : IsPart s) (hc : endDepth 0 t = 0)
    (hp : ∀ p ∈ (pieces 0 t).tail, Text.strip p ≠ [])
    (hl : ∀ c ∈ t.getLast?, Text.isBlank c = false) : IsSound (s ++ t) := by
  obtain ⟨hhead, hlast⟩ := Text.strip_eq_self_iff.mp hs.strip_eq
  refine ⟨Text.strip_eq_self_iff.mpr ⟨?_, ?_⟩, ?_, ?_⟩
  · obtain ⟨c, r, rfl⟩ := List.exists_cons_of_ne_nil hs.ne_nil
    exact hhead
  · intro c hc
    rw [List.getLast?_append] at hc
    rcases Option.or_eq_some_iff.mp hc with hc | ⟨_, hc⟩
    · exact hl c hc
    · exact hlast c hc
  · rw [endDepth_append, hs.closed, hc]
  · obtain ⟨q, qs, hqs⟩ := List.exists_cons_of_ne_nil (pieces_ne_nil 0 t)
    rw [pieces_append hs.pieces_eq, hs.closed, hqs, foldr_consHead]
    rw [hqs, List.tail_cons] at hp
    rintro p (_ | ⟨_, hmem⟩)
    · obtain ⟨c, hc, hblank⟩ := Text.strip_ne_nil_iff.mp (hs.strip_eq.symm ▸ hs.ne_nil)
      exact Text.strip_ne_nil_iff.mpr ⟨c, List.mem_append_left q hc, hblank⟩
    · exact hp p hmem

theorem tail_pieces_cons {c : Char} (hc : depthAfter 0 c = 0) (hcomma : c ≠ ',') (t : Text) :
    (pieces 0 (c :: t)).tail = (pieces 0 t).tail := by
  rw [pieces, if_neg fun h => hcomma h.1, hc]
  cases pieces 0 t <;> rfl

theorem join (h : IsSound s) (hp : IsPart p) : IsSound (Selector.join s p) := by
  have hlast := (Text.strip_eq_self_iff.mp h.strip_eq).2
  have htail : ∀ q ∈ (pieces 0 s).tail, Text.strip q ≠ [] := fun q hq =>
    h.full q (List.mem_of_mem_tail hq)
  unfold Selector.join
  split
  · rename_i rest
    refine of_append hp h.closed ?_ fun c hc => ?_
    · rwa [tail_pieces_cons (by decide) (by decide)] at htail
    · obtain ⟨u, rfl⟩ := List.getLast?_eq_some_iff.mp hc
      exact hlast c (List.getLast?_eq_some_iff.mpr ⟨'&' :: u, rfl⟩)
  · rename_i c rest _
    split
    · exact of_append hp h.closed htail hlast
    · refine of_append hp h.closed ?_ fun d hd => ?_
      · rwa [tail_pieces_cons (by decide) (by decide)]
      · rw [List.getLast?_cons_cons] at hd
        exact hlast d hd
  · exact absurd rfl h.ne_nil

theorem create (h : IsSound s) (hp : IsPart p) : IsSound (Selector.create s p) := by
  rw [Selector.create]
  split
  · exact h
  split
  · exact h.join hp
  split
  · exact h
  · exact h.join hp

theorem full_cons_blank (h : IsSound s) : ∀ p ∈ pieces 0 (' ' :: s), Text.strip p ≠ [] := by
  obtain ⟨q, qs, hqs⟩ := List.exists_cons_of_ne_nil (pieces_ne_nil 0 s)
  rw [pieces_cons_blank, hqs, Text.consHead]
  rintro p (_ | ⟨_, hp⟩)
  · rw [Text.strip_cons_of_blank (by decide)]
    exact h.full q (hqs ▸ List.mem_cons_self)
  · exact h.full p (hqs ▸ List.mem_cons_of_mem q hp)

theorem append_separator (hs : IsSound s) (ht : IsSound t) : IsSound (s ++ ", " ++ t) := by
  obtain ⟨hhead, _⟩ := Text.strip_eq_self_iff.mp hs.strip_eq
  obtain ⟨_, hlast⟩ := Text.strip_eq_self_iff.mp ht.strip_eq
  refine ⟨Text.strip_eq_self_iff.mpr ⟨?_, ?_⟩, ?_, ?_⟩
  · obtain ⟨c, r, rfl⟩ := List.exists_cons_of_ne_nil hs.ne_nil
    exact hhead
  · intro c hc
    obtain ⟨d, hd⟩ := Option.ne_none_iff_exists'.mp (mt List.getLast?_eq_none_iff.mp ht.ne_nil)
    rw [List.getLast?_append, hd, Option.some_or] at hc
    exact hlast c (hd.trans hc)
  · rw [endDepth_append, endDepth_append, hs.closed]
    exact ht.closed
  · rw [List.append_assoc]
    have hpieces : pieces 0 (s ++ (", " ++ t)) = pieces 0 s ++ pieces 0 (' ' :: t) :=
      pieces_append_comma hs.closed (' ' :: t)
    rw [hpieces]
    intro p hp
    rcases List.mem_append.mp hp with hp | hp
    · exact hs.full p hp
    · exact full_cons_blank ht p hp

theorem intercalate (h : ∀ t ∈ ts, IsSound t) (hne : ts ≠ []) :
    IsSound (List.intercalate ", " ts) := by
  induction ts with
  | nil => exact absurd rfl hne
  | cons t ts ih =>
    have ht := h t List.mem_cons_self
    cases ts with
    | nil => rwa [List.intercalate_singleton]
    | cons u us =>
      have hus := ih (fun v hv => h v (List.mem_cons_of_mem t hv)) (List.cons_ne_nil u us)
      rw [List.intercalate_cons_of_ne_nil (List.cons_ne_nil u us)]
      exact ht.append_separator hus

theorem nest (h : IsSound s) (hp : IsSound p) : IsSound (Selector.nest s p) := by
  rw [Selector.nest]
  split
  · refine intercalate (fun t ht => ?_) ?_
    · obtain ⟨part, hpart, rfl⟩ := List.mem_map.mp ht
      exact h.create (hp.isPart_of_mem_split hpart)
    · rename_i hl
      exact fun hnil => hp.split_ne_nil (List.map_eq_nil_iff.mp hnil)
  · rename_i hl
    have hsplit := hp.split_eq_singleton (Bool.eq_false_iff.mpr hl)
    exact h.create (hp.isPart_of_mem_split (hsplit ▸ List.mem_singleton_self p))

theorem combined (hp : IsSound p) (hts : ∀ t ∈ ts, IsSound t) :
    ∀ t ∈ Selector.combined ts p, IsSound t := by
  intro t ht
  obtain ⟨part, hpart, ht⟩ := List.mem_flatMap.mp ht
  obtain ⟨key, hkey, rfl⟩ := List.mem_map.mp ht
  rw [if_neg hp.ne_nil] at hpart
  exact (hts key hkey).join (hp.isPart_of_mem_split hpart)

theorem combined_eq_nil_iff (hp : IsSound p) : Selector.combined ts p = [] ↔ ts = [] := by
  rw [Selector.combined_eq_nil_iff]
  exact or_iff_left fun h => hp.split_ne_nil h.2

end IsSound

/-- **The parts of the selector of a key** below a list are those below its parts. -/
theorem split_nest {key parent : Text} (hk : IsSound key) (hp : IsSound parent) :
    split (nest key parent) = (split parent).flatMap fun part => split (create key part) := by
  rw [nest]
  split
  · rw [split_intercalate, List.flatMap_map]
    intro t ht
    obtain ⟨part, hpart, rfl⟩ := List.mem_map.mp ht
    exact (hk.create (hp.isPart_of_mem_split hpart)).closed
  · rename_i hl
    rw [hp.split_eq_singleton (Bool.eq_false_iff.mpr hl), List.flatMap_singleton]

/-- The parts of the joined selectors of a marker below a list are those below its parts. -/
theorem split_intercalate_combined {parent : Text} (hts : ∀ t ∈ ts, IsSound t)
    (hp : IsSound parent) :
    split (List.intercalate ", " (combined ts parent)) =
      (split parent).flatMap fun part => ts.flatMap fun key => split (join key part) := by
  rw [split_intercalate fun t ht => (hp.combined hts t ht).closed, combined, if_neg hp.ne_nil,
    List.flatMap_assoc]
  simp only [List.flatMap_map]

end ThemedCss.Selector
