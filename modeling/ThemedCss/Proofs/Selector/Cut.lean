import ThemedCss.Proofs.Selector.Parts

/-!
# Where selector lists are cut

Splitting a text into selectors loses only its commas outside brackets and the blanks next to them
or at its ends. This is told place by place, for texts whose brackets need not match.

* `IsSeparator`, `pieces_eq_singleton_iff`: the commas outside brackets, by their places;
* `IsDropped`: the places of a text that belong to no part;
* `isDropped_append_comma`, `isDropped_behind_comma`: a comma outside brackets parts a text into two
  that can be looked at one by one;
* `IsCut`: the parts of a text by their spans; `IsCut.append_comma`: those on both sides of a comma;
* **`exists_isCut`**: the parts hold every place that is not dropped;
* `split_intercalate_split`: joined parts are split into the same parts;
* **`split_lossless`**: all of it.
-/

namespace ThemedCss.Selector

variable {b q s t x y : Text} {i place start stop : Nat} {ps qs : List Text}
  {spans others : List (Nat × Nat)}

/-! ## Commas outside brackets -/

/-- Whether a comma outside brackets stands at a place of a text. -/
def IsSeparator (s : Text) (place : Nat) : Prop :=
  s[place]? = some ',' ∧ endDepth 0 (s.take place) = 0

theorem IsSeparator.lt_length (h : IsSeparator s place) : place < s.length :=
  (List.getElem?_eq_some_iff.mp h.1).1

theorem isSeparator_append_left (h : place < b.length) :
    IsSeparator (b ++ t) place ↔ IsSeparator b place := by
  unfold IsSeparator
  rw [List.getElem?_append_left h, List.take_append_of_le_length h.le]

theorem isSeparator_append_right (hb : endDepth 0 b = 0) (t : Text) (i : Nat) :
    IsSeparator (b ++ t) (b.length + i) ↔ IsSeparator t i := by
  unfold IsSeparator
  rw [List.getElem?_append_right (Nat.le_add_right _ i), Nat.add_sub_cancel_left,
    List.take_length_add_append, endDepth_append, hb]

theorem isSeparator_append_comma (hb : endDepth 0 b = 0) (t : Text) :
    IsSeparator (b ++ ',' :: t) b.length :=
  (isSeparator_append_right hb (',' :: t) 0).mpr ⟨rfl, rfl⟩

theorem isSeparator_behind_comma (hb : endDepth 0 b = 0) :
    IsSeparator (b ++ ',' :: t) (b.length + 1 + i) ↔ IsSeparator t i := by
  have hcomma : endDepth 0 (b ++ [',']) = 0 := by
    rw [endDepth_append, hb]
    rfl
  simpa using isSeparator_append_right hcomma t i

theorem pieces_eq_singleton_iff {depth : Nat} :
    pieces depth s = [s] ↔
      ∀ place, s[place]? = some ',' → endDepth depth (s.take place) ≠ 0 := by
  induction s generalizing depth with
  | nil => simp [pieces]
  | cons c s ih =>
    rw [pieces_cons_eq_singleton_iff, ih]
    constructor
    · rintro ⟨hc, hs⟩ (_ | place) hcomma
      · exact fun hdepth => hc ⟨Option.some.inj hcomma, hdepth⟩
      · exact hs place hcomma
    · intro h
      exact ⟨fun hc => h 0 (congrArg some hc.1) hc.2, fun place => h (place + 1)⟩

theorem not_isSeparator_of_pieces (hs : pieces 0 s = [s]) (place : Nat) : ¬ IsSeparator s place :=
  fun h => pieces_eq_singleton_iff.mp hs place h.1 h.2

/-! ## Dropped places -/

/-- Whether a blank stands at a place of a text. -/
def IsBlankAt (s : Text) (place : Nat) : Prop := ∃ c ∈ s[place]?, Text.isBlank c = true

/-- Whether a place is the start of a text or stands right behind a comma outside brackets. -/
def StartsPiece (s : Text) (place : Nat) : Prop :=
  place = 0 ∨ ∃ comma, IsSeparator s comma ∧ place = comma + 1

/-- Whether a place is the end of a text or holds a comma outside brackets. -/
def EndsPiece (s : Text) (place : Nat) : Prop := place = s.length ∨ IsSeparator s place

/-- Whether a place of a text belongs to no part: a comma outside brackets stands there, or a blank
with nothing but blanks between it and such a comma or an end of the text. -/
def IsDropped (s : Text) (place : Nat) : Prop :=
  IsSeparator s place ∨
    (∃ start ≤ place, StartsPiece s start ∧ ∀ i, start ≤ i → i ≤ place → IsBlankAt s i) ∨
    ∃ stop > place, EndsPiece s stop ∧ ∀ i, place ≤ i → i < stop → IsBlankAt s i

theorem isBlankAt_append_left (h : place < b.length) :
    IsBlankAt (b ++ t) place ↔ IsBlankAt b place := by
  unfold IsBlankAt
  rw [List.getElem?_append_left h]

theorem isBlankAt_append_right (b t : Text) (i : Nat) :
    IsBlankAt (b ++ t) (b.length + i) ↔ IsBlankAt t i := by
  unfold IsBlankAt
  rw [List.getElem?_append_right (Nat.le_add_right _ i), Nat.add_sub_cancel_left]

theorem isBlankAt_behind_comma : IsBlankAt (b ++ ',' :: t) (b.length + 1 + i) ↔ IsBlankAt t i := by
  simpa using isBlankAt_append_right (b ++ [',']) t i

theorem isBlankAt_of_blank (hs : ∀ c ∈ s, Text.isBlank c = true) (h : place < s.length) :
    IsBlankAt s place :=
  ⟨s[place], List.getElem?_eq_getElem h, hs _ (List.getElem_mem h)⟩

theorem IsSeparator.not_isBlankAt (h : IsSeparator s place) : ¬ IsBlankAt s place := by
  rintro ⟨c, hc, hblank⟩
  obtain rfl : ',' = c := Option.some.inj (h.1.symm.trans hc)
  exact absurd hblank (by decide)

theorem EndsPiece.le_length (h : EndsPiece s stop) : stop ≤ s.length := by
  obtain rfl | h := h
  · exact Nat.le_refl _
  · exact h.lt_length.le

theorem startsPiece_succ : StartsPiece s (i + 1) ↔ IsSeparator s i := by
  simp [StartsPiece]

theorem startsPiece_append_left (h : start ≤ b.length) :
    StartsPiece (b ++ t) start ↔ StartsPiece b start := by
  cases start with
  | zero => exact iff_of_true (.inl rfl) (.inl rfl)
  | succ start => rw [startsPiece_succ, startsPiece_succ, isSeparator_append_left h]

theorem startsPiece_behind_comma (hb : endDepth 0 b = 0) :
    StartsPiece (b ++ ',' :: t) (b.length + 1 + start) ↔ StartsPiece t start := by
  cases start with
  | zero => exact iff_of_true (.inr ⟨_, isSeparator_append_comma hb t, rfl⟩) (.inl rfl)
  | succ start =>
    rw [startsPiece_succ, ← isSeparator_behind_comma hb, ← startsPiece_succ]
    rfl

theorem endsPiece_append_comma (hb : endDepth 0 b = 0) (h : stop ≤ b.length) :
    EndsPiece (b ++ ',' :: t) stop ↔ EndsPiece b stop := by
  obtain rfl | hlt := h.eq_or_lt
  · exact iff_of_true (.inr (isSeparator_append_comma hb t)) (.inl rfl)
  · unfold EndsPiece
    rw [isSeparator_append_left hlt, List.length_append]
    exact or_congr_left (by omega)

theorem endsPiece_behind_comma (hb : endDepth 0 b = 0) :
    EndsPiece (b ++ ',' :: t) (b.length + 1 + stop) ↔ EndsPiece t stop := by
  unfold EndsPiece
  rw [isSeparator_behind_comma hb, List.length_append, List.length_cons]
  exact or_congr_left (by omega)

theorem isDropped_append_comma (hb : endDepth 0 b = 0) (h : place < b.length) :
    IsDropped (b ++ ',' :: t) place ↔ IsDropped b place := by
  have hcomma : ¬ IsBlankAt (b ++ ',' :: t) b.length :=
    (isSeparator_append_comma hb t).not_isBlankAt
  refine or_congr (isSeparator_append_left h) (or_congr ?_ ?_)
  · refine exists_congr fun start => and_congr_right fun hle => ?_
    refine and_congr (startsPiece_append_left (by omega)) ?_
    exact forall_congr' fun i => forall_congr' fun _ => forall_congr' fun hi =>
      isBlankAt_append_left (by omega)
  · constructor
    · rintro ⟨stop, hlt, hends, hblank⟩
      -- the blanks do not go past the comma
      have hle : stop ≤ b.length := by
        by_contra hgt
        exact hcomma (hblank _ h.le (by omega))
      exact ⟨stop, hlt, (endsPiece_append_comma hb hle).mp hends,
        fun i hi hi' => (isBlankAt_append_left (by omega)).mp (hblank i hi hi')⟩
    · rintro ⟨stop, hlt, hends, hblank⟩
      have hle := hends.le_length
      exact ⟨stop, hlt, (endsPiece_append_comma hb hle).mpr hends,
        fun i hi hi' => (isBlankAt_append_left (by omega)).mpr (hblank i hi hi')⟩

/-- Behind a comma outside brackets the same places are dropped as in what follows by itself. -/
theorem isDropped_behind_comma (hb : endDepth 0 b = 0) :
    IsDropped (b ++ ',' :: t) (b.length + 1 + i) ↔ IsDropped t i := by
  have hcomma : ¬ IsBlankAt (b ++ ',' :: t) b.length :=
    (isSeparator_append_comma hb t).not_isBlankAt
  refine or_congr (isSeparator_behind_comma hb) (or_congr ?_ ?_)
  · constructor
    · rintro ⟨start, hle, hstarts, hblank⟩
      -- the blanks start behind the comma
      have hlt : b.length < start := by
        by_contra hge
        exact hcomma (hblank _ (by omega) (by omega))
      obtain ⟨k, rfl⟩ := Nat.exists_eq_add_of_le (Nat.succ_le_of_lt hlt)
      exact ⟨k, by omega, (startsPiece_behind_comma hb).mp hstarts,
        fun j hj hj' => isBlankAt_behind_comma.mp (hblank _ (by omega) (by omega))⟩
    · rintro ⟨start, hle, hstarts, hblank⟩
      refine ⟨b.length + 1 + start, by omega, (startsPiece_behind_comma hb).mpr hstarts, ?_⟩
      intro j hj hj'
      obtain ⟨k, rfl⟩ := Nat.exists_eq_add_of_le (Nat.le_of_add_right_le hj)
      exact isBlankAt_behind_comma.mpr (hblank k (by omega) (by omega))
  · constructor
    · rintro ⟨stop, hlt, hends, hblank⟩
      obtain ⟨k, rfl⟩ := Nat.exists_eq_add_of_le (show b.length + 1 ≤ stop by omega)
      exact ⟨k, by omega, (endsPiece_behind_comma hb).mp hends,
        fun j hj hj' => isBlankAt_behind_comma.mp (hblank _ (by omega) (by omega))⟩
    · rintro ⟨stop, hlt, hends, hblank⟩
      refine ⟨b.length + 1 + stop, by omega, (endsPiece_behind_comma hb).mpr hends, ?_⟩
      intro j hj hj'
      obtain ⟨k, rfl⟩ := Nat.exists_eq_add_of_le (show b.length + 1 ≤ j by omega)
      exact isBlankAt_behind_comma.mpr (hblank k (by omega) (by omega))

theorem isDropped_iff_of_pieces (hs : pieces 0 s = [s]) (h : place < s.length) :
    IsDropped s place ↔
      (∀ i ≤ place, IsBlankAt s i) ∨ ∀ i, place ≤ i → i < s.length → IsBlankAt s i := by
  have hcomma := not_isSeparator_of_pieces hs
  constructor
  · rintro (hplace | ⟨start, -, hstarts, hblank⟩ | ⟨stop, -, hends, hblank⟩)
    · exact absurd hplace (hcomma place)
    · obtain rfl | ⟨comma, hstart, -⟩ := hstarts
      · exact .inl fun i => hblank i (Nat.zero_le i)
      · exact absurd hstart (hcomma comma)
    · obtain rfl | hstop := hends
      · exact .inr hblank
      · exact absurd hstop (hcomma stop)
  · rintro (hblank | hblank)
    · exact .inr (.inl ⟨0, Nat.zero_le place, .inl rfl, fun i _ => hblank i⟩)
    · exact .inr (.inr ⟨s.length, h, .inl rfl, hblank⟩)

/-! ## Spans -/

/-- Whether a place lies in one of some spans; a span is given by its start and by where it stops. -/
def IsCovered (spans : List (Nat × Nat)) (place : Nat) : Prop :=
  ∃ span ∈ spans, span.1 ≤ place ∧ place < span.2

/-- The spans of the parts of a text: they stand in order with a comma outside brackets between any
two, and cover the places that are not dropped. -/
structure IsCut (s : Text) (ps : List Text) (spans : List (Nat × Nat)) : Prop where
  parts_eq : ps = spans.map fun span => (s.take span.2).drop span.1
  stop_le : ∀ span ∈ spans, span.2 ≤ s.length
  separated : spans.Pairwise fun span next =>
    ∃ comma, span.2 ≤ comma ∧ comma < next.1 ∧ IsSeparator s comma
  covered_iff : ∀ place < s.length, IsCovered spans place ↔ ¬ IsDropped s place

/-- Spans moved behind a text and the comma that follows it. -/
def spansBehind (b : Text) (spans : List (Nat × Nat)) : List (Nat × Nat) :=
  spans.map fun span => (b.length + 1 + span.1, b.length + 1 + span.2)

theorem mem_spansBehind {span : Nat × Nat} :
    span ∈ spansBehind b spans ↔
      ∃ start stop, (start, stop) ∈ spans ∧ (b.length + 1 + start, b.length + 1 + stop) = span := by
  simp [spansBehind]

theorem isCovered_append :
    IsCovered (spans ++ others) place ↔ IsCovered spans place ∨ IsCovered others place := by
  simp only [IsCovered, List.mem_append, or_and_right, exists_or]

theorem isCovered_spansBehind :
    IsCovered (spansBehind b spans) place ↔
      ∃ i, place = b.length + 1 + i ∧ IsCovered spans i := by
  constructor
  · rintro ⟨span, hspan, hle, hlt⟩
    obtain ⟨start, stop, hmem, rfl⟩ := mem_spansBehind.mp hspan
    dsimp only at hle hlt
    obtain ⟨i, rfl⟩ := Nat.exists_eq_add_of_le (show b.length + 1 ≤ place by omega)
    exact ⟨i, rfl, (start, stop), hmem, by dsimp only; omega, by dsimp only; omega⟩
  · rintro ⟨i, rfl, ⟨start, stop⟩, hmem, hle, hlt⟩
    dsimp only at hle hlt
    exact ⟨_, mem_spansBehind.mpr ⟨start, stop, hmem, rfl⟩, by dsimp only; omega,
      by dsimp only; omega⟩

theorem drop_take_behind_comma (b t : Text) (start stop : Nat) :
    ((b ++ ',' :: t).take (b.length + 1 + stop)).drop (b.length + 1 + start) =
      (t.take stop).drop start := by
  have hlength : (b ++ [',']).length = b.length + 1 := by simp
  rw [List.append_cons, ← hlength, List.take_length_add_append, List.drop_length_add_append]

theorem IsCut.lt_length (h : IsCut s ps spans) (hplace : IsCovered spans place) :
    place < s.length := by
  obtain ⟨span, hspan, -, hlt⟩ := hplace
  exact lt_of_lt_of_le hlt (h.stop_le span hspan)

/-- A comma outside brackets stands between the parts in front of it and those behind it. -/
theorem IsCut.append_comma (hs : IsCut b ps spans) (ht : IsCut t qs others)
    (hb : endDepth 0 b = 0) :
    IsCut (b ++ ',' :: t) (ps ++ qs) (spans ++ spansBehind b others) where
  parts_eq := by
    rw [List.map_append, hs.parts_eq, ht.parts_eq, spansBehind, List.map_map]
    refine congrArg₂ (· ++ ·) (List.map_congr_left fun span hspan => ?_)
      (List.map_congr_left fun span _ => ?_)
    · rw [List.take_append_of_le_length (hs.stop_le span hspan)]
    · exact (drop_take_behind_comma b t span.1 span.2).symm
  stop_le := by
    intro span hspan
    rw [List.length_append, List.length_cons]
    rcases List.mem_append.mp hspan with hspan | hspan
    · exact Nat.le_add_right_of_le (hs.stop_le span hspan)
    · obtain ⟨start, stop, hmem, rfl⟩ := mem_spansBehind.mp hspan
      have := ht.stop_le _ hmem
      dsimp only at this ⊢
      omega
  separated := by
    refine List.pairwise_append.mpr ⟨?_, ?_, ?_⟩
    · refine hs.separated.imp fun ⟨comma, hstop, hstart, hcomma⟩ => ?_
      exact ⟨comma, hstop, hstart, (isSeparator_append_left hcomma.lt_length).mpr hcomma⟩
    · refine List.pairwise_map.mpr (ht.separated.imp fun ⟨comma, hstop, hstart, hcomma⟩ => ?_)
      exact ⟨b.length + 1 + comma, by omega, by omega, (isSeparator_behind_comma hb).mpr hcomma⟩
    · intro span hspan next hnext
      obtain ⟨start, stop, -, rfl⟩ := mem_spansBehind.mp hnext
      exact ⟨b.length, hs.stop_le span hspan, by dsimp only; omega, isSeparator_append_comma hb t⟩
  covered_iff := by
    intro place hplace
    rw [isCovered_append, isCovered_spansBehind]
    rw [List.length_append, List.length_cons] at hplace
    -- the place stands in front of the comma, is that of the comma, or stands behind it
    obtain hlt | rfl | hgt := lt_trichotomy place b.length
    · rw [isDropped_append_comma hb hlt, ← hs.covered_iff place hlt]
      refine or_iff_left ?_
      rintro ⟨i, rfl, -⟩
      omega
    · refine iff_of_false ?_ (not_not_intro (.inl (isSeparator_append_comma hb t)))
      rintro (hcovered | ⟨i, hi, -⟩)
      · exact absurd (hs.lt_length hcovered) (lt_irrefl _)
      · omega
    · obtain ⟨i, rfl⟩ := Nat.exists_eq_add_of_le (Nat.succ_le_of_lt hgt)
      rw [isDropped_behind_comma hb, ← ht.covered_iff i (by omega)]
      constructor
      · rintro (hcovered | ⟨j, hj, hcovered⟩)
        · have := hs.lt_length hcovered
          omega
        · obtain rfl : i = j := by omega
          exact hcovered
      · exact fun hcovered => .inr ⟨i, rfl, hcovered⟩

theorem not_isBlankAt_ends (hq : Text.strip q = q) (hne : q ≠ []) (x y : Text) :
    ¬ IsBlankAt (x ++ q ++ y) x.length ∧ ¬ IsBlankAt (x ++ q ++ y) (x.length + (q.length - 1)) := by
  obtain ⟨hhead, hlast⟩ := Text.strip_eq_self_iff.mp hq
  have hpos := List.length_pos_iff.mpr hne
  have hinside : ∀ i < q.length, IsBlankAt (x ++ q ++ y) (x.length + i) ↔ IsBlankAt q i := by
    intro i hi
    rw [List.append_assoc, isBlankAt_append_right, isBlankAt_append_left hi]
  constructor
  · intro hfirst
    obtain ⟨c, hc, hblank⟩ := (hinside 0 hpos).mp hfirst
    rw [← List.head?_eq_getElem?] at hc
    exact Bool.false_ne_true ((hhead c hc).symm.trans hblank)
  · rw [hinside _ (by omega)]
    rintro ⟨c, hc, hblank⟩
    rw [← List.getLast?_eq_getElem?] at hc
    exact Bool.false_ne_true ((hlast c hc).symm.trans hblank)

theorem blank_to_end_iff (hq : Text.strip q = q) (hne : q ≠ [])
    (hx : ∀ c ∈ x, Text.isBlank c = true) (hy : ∀ c ∈ y, Text.isBlank c = true) :
    ((∀ i ≤ place, IsBlankAt (x ++ q ++ y) i) ∨
      ∀ i, place ≤ i → i < (x ++ q ++ y).length → IsBlankAt (x ++ q ++ y) i) ↔
      ¬ (x.length ≤ place ∧ place < x.length + q.length) := by
  obtain ⟨hfirst, hlast⟩ := not_isBlankAt_ends hq hne x y
  simp only [List.length_append]
  constructor
  · rintro (hblank | hblank) ⟨hle, hlt⟩
    · exact hfirst (hblank _ hle)
    · exact hlast (hblank _ (by omega) (by omega))
  · intro hout
    obtain hlt | hle := Nat.lt_or_ge place x.length
    · refine .inl fun i hi => ?_
      rw [List.append_assoc, isBlankAt_append_left (by omega)]
      exact isBlankAt_of_blank hx (by omega)
    · refine .inr fun i hi hi' => ?_
      have hbehind : (x ++ q).length ≤ i := by
        rw [List.length_append]
        omega
      obtain ⟨k, rfl⟩ := Nat.exists_eq_add_of_le hbehind
      rw [List.length_append] at hi'
      rw [isBlankAt_append_right]
      exact isBlankAt_of_blank hy (by omega)

theorem exists_isCut_of_pieces (hs : pieces 0 s = [s]) : ∃ spans, IsCut s (split s) spans := by
  obtain ⟨x, y, hxy, hx, hy⟩ := Text.exists_eq_append_strip s
  have hq := Text.strip_strip s
  rw [split_of_pieces hs]
  generalize Text.strip s = q at hxy hq ⊢
  subst hxy
  by_cases hne : q = []
  · subst hne
    rw [if_pos rfl]
    refine ⟨[], rfl, nofun, .nil, fun place h => iff_of_false nofun (not_not_intro ?_)⟩
    have hblank : ∀ c ∈ x ++ [] ++ y, Text.isBlank c = true := by
      intro c hc
      rw [List.append_nil] at hc
      exact (List.mem_append.mp hc).elim (hx c) (hy c)
    exact (isDropped_iff_of_pieces hs h).mpr
      (.inl fun i hi => isBlankAt_of_blank hblank (lt_of_le_of_lt hi h))
  · rw [if_neg hne]
    refine ⟨[(x.length, x.length + q.length)], ?_, ?_, List.pairwise_singleton _ _, ?_⟩
    · rw [List.map_singleton, List.append_assoc, List.take_length_add_append, List.drop_left,
        List.take_left]
    · intro span hspan
      rw [List.mem_singleton.mp hspan, List.length_append, List.length_append]
      exact Nat.le_add_right _ _
    · intro place h
      rw [isDropped_iff_of_pieces hs h, blank_to_end_iff hq hne hx hy, not_not]
      simp [IsCovered]

/-- **The parts of a text hold every place that is not dropped.** -/
theorem exists_isCut (s : Text) : ∃ spans, IsCut s (split s) spans := by
  induction hlength : s.length using Nat.strong_induction_on generalizing s with
  | _ n ih =>
    subst hlength
    -- behind the last comma there is one part at most, and what stands in front of it is shorter
    obtain ⟨a, t, rfl, ha, ht⟩ := exists_head s
    obtain ⟨others, hothers⟩ := exists_isCut_of_pieces ht
    obtain rfl | ⟨b, rfl, hb⟩ := ha
    · exact ⟨others, hothers⟩
    · obtain ⟨spans, hspans⟩ := ih b.length (by simp) b rfl
      rw [List.append_assoc, List.singleton_append, split_append_comma hb]
      exact ⟨_, hspans.append_comma hothers hb⟩

/-! ## Splitting again -/

/-- Joined parts are split into the same parts. -/
theorem split_intercalate_split (s : Text) :
    split (List.intercalate ", " (split s)) = split s := by
  obtain ⟨hparts, hclosed⟩ := isOpenPart_of_mem_split s
  rw [split_intercalate_of_dropLast fun p hp => (hclosed p hp).closed, flatMap_split hparts]

/-- **Splitting loses nothing but commas and blanks, and is stable.** The parts of any text are not
empty, neither start nor end with a blank and hold no comma outside brackets; in their order they are
the text without its commas outside brackets and the blanks next to these or at its ends; and when
they are joined, they are split again into the same parts. -/
theorem split_lossless (s : Text) :
    (∀ p ∈ split s, p ≠ [] ∧ (∀ c ∈ p.head?, Text.isBlank c = false) ∧
      (∀ c ∈ p.getLast?, Text.isBlank c = false) ∧ ∀ place, ¬ IsSeparator p place) ∧
    (∃ spans, IsCut s (split s) spans) ∧
    split (List.intercalate ", " (split s)) = split s := by
  refine ⟨fun p hp => ?_, exists_isCut s, split_intercalate_split s⟩
  have hpart := (isOpenPart_of_mem_split s).1 p hp
  obtain ⟨hhead, hlast⟩ := Text.strip_eq_self_iff.mp hpart.strip_eq
  exact ⟨hpart.ne_nil, hhead, hlast, not_isSeparator_of_pieces hpart.pieces_eq⟩

/-- A closing bracket too many does not count, an empty part is left out, and brackets that stay open
belong to the last part. -/
example : split ") a ,, b:is(p, q)\t,c[d, e " = [(") a" : Text), "b:is(p, q)", "c[d, e"] := by
  decide +kernel

end ThemedCss.Selector
