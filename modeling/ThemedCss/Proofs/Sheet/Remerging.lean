import Mathlib.Algebra.Order.BigOperators.Group.List
import Mathlib.Algebra.Order.Ring.Nat
import ThemedCss.Proofs.Sheet.Assembled

/-!
# Merging twice

Merging has nothing left to do on a style sheet that it has merged: the header of a merged rule is a
list of selectors, which is not compared, and the rules it has kept have one selector for each body. A
merged rule repeats the selectors of the rules it stands for, and their body only once, so that a style
sheet does not get longer.

* `areTidy_mergeBlocks`, **`mergeBlocks_mergeBlocks`**: merged blocks, merged again;
* `size`, `length_writeBlocks`: the length of a style sheet, block by block;
* `size_joined_le`: a merged rule is no longer than the rules that it stands for;
* **`sum_size_leftFrom_le`**: what merging leaves behind some blocks is no longer than the blocks;
* **`merge_merge_assemble`**: an assembled style sheet, merged twice.
-/

namespace ThemedCss.Sheet

open Layout

variable {o : Style.Options} {b c : Layout} {bs all before : List Layout} {body : List Text}

/-! ## Merged blocks -/

theorem leftOf_cases (all before : List Layout) (b : Layout) :
    (leftOf all before b = none ∧ ∃ body, b.body? = some body ∧ 2 ≤ (sharers body all).length ∧
      ∃ q ∈ before, q.body? = some body) ∨
    (leftOf all before b = some b ∧ ∀ body, b.body? = some body → (sharers body all).length < 2) ∨
    ∃ body, leftOf all before b = some (.rule (List.intercalate ", " (sharers body all)) body) ∧
      b.body? = some body ∧ 2 ≤ (sharers body all).length ∧ ∀ q ∈ before, q.body? ≠ some body := by
  unfold leftOf
  cases b.body? with
  | none => exact .inr (.inl ⟨rfl, nofun⟩)
  | some body =>
    dsimp only
    by_cases hfew : (sharers body all).length < 2
    · refine .inr (.inl ⟨if_pos hfew, fun own hown => ?_⟩)
      rwa [← Option.some.inj hown]
    have hmany : 2 ≤ (sharers body all).length := by omega
    rw [if_neg hfew]
    by_cases hseen : ∃ q ∈ before, q.body? = some body
    · exact .inl ⟨if_pos (by simpa using hseen), body, rfl, hmany, hseen⟩
    · have hfirst : ∀ q ∈ before, q.body? ≠ some body := fun q hq h => hseen ⟨q, hq, h⟩
      exact .inr (.inr ⟨body, if_neg (by simpa using hfirst), rfl, hmany, hfirst⟩)

theorem exists_leftOf_of_mem_leftFrom {p : Option Layout} (h : p ∈ leftFrom all before bs) :
    ∃ b ∈ bs, ∃ seen, leftOf all seen b = p := by
  induction bs generalizing before with
  | nil => cases h
  | cons b bs ih =>
    rcases List.mem_cons.mp h with rfl | h
    · exact ⟨b, List.mem_cons_self, before, rfl⟩
    · obtain ⟨c, hc, hleft⟩ := ih h
      exact ⟨c, List.mem_cons_of_mem b hc, hleft⟩

theorem exists_leftOf_of_mem_mergeBlocks (h : c ∈ mergeBlocks bs) :
    ∃ b ∈ bs, ∃ before, leftOf bs before b = some c :=
  exists_leftOf_of_mem_leftFrom (List.reduceOption_mem_iff.mp h)

theorem areTidy_of_forall (h : ∀ b ∈ bs, AreTidy [b]) : AreTidy bs := by
  induction bs with
  | nil => exact .nil
  | cons b bs ih =>
    exact (h b List.mem_cons_self).append (ih fun c hc => h c (List.mem_cons_of_mem b hc))

theorem areTidy_mergeBlocks (h : AreTidy bs) : AreTidy (mergeBlocks bs) := by
  refine areTidy_of_forall fun c hc => ?_
  obtain ⟨b, hb, before, hleft⟩ := exists_leftOf_of_mem_mergeBlocks hc
  exact areTidy_of_leftOf h hb hleft

/-! ## Merging has nothing left to do -/

theorem eraseDups_concat (ts : List Text) (t : Text) :
    (ts ++ [t]).eraseDups = ts.eraseDups ++ if t ∈ ts then [] else [t] := by
  rw [List.eraseDups_append]
  by_cases ht : t ∈ ts <;> simp [List.removeAll, List.eraseDups_cons, ht]

theorem nodup_eraseDups (ts : List Text) : ts.eraseDups.Nodup := by
  induction ts using List.reverseRecOn with
  | nil => exact List.nodup_nil
  | append_singleton ts t ih =>
    rw [eraseDups_concat]
    split
    · simpa using ih
    · exact ih.append (List.nodup_singleton t) (by simpa)

theorem eraseDups_sublist (ts : List Text) : ts.eraseDups.Sublist ts := by
  induction ts using List.reverseRecOn with
  | nil => exact List.Sublist.slnil
  | append_singleton ts t ih =>
    rw [eraseDups_concat]
    refine ih.append ?_
    split
    · exact List.nil_sublist _
    · exact List.Sublist.refl _

theorem comma_mem_joined {ts : List Text} (h : 1 < ts.length) : ',' ∈ List.intercalate ", " ts := by
  match ts, h with
  | t :: u :: ts, _ =>
    rw [List.intercalate_cons_cons]
    simp

theorem mem_of_mem_mergeBlocks (hc : c ∈ mergeBlocks bs) (hbody : c.body? = some body) :
    c ∈ bs ∧ (sharers body bs).length < 2 := by
  obtain ⟨b, hb, before, hleft⟩ := exists_leftOf_of_mem_mergeBlocks hc
  rcases leftOf_cases bs before b with ⟨hnone, -⟩ | ⟨hkept, hfew⟩ | ⟨own, hjoined, -, hmany, -⟩
  · rw [hnone] at hleft
    cases hleft
  · obtain rfl := Option.some.inj (hkept.symm.trans hleft)
    exact ⟨hb, hfew body hbody⟩
  · obtain rfl := Option.some.inj (hjoined.symm.trans hleft)
    exact absurd (comma_mem_joined hmany) (isSelector_of_body? hbody).2

/-- **No two selectors share a body after merging.** -/
theorem length_sharers_mergeBlocks (bs : List Layout) (body : List Text) :
    (sharers body (mergeBlocks bs)).length < 2 := by
  by_cases hfew : (sharers body bs).length < 2
  · refine lt_of_le_of_lt (List.Nodup.length_le_of_subset (nodup_eraseDups _) fun t ht => ?_) hfew
    simp only [sharers, List.mem_eraseDups, List.mem_map, List.mem_filter] at ht ⊢
    obtain ⟨c, ⟨hc, hbody⟩, rfl⟩ := ht
    exact ⟨c, ⟨(mem_of_mem_mergeBlocks hc (of_decide_eq_true hbody)).1, hbody⟩, rfl⟩
  · have hnone : (mergeBlocks bs).filter (fun c => c.body? = some body) = [] := by
      refine List.filter_eq_nil_iff.mpr fun c hc hbody => hfew ?_
      exact (mem_of_mem_mergeBlocks hc (of_decide_eq_true hbody)).2
    simp [sharers, hnone]

/-- **Merged blocks stay as they are when they are merged again.** -/
theorem mergeBlocks_mergeBlocks (bs : List Layout) : mergeBlocks (mergeBlocks bs) = mergeBlocks bs :=
  mergeBlocks_eq_self (length_sharers_mergeBlocks bs)

/-! ## Lengths -/

/-- The length of a block and the gap behind it. -/
def size (o : Style.Options) (b : Layout) : Nat := (b.write o).length + 2

theorem length_intercalate_add (gap : Text) {ts : List Text} (hne : ts ≠ []) :
    (List.intercalate gap ts).length + gap.length = (ts.map fun t => t.length + gap.length).sum := by
  induction ts with
  | nil => exact absurd rfl hne
  | cons t ts ih =>
    by_cases hts : ts = []
    · simp [hts]
    · have hrest := ih hts
      rw [List.intercalate_cons_of_ne_nil hts]
      simp only [List.length_append, List.map_cons, List.sum_cons]
      omega

theorem length_writeBlocks (hne : bs ≠ []) : (writeBlocks o bs).length + 1 = (bs.map (size o)).sum := by
  have hgap : ("\n\n" : Text).length = 2 := rfl
  have hblocks := length_intercalate_add "\n\n" (mt List.map_eq_nil_iff.mp hne :
    bs.map (Layout.write o) ≠ [])
  rw [hgap, List.map_map] at hblocks
  unfold writeBlocks Style.joinBlocks
  rw [List.length_append, List.length_singleton]
  exact hblocks

theorem size_rule {header : Text} (hne : header ≠ []) (declarations : List Text) :
    size o (.rule header declarations) = header.length + (size o (.rule [] declarations) + 1) := by
  have hwrite : ∀ h : Text, ((Layout.rule h declarations).write o).length + 1 =
      (Block.opening h).length + 1 + ((declarations ++ [Block.closing]).map fun l => l.length + 1).sum :=
    fun h => length_intercalate_add "\n" (List.cons_ne_nil _ _)
  have hheader := hwrite header
  have hnil := hwrite []
  have hopening : (Block.opening header).length = header.length + 2 := by
    rw [Block.opening, if_neg hne, List.length_append]
    rfl
  have hempty : (Block.opening []).length = 1 := rfl
  unfold size
  omega

theorem length_strip_le (t : Text) : (Text.strip t).length ≤ t.length := by
  obtain ⟨before, after, ht, -, -⟩ := Text.exists_eq_append_strip t
  have hlength := congrArg List.length ht
  rw [List.length_append, List.length_append] at hlength
  omega

theorem exists_rule_of_body? (h : c.body? = some body) : ∃ header, c = .rule header body := by
  cases c with
  | group header inner => cases h
  | rule header declarations =>
    rw [Layout.body?, Option.ite_none_right_eq_some] at h
    exact ⟨header, by rw [Option.some.inj h.2]⟩

theorem ne_nil_of_isSelector {header : Text} (h : IsSelector header) : header ≠ [] := by
  rintro rfl
  exact h

theorem sum_header_add_le {rules : List Layout} (hne : rules ≠ [])
    (hrules : ∀ c ∈ rules, c.body? = some body) :
    ((rules.map fun c => Text.strip c.header).map fun t => t.length + 2).sum +
      (size o (.rule [] body) + 1) ≤ (rules.map (size o)).sum + 2 := by
  have hone : ∀ c ∈ rules,
      (Text.strip c.header).length + (size o (.rule [] body) + 1) ≤ size o c := by
    intro c hc
    have hsel := (isSelector_of_body? (hrules c hc)).1
    have hstrip := length_strip_le c.header
    obtain ⟨header, rfl⟩ := exists_rule_of_body? (hrules c hc)
    have hsize := size_rule (o := o) (ne_nil_of_isSelector hsel) body
    simp only [Layout.header] at hsel hstrip hsize ⊢
    omega
  have hbody : 2 ≤ size o (.rule [] body) := by
    unfold size
    omega
  clear hrules
  induction rules with
  | nil => exact absurd rfl hne
  | cons c rules ih =>
    have hc := hone c List.mem_cons_self
    simp only [List.map_cons, List.sum_cons]
    by_cases hnil : rules = []
    · simp [hnil]
      omega
    · have hrest := ih hnil fun d hd => hone d (List.mem_cons_of_mem c hd)
      omega

/-- **A merged rule is no longer than the rules that it stands for.** -/
theorem size_joined_le (hmany : 2 ≤ (sharers body bs).length) :
    size o (.rule (List.intercalate ", " (sharers body bs)) body) ≤
      ((bs.filter fun b => b.body? = some body).map (size o)).sum := by
  have hne : sharers body bs ≠ [] := by
    rintro hnil
    simp [hnil] at hmany
  have hrules : ∀ c ∈ bs.filter (fun b => b.body? = some body), c.body? = some body :=
    fun c hc => of_decide_eq_true (List.mem_filter.mp hc).2
  have hsize := size_rule (o := o) (ne_nil_of_isSelector (isSelector_joined hmany)) body
  have hjoined := length_intercalate_add ", " hne
  have hgap : (", " : Text).length = 2 := rfl
  have honce := ((eraseDups_sublist ((bs.filter fun b => b.body? = some body).map
    fun b => Text.strip b.header)).map fun t => t.length + 2).sum_le_sum fun _ _ => Nat.zero_le _
  rw [hgap] at hjoined
  have hsum := sum_header_add_le (o := o) (fun hnil => hne (by simp [sharers, hnil])) hrules
  unfold sharers at hsize hjoined ⊢
  omega

/-! ## What merging leaves -/

theorem leftOf_eq_none_iff : leftOf all before b = none ↔
    ∃ body, b.body? = some body ∧ 2 ≤ (sharers body all).length ∧
      ∃ q ∈ before, q.body? = some body := by
  rcases leftOf_cases all before b with ⟨hleft, h⟩ | ⟨hleft, hfew⟩ | ⟨body, hleft, hb, -, hfirst⟩
  · exact iff_of_true hleft h
  · refine iff_of_false (by rw [hleft]; simp) ?_
    rintro ⟨body, hb, hmany, -⟩
    exact absurd (hfew body hb) (by omega)
  · refine iff_of_false (by rw [hleft]; simp) ?_
    rintro ⟨own, hown, -, q, hq, hqown⟩
    exact hfirst q hq (by rw [hqown, ← hown, hb])

/-- The length of a block, unless it is taken out behind some others. -/
def sizeLeft (o : Style.Options) (all before : List Layout) (b : Layout) : Nat :=
  if leftOf all before b = none then 0 else size o b

theorem sizeLeft_concat_le (all before : List Layout) (b c : Layout) :
    sizeLeft o all (before ++ [b]) c ≤ sizeLeft o all before c := by
  unfold sizeLeft
  by_cases hc : leftOf all before c = none
  · have hnext : leftOf all (before ++ [b]) c = none := by
      obtain ⟨body, hbody, hmany, q, hq, hqbody⟩ := leftOf_eq_none_iff.mp hc
      exact leftOf_eq_none_iff.mpr
        ⟨body, hbody, hmany, q, List.mem_append_left [b] hq, hqbody⟩
    simp [hc, hnext]
  · rw [if_neg hc]
    split <;> omega

theorem sizeLeft_concat_add_le (hmany : 2 ≤ (sharers body all).length)
    (hfirst : ∀ q ∈ before, q.body? ≠ some body) (hb : b.body? = some body) (c : Layout) :
    sizeLeft o all (before ++ [b]) c + (if c.body? = some body then size o c else 0) ≤
      sizeLeft o all before c := by
  by_cases hc : c.body? = some body
  · have hleft : leftOf all before c ≠ none := by
      intro hnone
      obtain ⟨own, hown, -, q, hq, hqbody⟩ := leftOf_eq_none_iff.mp hnone
      exact hfirst q hq (by rw [hqbody, ← hown, hc])
    have hnext : leftOf all (before ++ [b]) c = none :=
      leftOf_eq_none_iff.mpr ⟨body, hc, hmany, b, by simp, hb⟩
    simp [sizeLeft, hc, hleft, hnext]
  · simpa [hc] using sizeLeft_concat_le all before b c

theorem sum_map_filter (p : Layout → Prop) [DecidablePred p] (f : Layout → Nat) (bs : List Layout) :
    (bs.map fun b => if p b then f b else 0).sum = ((bs.filter (p ·)).map f).sum := by
  rw [List.sum_map_ite]
  simp

/-- **The rules with a shared body pay for the merged rule**: behind the first one nothing else is left
of them. -/
theorem size_joined_add_le (hall : all = before ++ b :: bs) (hb : b.body? = some body)
    (hmany : 2 ≤ (sharers body all).length) (hfirst : ∀ q ∈ before, q.body? ≠ some body) :
    size o (.rule (List.intercalate ", " (sharers body all)) body) +
        (bs.map (sizeLeft o all (before ++ [b]))).sum ≤
      size o b + (bs.map (sizeLeft o all before)).sum := by
  have hjoined := size_joined_le (o := o) hmany
  have hrules : (all.filter fun q => q.body? = some body) =
      b :: bs.filter fun q => q.body? = some body := by
    have hbefore : before.filter (fun q => q.body? = some body) = [] :=
      List.filter_eq_nil_iff.mpr fun q hq => by simpa using hfirst q hq
    rw [hall, List.filter_append, hbefore]
    simp [hb]
  have hpaid : (bs.map (sizeLeft o all (before ++ [b]))).sum +
      ((bs.filter fun q => q.body? = some body).map (size o)).sum ≤
        (bs.map (sizeLeft o all before)).sum := by
    rw [← sum_map_filter, ← List.sum_map_add]
    exact List.sum_le_sum fun c _ => sizeLeft_concat_add_le hmany hfirst hb c
  rw [hrules, List.map_cons, List.sum_cons] at hjoined
  omega

/-- **What merging leaves behind some blocks is no longer than the blocks.** -/
theorem sum_size_leftFrom_le (hall : all = before ++ bs) :
    ((leftFrom all before bs).reduceOption.map (size o)).sum ≤
      (bs.map (sizeLeft o all before)).sum := by
  induction bs generalizing before with
  | nil => exact Nat.le_refl 0
  | cons b bs ih =>
    have hall' : all = (before ++ [b]) ++ bs := by simp [hall]
    have hrest := ih hall'
    have hnext : (bs.map (sizeLeft o all (before ++ [b]))).sum ≤
        (bs.map (sizeLeft o all before)).sum :=
      List.sum_le_sum fun c _ => sizeLeft_concat_le all before b c
    rw [leftFrom, List.map_cons, List.sum_cons]
    rcases leftOf_cases all before b with ⟨hleft, -⟩ | ⟨hleft, -⟩ | ⟨body, hleft, hb, hmany, hfirst⟩
    · rw [hleft, List.reduceOption_cons_of_none]
      omega
    · have hsize : sizeLeft o all before b = size o b := by simp [sizeLeft, hleft]
      rw [hleft, List.reduceOption_cons_of_some, List.map_cons, List.sum_cons]
      omega
    · have hsize : sizeLeft o all before b = size o b := by simp [sizeLeft, hleft]
      have hpaid := size_joined_add_le (o := o) hall hb hmany hfirst
      rw [hleft, List.reduceOption_cons_of_some, List.map_cons, List.sum_cons]
      omega

/-- **Merging does not make a style sheet longer.** -/
theorem length_writeBlocks_mergeBlocks (o : Style.Options) (bs : List Layout) :
    (writeBlocks o (mergeBlocks bs)).length ≤ (writeBlocks o bs).length := by
  by_cases hne : bs = []
  · rw [hne]
    exact Nat.le_refl _
  have hall : (bs.map (sizeLeft o bs [])).sum ≤ (bs.map (size o)).sum :=
    List.sum_le_sum fun b _ => by
      unfold sizeLeft
      split <;> omega
  have hleft := sum_size_leftFrom_le (o := o) (List.nil_append bs).symm
  have hbefore := length_writeBlocks (o := o) hne
  have hafter := length_writeBlocks (o := o) (mergeBlocks_ne_nil hne)
  unfold mergeBlocks at hafter ⊢
  omega

/-! ## Assembled style sheets -/

theorem assemble_eq_sheetBlocks {o : Options} {s : Store} {trees : List Tree} {chunks : List Text}
    (hchunks : trees.map (Tree.compile o.indent) = chunks.map .ok)
    (hinline : ∀ t ∈ textsIn (sheetBlocks o s trees), IsInline t) :
    assemble o s chunks = writeBlocks o.style (sheetBlocks o s trees) := by
  refine assemble_eq_writeBlocks (fun t ht => hinline t ?_) ?_
  · rw [sheetBlocks, textsIn_append]
    exact List.mem_append_left _ ht
  · split
    · exact renders_chunks hchunks
    · exact .nil

/-- **An assembled style sheet is merged once and for all**: merging it again changes nothing, and it has
not become longer. -/
theorem merge_merge_assemble {o : Options} {s : Store} (hindent : IsIndentation o.indent)
    {trees : List Tree} {chunks : List Text}
    (hchunks : trees.map (Tree.compile o.indent) = chunks.map .ok)
    (hinline : ∀ t ∈ textsIn (sheetBlocks o s trees), IsInline t) :
    merge (merge (assemble o s chunks)) = merge (assemble o s chunks) ∧
      (merge (assemble o s chunks)).length ≤ (assemble o s chunks).length := by
  have htidy : AreTidy (sheetBlocks o s trees) := ⟨areProper_sheetBlocks o s trees, hinline⟩
  rw [assemble_eq_sheetBlocks hchunks hinline, merge_writeBlocks hindent htidy,
    merge_writeBlocks hindent (areTidy_mergeBlocks htidy), mergeBlocks_mergeBlocks]
  exact ⟨rfl, length_writeBlocks_mergeBlocks o.style _⟩

/-- The rules of two bodies by turns, with one selector again and a list of selectors among them. -/
def crossedTree : Tree :=
  let red : Style := .rules [(.text "color", .property (.scalar (.text "red")))]
  let blue : Style := .rules [(.text "color", .property (.scalar (.text "blue")))]
  { style := .rules [(.text "a", red), (.text "b", blue), (.text "a, b", red), (.text "c", red),
      (.text "d", blue), (.text " a", red)] }

theorem merge_merge_assemble_crossed :
    let s : Store := { dark := OrderedMap.empty.insert "--gap" "1px" }
    let chunk : Text := Text.unlines ["a \x7b", "  color: red;", "\x7d", "",
      "b \x7b", "  color: blue;", "\x7d", "", "a, b \x7b", "  color: red;", "\x7d", "",
      "c \x7b", "  color: red;", "\x7d", "", "d \x7b", "  color: blue;", "\x7d", "",
      " a \x7b", "  color: red;", "\x7d"]
    [crossedTree].map (Tree.compile "  ") = [chunk].map .ok ∧
      merge (merge (assemble {} s [chunk])) = merge (assemble {} s [chunk]) ∧
      (merge (assemble {} s [chunk])).length < (assemble {} s [chunk]).length := by
  intro s chunk
  have hchunks : [crossedTree].map (Tree.compile "  ") = [chunk].map .ok := by decide +kernel
  have hindent : IsIndentation "  " :=
    ⟨by decide, fun c hc => .inl (List.eq_of_mem_replicate (n := 2) hc)⟩
  have htwice := merge_merge_assemble (o := {}) (s := s) hindent hchunks (by decide +kernel)
  exact ⟨hchunks, htwice.1, lt_of_le_of_ne htwice.2 (by decide +kernel)⟩

end ThemedCss.Sheet
