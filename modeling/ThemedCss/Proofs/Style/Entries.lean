import ThemedCss.Proofs.Style.Compiled

/-!
# Levels entry by entry

The blocks of a level are those of its entries, one after the other; the properties come first.

* `blocks_append`, `layouts_append`: the blocks of a level in two parts;
* `compile_congr_entry`: an entry may be replaced by another with the same blocks;
* `compile_single`: a level with one entry that is no property;
* **`compile_append`**: a level without properties is compiled entry by entry.
-/

namespace ThemedCss.Style

variable {o : Options} {parent : Text} {e₁ e₂ : List (Scalar × Style)}

theorem blocks_append (o : Options) (parent : Text) (e₁ e₂ : List (Scalar × Style)) :
    blocks o parent (e₁ ++ e₂) = do
      let b₁ ← blocks o parent e₁
      let b₂ ← blocks o parent e₂
      return b₁ ++ b₂ := by
  induction e₁ with
  | nil =>
    rw [List.nil_append, blocks]
    cases blocks o parent e₂ <;> rfl
  | cons entry e₁ ih =>
    obtain ⟨k, style⟩ := entry
    rw [List.cons_append, blocks, blocks, ih]
    cases block o k.display parent style with
    | error f => rfl
    | ok css =>
      cases blocks o parent e₁ with
      | error f => rfl
      | ok b₁ =>
        cases blocks o parent e₂ with
        | error f => rfl
        | ok b₂ =>
          change Except.ok (if css = [] then b₁ ++ b₂ else css :: (b₁ ++ b₂)) =
            Except.ok ((if css = [] then b₁ else css :: b₁) ++ b₂)
          split <;> rfl

theorem layouts_append (o : Options) (parent : Text) (e₁ e₂ : List (Scalar × Style)) :
    layouts o parent (e₁ ++ e₂) = layouts o parent e₁ ++ layouts o parent e₂ := by
  induction e₁ with
  | nil => rfl
  | cons entry e₁ ih =>
    obtain ⟨k, style⟩ := entry
    rw [List.cons_append, layouts, layouts, ih, List.append_assoc]

theorem declarations_eq_nil (h : ∀ entry ∈ e₁, entry.2.isProperty = false) :
    declarations o e₁ = [] := by
  refine List.filterMap_eq_nil_iff.mpr ?_
  rintro ⟨k, style⟩ hentry
  cases style with
  | property v => cases h _ hentry
  | rules _ => rfl
  | nested _ _ => rfl

theorem compile_of_not_isProperty (h : ∀ entry ∈ e₁, entry.2.isProperty = false) :
    compile o parent (.rules e₁) = joinBlocks <$> blocks o parent e₁ := by
  rw [compile, declarations_eq_nil h]
  rfl

/-- **A level without properties is compiled entry by entry**, and fails at the first entry that
does. -/
theorem compile_append (o : Options) (parent : Text)
    (h₁ : ∀ entry ∈ e₁, entry.2.isProperty = false)
    (h₂ : ∀ entry ∈ e₂, entry.2.isProperty = false) :
    compile o parent (.rules (e₁ ++ e₂)) = do
      let css₁ ← compile o parent (.rules e₁)
      let css₂ ← compile o parent (.rules e₂)
      return joinBlocks ([css₁, css₂].filter (· ≠ [])) := by
  have h : ∀ entry ∈ e₁ ++ e₂, entry.2.isProperty = false := List.forall_mem_append.mpr ⟨h₁, h₂⟩
  have hblocks := blocks_append o parent e₁ e₂
  rw [compile_of_not_isProperty h, compile_of_not_isProperty h₁, compile_of_not_isProperty h₂,
    hblocks]
  cases hb₁ : blocks o parent e₁ with
  | error f => rfl
  | ok b₁ =>
    cases hb₂ : blocks o parent e₂ with
    | error f => rfl
    | ok b₂ =>
      rw [hb₁, hb₂] at hblocks
      have hlayouts := (renders_blocks o parent (e₁ ++ e₂) hblocks).joinBlocks_eq
      rw [layouts_append] at hlayouts
      -- the blocks of both levels, as one text each
      have hboth := (Renders.nil (o := o).cons (layouts o parent e₂)).cons (layouts o parent e₁)
      rw [List.append_nil, ← (renders_blocks o parent e₁ hb₁).joinBlocks_eq,
        ← (renders_blocks o parent e₂ hb₂).joinBlocks_eq] at hboth
      refine congrArg Except.ok ((hlayouts.trans hboth.joinBlocks_eq.symm).trans ?_)
      rw [List.filter_cons, List.filter_cons, List.filter_nil]
      simp only [ne_eq, decide_not, Bool.not_eq_true', decide_eq_false_iff_not, ite_not]

/-! ## Single entries -/

theorem declarations_cons (k : Scalar) {style : Style} (h : style.isProperty = false) :
    declarations o ((k, style) :: e₁) = declarations o e₁ := by
  cases style with
  | property v => cases h
  | rules _ => rfl
  | nested _ _ => rfl

theorem declarations_append (o : Options) (e₁ e₂ : List (Scalar × Style)) :
    declarations o (e₁ ++ e₂) = declarations o e₁ ++ declarations o e₂ :=
  List.filterMap_append

/-- An entry that is no property may be replaced by another one with the same blocks. -/
theorem compile_congr_entry {k k' : Scalar} {style style' : Style}
    (hstyle : style.isProperty = false) (hstyle' : style'.isProperty = false)
    (h : block o k.display parent style = block o k'.display parent style')
    (before after : List (Scalar × Style)) :
    compile o parent (.rules (before ++ (k, style) :: after)) =
      compile o parent (.rules (before ++ (k', style') :: after)) := by
  have hblocks : blocks o parent ((k, style) :: after) = blocks o parent ((k', style') :: after) := by
    rw [blocks, blocks, h]
  rw [compile, compile, blocks_append, blocks_append, declarations_append, declarations_append,
    declarations_cons k hstyle, declarations_cons k' hstyle', hblocks]

theorem compile_single (o : Options) (parent : Text) (k : Scalar) {style : Style}
    (h : style.isProperty = false) :
    compile o parent (.rules [(k, style)]) = block o k.display parent style := by
  rw [compile_of_not_isProperty (by simpa using h), blocks, blocks]
  cases block o k.display parent style with
  | error f => rfl
  | ok css =>
    change Except.ok (joinBlocks (if css = [] then [] else [css])) = Except.ok css
    split
    · rename_i hcss
      rw [hcss]
      rfl
    · rw [joinBlocks_singleton]

end ThemedCss.Style
