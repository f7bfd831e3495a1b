import ThemedCss.Proofs.Session.Bare
import ThemedCss.Proofs.Variable.Inline

/-!
# Inline references that a session answers

The reference to a leaf that a caller gets back is read again when its styles are counted and
shortened. Whether it is recognised there depends on the code points of its name alone.

* `reference_ne_nil`: a path of parts that are not empty has a name;
* **`inline_references_recognised`**: inline references with names that can be read are counted once
  wherever they stand, and lose their fallbacks when the root holds these; nothing ever comes of the
  others.
-/

namespace ThemedCss.Session

open Variable

theorem reference_ne_nil {path : List Text} (hpath : path ≠ []) (h : ∀ part ∈ path, part ≠ []) :
    reference path ≠ [] := by
  obtain ⟨part, path, rfl⟩ := List.exists_cons_of_ne_nil hpath
  have hpart := h part List.mem_cons_self
  cases path with
  | nil => rwa [reference, List.intercalate_singleton]
  | cons next path =>
    rw [reference, List.intercalate_cons_cons, List.append_assoc]
    exact List.append_ne_nil_of_left_ne_nil hpart _

theorem path_ne_nil_of_mem_leaves {config : Config} {call : Call} {l : Leaf}
    (h : l ∈ call.leaves config) : l.path ≠ [] := by
  cases call with
  | createTheme values name => exact path_ne_nil_of_mem_leavesOf h
  | createVars values name => exact path_ne_nil_of_mem_leavesOf h
  | _ => cases h

/-- **Inline references are recognised exactly when their names can be read.** Each reference that a
call answers is that of a leaf. Where it has the leaf's text behind it, the parts of the path are
not empty, and the text has balanced parentheses and no blanks at its ends: when the name is made of
letters, digits, hyphens and underscores, the reference is recognised wherever it stands; otherwise
no text ever counts a use behind the name, and none is shortened on its account. -/
theorem inline_references_recognised (s : Session) {call : Call} {m : ReferenceTree}
    (h : (s.step call).2 = .ok (.references m)) {text : Text} (htext : text ∈ m.texts) :
    ∃ l ∈ call.leaves s.config, l.Answers (s.step call).1.registry.store text ∧
      (text = inlineReference (reference l.path) l.text → (∀ part ∈ l.path, part ≠ []) →
        IsBalanced l.text → Text.strip l.text = l.text →
        ((∀ c ∈ reference l.path, isNameChar c = true) →
          IsRecognised text (reference l.path) l.text) ∧
        ((∃ c ∈ reference l.path, isNameChar c = false) → IsUnread (reference l.path))) := by
  obtain ⟨l, hl, hanswers⟩ := answers_of_step h htext
  refine ⟨l, hl, hanswers, ?_⟩
  rintro rfl hparts hbalanced hstrip
  have hne := reference_ne_nil (path_ne_nil_of_mem_leaves hl) hparts
  refine ⟨fun hname => isRecognised_inline hne hname hbalanced hstrip, ?_⟩
  rintro ⟨c, hc, hbeyond⟩
  refine isUnread_of_not_isNameChar fun hname => ?_
  rw [hname c hc] at hbeyond
  cases hbeyond

/-- A gap, and a size with a name beyond the letters that are read. -/
def sizeCall : Call :=
  .createVars (.map [(.text "gap", .scalar (.text "1px")), (.text "größe", .scalar (.text "1rem"))])
    (.scalar (.text ""))

/-- The references that are answered for them. -/
def sizeReferences : ReferenceTree :=
  .level [("gap", .reference "var(--gap, 1px)"), ("größe", .reference "var(--größe, 1rem)")]

theorem inline_references_recognised_sizes :
    ((start {}).step sizeCall).2 = .ok (.references sizeReferences) ∧
    ("var(--gap, 1px)" : Text) ∈ sizeReferences.texts ∧
    ("var(--größe, 1rem)" : Text) ∈ sizeReferences.texts ∧
    IsRecognised "var(--gap, 1px)" "gap" "1px" ∧ IsUnread "größe" := by
  have hreply : ((start {}).step sizeCall).2 = .ok (.references sizeReferences) := rfl
  have hleaves : sizeCall.leaves (start {}).config =
      [⟨none, ["gap"], "1px"⟩, ⟨none, ["größe"], "1rem"⟩] := rfl
  have hgap : ("var(--gap, 1px)" : Text) ∈ sizeReferences.texts := by decide
  have hsize : ("var(--größe, 1rem)" : Text) ∈ sizeReferences.texts := by decide
  refine ⟨hreply, hgap, hsize, ?_, ?_⟩
  · obtain ⟨l, hl, hanswers, hrecognised⟩ := inline_references_recognised (start {}) hreply hgap
    rw [hleaves] at hl
    rcases List.mem_cons.mp hl with rfl | hl
    · have hname : ∀ c ∈ reference ["gap"], isNameChar c = true :=
        List.all_eq_true.mp (by decide)
      exact (hrecognised rfl (by decide) (by decide) (by decide)).1 hname
    · obtain rfl := List.mem_singleton.mp hl
      rcases hanswers with hanswers | ⟨hanswers, -⟩
      all_goals exact absurd hanswers (by decide)
  · obtain ⟨l, hl, hanswers, hrecognised⟩ := inline_references_recognised (start {}) hreply hsize
    rw [hleaves] at hl
    rcases List.mem_cons.mp hl with rfl | hl
    · rcases hanswers with hanswers | ⟨hanswers, -⟩
      all_goals exact absurd hanswers (by decide)
    · obtain rfl := List.mem_singleton.mp hl
      have hname : ∃ c ∈ reference ["größe"], isNameChar c = false := ⟨'ö', by decide, by decide⟩
      exact (hrecognised rfl (by decide) (by decide) (by decide)).2 hname

/-- **An inline reference may go unread**: the one that a call answers for the second leaf is not
recognised, though the leaf has a path without empty parts and a text with balanced parentheses and
no blanks at its ends. -/
theorem inline_reference_unread :
    ((start {}).step sizeCall).2 = .ok (.references sizeReferences) ∧
    (⟨none, ["größe"], "1rem"⟩ : Leaf) ∈ sizeCall.leaves {} ∧
    (∀ part ∈ (["größe"] : List Text), part ≠ []) ∧
    IsBalanced "1rem" ∧ Text.strip "1rem" = ("1rem" : Text) ∧
    inlineReference (reference ["größe"]) "1rem" ∈ sizeReferences.texts ∧
    ¬ IsRecognised (inlineReference (reference ["größe"]) "1rem") (reference ["größe"]) "1rem" := by
  refine ⟨rfl, List.mem_cons_of_mem _ List.mem_cons_self, by decide, by decide, by decide,
    by decide, ?_⟩
  intro hrecognised
  have hclosed : IsClosed ("var(--größe, 1rem)" : Text) := by decide +kernel
  have hnone : references ("var(--größe, 1rem)" : Text) = [] := by decide +kernel
  obtain ⟨hscan, -⟩ := hrecognised [] [] hclosed (by
    intro ref href
    rw [show ([] ++ inlineReference (reference ["größe"]) "1rem" ++ [] : Text) =
      "var(--größe, 1rem)" from rfl, hnone] at href
    cases href)
  have hcount := congrArg (·.table.entries.length) (hscan {})
  exact absurd hcount (by decide +kernel)

end ThemedCss.Session
