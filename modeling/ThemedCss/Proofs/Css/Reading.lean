import ThemedCss.Proofs.Text.Lines
import ThemedCss.Proofs.Text.Strip

/-!
# Reading blocks

A style sheet is read code point by code point: an opening brace ends a header, a semicolon ends a
declaration and a closing brace ends the innermost block. Blanks around headers and declarations do
not matter.

* `Css.Node`, `Css.nodes?`: what a text is read as;
* `Css.Balanced`: every closing brace closes an opening one;
* `Css.Item`, `Css.items`: the declarations, with the headers of the blocks around them;
* `Css.AreFlat`: no block is empty or holds both declarations and blocks;
* `Css.Reads`: what some lines add to what has been read;
* **`balanced_of_nodes?`**: only balanced texts are read.
-/

namespace ThemedCss.Css

/-! ## Nodes -/

/-- What stands in a style sheet. -/
inductive Node
  | declaration (text : Text)
  | block (header : Text) (children : List Node)

/-- A declaration, below the headers of the blocks around it, with the innermost last. -/
structure Item where
  /-- The headers of the blocks around the declaration. -/
  headers : List Text
  /-- The name and the value. -/
  declaration : Text

namespace Node

/-- Whether a node is a declaration. -/
def isDeclaration : Node → Bool
  | declaration _ => true
  | block _ _ => false

mutual

/-- Whether no block in a node is empty, or holds both a declaration and a block. -/
def IsFlat : Node → Prop
  | declaration _ => True
  | block _ children =>
    children ≠ [] ∧
      ((∀ n ∈ children, n.isDeclaration = true) ∨ ∀ n ∈ children, n.isDeclaration = false) ∧
      AreFlat children

/-- Whether no block in some nodes is empty, or holds both a declaration and a block. -/
def AreFlat : List Node → Prop
  | [] => True
  | n :: ns => n.IsFlat ∧ AreFlat ns

end

mutual

/-- The declarations in a node below some headers, in order. -/
def items (headers : List Text) : Node → List Item
  | declaration text => [⟨headers, text⟩]
  | block header children => itemsAll (headers ++ [header]) children

/-- The declarations in some nodes below some headers, in order. -/
def itemsAll (headers : List Text) : List Node → List Item
  | [] => []
  | n :: ns => n.items headers ++ itemsAll headers ns

end

end Node

/-! ## Reading -/

/-- A style sheet while it is read. -/
structure Reader where
  /-- The headers of the open blocks, the innermost first, with what stands in front of each. -/
  opened : List (Text × List Node) := []
  /-- What stands in the innermost block so far. -/
  nodes : List Node := []
  /-- What has been read of a header or a declaration. -/
  token : Text := []

namespace Reader

/-- One more code point. A block that closes may not end in a declaration without semicolon. -/
def step (r : Reader) (c : Char) : Option Reader :=
  if c = '\x7b' then some ⟨(Text.strip r.token, r.nodes) :: r.opened, [], []⟩
  else if c = ';' then some ⟨r.opened, r.nodes ++ [.declaration (Text.strip r.token)], []⟩
  else if c = '\x7d' then
    match r.token, r.opened with
    | [], (header, nodes) :: opened => some ⟨opened, nodes ++ [.block header r.nodes], []⟩
    | _, _ => none
  else if r.token = [] ∧ Text.isBlank c then some r
  else some { r with token := r.token ++ [c] }

/-- The code points of a text, one after another. -/
def run (r : Reader) (t : Text) : Option Reader := t.foldlM step r

end Reader

/-- What a style sheet is read as, when all its blocks and declarations end. -/
def nodes? (css : Text) : Option (List Node) :=
  match Reader.run {} css with
  | some ⟨[], nodes, []⟩ => some nodes
  | _ => none

/-- Whether every closing brace closes an opening one in front of it, and every opening one is
closed. -/
def Balanced (css : Text) : Prop :=
  css.count '\x7b' = css.count '\x7d' ∧ ∀ t, t <+: css → t.count '\x7d' ≤ t.count '\x7b'

/-! ## Braces -/

namespace Reader

variable {r s : Reader} {t : Text}

theorem run_append (r : Reader) (t u : Text) : r.run (t ++ u) = (r.run t).bind (·.run u) :=
  List.foldlM_append

theorem run_cons (r : Reader) (c : Char) (t : Text) : r.run (c :: t) = (r.step c).bind (·.run t) :=
  rfl

theorem step_length {c : Char} (h : r.step c = some s) :
    s.opened.length + [c].count '\x7d' = r.opened.length + [c].count '\x7b' := by
  rw [step] at h
  split at h
  · rename_i hc
    cases h
    rw [hc]
    rfl
  · rename_i hopening
    split at h
    · rename_i hc
      cases h
      rw [hc]
      rfl
    · split at h
      · rename_i hc
        rw [hc]
        split at h
        · rename_i hopened
          cases h
          rw [hopened]
          rfl
        · cases h
      · rename_i hclosing
        have hcount : [c].count '\x7d' = 0 ∧ [c].count '\x7b' = 0 :=
          ⟨List.count_eq_zero.mpr (by simpa using Ne.symm hclosing),
            List.count_eq_zero.mpr (by simpa using Ne.symm hopening)⟩
        have hs : s.opened = r.opened := by
          split at h <;> cases h <;> rfl
        rw [hcount.1, hcount.2, hs]

/-- The blocks that are open are those opened less those closed. -/
theorem run_length (h : r.run t = some s) :
    s.opened.length + t.count '\x7d' = r.opened.length + t.count '\x7b' := by
  induction t generalizing r with
  | nil =>
    cases h
    rfl
  | cons c t ih =>
    rw [run_cons] at h
    obtain ⟨r', hr', hs⟩ := Option.bind_eq_some_iff.mp h
    have hstep := step_length hr'
    have hrun := ih hs
    rw [← List.singleton_append, List.count_append, List.count_append]
    omega

end Reader

/-- **Only balanced texts are read.** -/
theorem balanced_of_nodes? {css : Text} {nodes : List Node} (h : nodes? css = some nodes) :
    Balanced css := by
  obtain ⟨r, hr, hopened⟩ : ∃ r, Reader.run {} css = some r ∧ r.opened = [] := by
    rw [nodes?] at h
    split at h
    · rename_i hrun
      exact ⟨_, hrun, rfl⟩
    · cases h
  refine ⟨?_, ?_⟩
  · have := Reader.run_length hr
    rw [hopened] at this
    simpa using this.symm
  · rintro t ⟨u, rfl⟩
    rw [Reader.run_append] at hr
    obtain ⟨s, hs, _⟩ := Option.bind_eq_some_iff.mp hr
    have hlength := Reader.run_length hs
    simp only [List.length_nil, Nat.zero_add] at hlength
    omega

/-! ## Lines -/

/-- Whether a text holds no brace, no semicolon and no line feed. -/
def Plain (t : Text) : Prop := ∀ c ∈ t, c ≠ '\x7b' ∧ c ≠ '\x7d' ∧ c ≠ ';' ∧ c ≠ '\n'

instance (t : Text) : Decidable (Plain t) := List.decidableBAll _ t

theorem Plain.nil : Plain [] := fun _ hc => absurd hc List.not_mem_nil

theorem Plain.append {s t : Text} (hs : Plain s) (ht : Plain t) : Plain (s ++ t) := fun c hc =>
  (List.mem_append.mp hc).elim (hs c) (ht c)

theorem Plain.feed_not_mem {t : Text} (h : Plain t) : '\n' ∉ t := fun hc => (h _ hc).2.2.2 rfl

namespace Reader

variable {r : Reader} {t : Text}

theorem step_blank {c : Char} (hr : r.token = []) (hc : Text.isBlank c = true) :
    r.step c = some r := by
  rw [step, if_neg, if_neg, if_neg, if_pos ⟨hr, hc⟩]
  all_goals
    rintro rfl
    exact absurd hc (by decide)

theorem step_plain {c : Char} (hc : Plain [c]) (h : r.token = [] → Text.isBlank c = false) :
    r.step c = some { r with token := r.token ++ [c] } := by
  obtain ⟨hopening, hclosing, hsemicolon, _⟩ := hc c List.mem_cons_self
  rw [step, if_neg hopening, if_neg hsemicolon, if_neg hclosing, if_neg]
  rintro ⟨hr, hblank⟩
  rw [h hr] at hblank
  cases hblank

theorem run_blank (hr : r.token = []) (ht : ∀ c ∈ t, Text.isBlank c = true) : r.run t = some r := by
  induction t with
  | nil => rfl
  | cons c t ih =>
    rw [run_cons, step_blank hr (ht c List.mem_cons_self)]
    exact ih fun d hd => ht d (List.mem_cons_of_mem c hd)

theorem run_plain_of_token (hr : r.token ≠ []) (ht : Plain t) :
    r.run t = some { r with token := r.token ++ t } := by
  induction t generalizing r with
  | nil =>
    rw [List.append_nil]
    rfl
  | cons c t ih =>
    have hc : Plain [c] := fun d hd => ht d (List.mem_cons.mpr (.inl (List.mem_singleton.mp hd)))
    rw [run_cons, step_plain hc fun hnil => absurd hnil hr, Option.bind_some,
      ih (List.append_ne_nil_of_left_ne_nil hr _) fun d hd => ht d (List.mem_cons_of_mem c hd),
      List.append_assoc, List.singleton_append]

theorem run_plain (hr : r.token = []) (ht : Plain t) :
    r.run t = some { r with token := Text.stripLeft t } := by
  induction t with
  | nil =>
    obtain ⟨opened, nodes, token⟩ := r
    cases hr
    rfl
  | cons c t ih =>
    have ht' : Plain t := fun d hd => ht d (List.mem_cons_of_mem c hd)
    cases hblank : Text.isBlank c with
    | true =>
      rw [run_cons, step_blank hr hblank, Option.bind_some, ih ht',
        Text.stripLeft_cons_of_blank hblank]
    | false =>
      have hc : Plain [c] := fun d hd => ht d (List.mem_cons.mpr (.inl (List.mem_singleton.mp hd)))
      have hne : r.token ++ [c] ≠ [] := List.append_ne_nil_of_right_ne_nil _ (List.cons_ne_nil _ _)
      rw [run_cons, step_plain hc fun _ => hblank, Option.bind_some,
        run_plain_of_token hne ht', Text.stripLeft_cons_of_not_blank hblank, hr]
      rfl

theorem run_opening {header : Text} (hr : r.token = []) (h : Plain header) :
    r.run (Block.opening header) = some ⟨(Text.strip header, r.nodes) :: r.opened, [], []⟩ := by
  have hspace : Plain [' '] := by decide
  have hopening : Block.opening header =
      (if header = [] then [] else header ++ [' ']) ++ ['\x7b'] := by
    rw [Block.opening]
    split <;> simp
  have hplain : Plain (if header = [] then [] else header ++ [' ']) := by
    split
    · exact .nil
    · exact h.append hspace
  have hstrip : Text.strip (Text.stripLeft (if header = [] then [] else header ++ [' '])) =
      Text.strip header := by
    rw [Text.strip_stripLeft]
    split
    · rename_i hempty
      rw [hempty]
    · exact Text.strip_append_blanks (List.forall_mem_singleton.mpr rfl) header
  rw [hopening, run_append, run_plain hr hplain, Option.bind_some, run_cons, step, if_pos rfl,
    hstrip]
  rfl

theorem run_declaration (hr : r.token = []) (ht : Plain t) :
    r.run (t ++ [';']) = some ⟨r.opened, r.nodes ++ [.declaration (Text.strip t)], []⟩ := by
  rw [run_append, run_plain hr ht, Option.bind_some, run_cons, step, if_neg (by decide), if_pos rfl,
    Text.strip_stripLeft]
  rfl

theorem run_closing {header : Text} {opened : List (Text × List Node)} {ns nodes : List Node} :
    run ⟨(header, nodes) :: opened, ns, []⟩ Block.closing =
      some ⟨opened, nodes ++ [.block header ns], []⟩ := rfl

end Reader

/-- What reading some lines leads to, when every header and declaration ends on its line. -/
inductive Reads : Reader → List Text → Reader → Prop
  | nil (r) : Reads r [] r
  | cons {r s t l ls} : r.run l = some s → s.token = [] → Reads s ls t → Reads r (l :: ls) t

namespace Reads

variable {r s t : Reader} {ls ms : List Text}

theorem append (h : Reads r ls s) (h' : Reads s ms t) : Reads r (ls ++ ms) t := by
  induction h with
  | nil => exact h'
  | cons hl hs _ ih => exact (ih h').cons hl hs

/-- Lines read the same when they are indented. -/
theorem indent {indent : Text} (hindent : ∀ c ∈ indent, Text.isBlank c = true) (hr : r.token = [])
    (h : Reads r ls s) : Reads r (ls.map fun l => if l = [] then [] else indent ++ l) s := by
  induction h with
  | nil r => exact .nil r
  | @cons r s t l ls hl hs _ ih =>
    refine .cons ?_ hs (ih hs)
    dsimp only
    split
    · rename_i hempty
      rw [← hempty]
      exact hl
    · rw [Reader.run_append, Reader.run_blank hr hindent]
      exact hl

theorem run_unlines (hr : r.token = []) (h : Reads r ls s) : r.run (Text.unlines ls) = some s := by
  induction h with
  | nil r => rfl
  | @cons r s t l ls hl hs h ih =>
    cases ls with
    | nil =>
      cases h
      rw [Text.unlines, List.intercalate_singleton]
      exact hl
    | cons m ls =>
      have hfeed : ∀ c ∈ ['\n'], Text.isBlank c = true := List.forall_mem_singleton.mpr rfl
      rw [Text.unlines_cons (List.cons_ne_nil m ls), List.append_cons, Reader.run_append,
        Reader.run_append, hl, Option.bind_some, Reader.run_blank hs hfeed]
      exact ih hs

end Reads

end ThemedCss.Css
