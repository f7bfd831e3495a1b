import ThemedCss.Proofs.Css.Reading
import ThemedCss.Proofs.Style.Layout

/-!
# Reading written blocks

Written blocks are read as they are, whatever at-rules they stand in and however these indent them.

* `Layout.node`, `Layout.nodes`: what blocks are to be read as;
* `Layout.AreClean`: blocks whose headers and declarations hold no brace, semicolon or line feed;
* **`nodes?_joinBlocks`**: written blocks are read as those blocks.
-/

namespace ThemedCss

open Css

namespace Layout

mutual

/-- What a block is to be read as. -/
def node : Layout → Node
  | rule header declarations =>
    .block (Text.strip header) (declarations.map fun d => .declaration (Text.strip d.dropLast))
  | group header inner => .block (Text.strip header) (nodes inner)

/-- What blocks are to be read as. -/
def nodes : List Layout → List Node
  | [] => []
  | l :: ls => l.node :: nodes ls

end

/-- Blocks that are not empty, whose headers hold no brace, semicolon or line feed, and whose
declarations end in the only one. -/
inductive AreClean : List Layout → Prop
  | nil : AreClean []
  | rule {header declarations ls} : Plain header → declarations ≠ [] →
      (∀ d ∈ declarations, ∃ t, Plain t ∧ d = t ++ [';']) → AreClean ls →
      AreClean (.rule header declarations :: ls)
  | group {header inner ls} : Plain header → inner ≠ [] → AreClean inner → AreClean ls →
      AreClean (.group header inner :: ls)

theorem AreClean.append {ls ms : List Layout} (h : AreClean ls) (h' : AreClean ms) :
    AreClean (ls ++ ms) := by
  induction h with
  | nil => exact h'
  | rule hh hne hd _ ih => exact .rule hh hne hd ih
  | group hh hne hi _ _ ih => exact .group hh hne hi ih

theorem node_isDeclaration (l : Layout) : l.node.isDeclaration = false := by
  cases l <;> rfl

theorem isDeclaration_of_mem_nodes {ls : List Layout} :
    ∀ n ∈ nodes ls, n.isDeclaration = false := by
  induction ls with
  | nil => exact nofun
  | cons l ls ih =>
    rintro n (_ | ⟨_, hmem⟩)
    · exact l.node_isDeclaration
    · exact ih n hmem

theorem areFlat_declarations (f : Text → Text) (declarations : List Text) :
    Node.AreFlat (declarations.map fun d => .declaration (f d)) := by
  induction declarations with
  | nil => trivial
  | cons d ds ih => exact ⟨trivial, ih⟩

theorem AreClean.areFlat {ls : List Layout} (h : AreClean ls) : Node.AreFlat (nodes ls) := by
  induction h with
  | nil => trivial
  | @rule header declarations ls _ hne _ _ ih =>
    refine ⟨⟨fun hnil => hne (List.map_eq_nil_iff.mp hnil), .inl ?_, ?_⟩, ih⟩
    · intro n hn
      obtain ⟨d, _, rfl⟩ := List.mem_map.mp hn
      rfl
    · exact areFlat_declarations (fun d => Text.strip d.dropLast) declarations
  | @group header inner ls _ hne _ _ ihi ih =>
    refine ⟨⟨fun hnil => hne ?_, .inr isDeclaration_of_mem_nodes, ihi⟩, ih⟩
    cases inner with
    | nil => rfl
    | cons m ms => cases hnil

theorem nodes_append (ls ms : List Layout) : nodes (ls ++ ms) = nodes ls ++ nodes ms := by
  induction ls with
  | nil => rfl
  | cons l ls ih => rw [List.cons_append, nodes, ih, nodes, List.cons_append]

end Layout

/-- The reader behind some more nodes. -/
def Css.Reader.push (r : Reader) (ns : List Node) : Reader := { r with nodes := r.nodes ++ ns }

theorem Css.Reader.push_nil (r : Reader) : r.push [] = r := by
  rw [push, List.append_nil]

theorem Css.Reader.push_push (r : Reader) (ms ns : List Node) :
    (r.push ms).push ns = r.push (ms ++ ns) := by
  rw [push, push, List.append_assoc]
  rfl

namespace Layout

variable {o : Style.Options} {r : Reader}

theorem reads_declarations {declarations : List Text} (hr : r.token = [])
    (hd : ∀ d ∈ declarations, ∃ t, Plain t ∧ d = t ++ [';']) :
    Reads r declarations
      (r.push (declarations.map fun d => .declaration (Text.strip d.dropLast))) := by
  induction declarations generalizing r with
  | nil =>
    rw [List.map_nil, Reader.push_nil]
    exact .nil r
  | cons d ds ih =>
    obtain ⟨t, ht, rfl⟩ := hd d List.mem_cons_self
    have hrun : r.run (t ++ [';']) =
        some (r.push [.declaration (Text.strip (t ++ [';']).dropLast)]) := by
      rw [Reader.run_declaration hr ht, List.dropLast_concat, Reader.push, hr]
    refine .cons hrun hr ?_
    have htail := ih (r := r.push [.declaration (Text.strip (t ++ [';']).dropLast)]) hr
      fun d' hd' => hd d' (List.mem_cons_of_mem _ hd')
    rwa [Reader.push_push] at htail

theorem reads_block {header : Text} {body : List Text} {ns : List Node} (hr : r.token = [])
    (hh : Plain header)
    (hb : Reads ⟨(Text.strip header, r.nodes) :: r.opened, [], []⟩ body
      ⟨(Text.strip header, r.nodes) :: r.opened, ns, []⟩) :
    Reads r (Block.lines header body) (r.push [.block (Text.strip header) ns]) := by
  refine .cons (Reader.run_opening hr hh) rfl (hb.append (.cons Reader.run_closing rfl ?_))
  rw [Reader.push, hr]
  exact .nil _

theorem feed_not_mem_of_clean {declarations : List Text}
    (hd : ∀ d ∈ declarations, ∃ t, Plain t ∧ d = t ++ [';']) : ∀ d ∈ declarations, '\n' ∉ d := by
  intro d hmem
  obtain ⟨t, ht, rfl⟩ := hd d hmem
  simpa using ht.feed_not_mem

theorem reads_cons {l : Layout} {ls : List Layout}
    (hl : Reads r (Text.lines (l.write o)) (r.push [l.node]))
    (hls : Reads (r.push [l.node]) (Text.lines (Style.joinBlocks (ls.map (write o))))
      ((r.push [l.node]).push (nodes ls))) (hr : r.token = []) :
    Reads r (Text.lines (Style.joinBlocks ((l :: ls).map (write o))))
      (r.push (nodes (l :: ls))) := by
  cases ls with
  | nil =>
    rw [List.map_singleton, Style.joinBlocks_singleton]
    exact hl
  | cons m ms =>
    have hne : (m :: ms).map (write o) ≠ [] := List.cons_ne_nil _ _
    have hlines : Text.lines (Style.joinBlocks ((l :: m :: ms).map (write o))) =
        Text.lines (l.write o) ++
          [] :: Text.lines (Style.joinBlocks ((m :: ms).map (write o))) := by
      rw [List.map_cons, Style.joinBlocks_cons hne, List.append_assoc]
      exact Text.lines_append _ _
    rw [Reader.push_push] at hls
    rw [hlines]
    exact hl.append (.cons rfl hr hls)

/-- The lines of blocks are read as those blocks. -/
theorem AreClean.reads {ls : List Layout} (h : AreClean ls)
    (ho : ∀ c ∈ o.indent, c = ' ' ∨ c = '\t') (hr : r.token = []) :
    Reads r (Text.lines (Style.joinBlocks (ls.map (write o)))) (r.push (nodes ls)) := by
  induction h generalizing r with
  | nil =>
    rw [nodes, Reader.push_nil]
    exact .cons rfl hr (.nil r)
  | @rule header declarations ls hh _ hd _ ih =>
    refine reads_cons ?_ (ih hr) hr
    have hb := reads_declarations (r := ⟨(Text.strip header, r.nodes) :: r.opened, [], []⟩) rfl hd
    rw [write, Block.lines_write hh.feed_not_mem (feed_not_mem_of_clean hd)]
    exact reads_block hr hh hb
  | @group header inner ls hh _ _ _ ihi ih =>
    refine reads_cons ?_ (ih hr) hr
    have hfeed : ∀ l ∈ Style.indentLines o.indent (Style.joinBlocks (inner.map (write o))),
        '\n' ∉ l := by
      intro l hl
      obtain ⟨m, hm, rfl⟩ := List.mem_map.mp hl
      have hm := Text.feed_not_mem_of_mem_lines hm
      split
      · exact List.not_mem_nil
      · rw [List.mem_append, not_or]
        refine ⟨fun hc => ?_, hm⟩
        rcases ho _ hc with h | h <;> cases h
    have hinner : Reads ⟨(Text.strip header, r.nodes) :: r.opened, [], []⟩
        (Text.lines (Style.joinBlocks (inner.map (write o))))
        ⟨(Text.strip header, r.nodes) :: r.opened, nodes inner, []⟩ := ihi rfl
    have hb := hinner.indent (Text.isBlank_of_mem_indent ho) rfl
    rw [write_group, Block.lines_write hh.feed_not_mem hfeed]
    exact reads_block hr hh hb

/-- **Written blocks are read as those blocks.** -/
theorem nodes?_joinBlocks {ls : List Layout} (h : AreClean ls)
    (ho : ∀ c ∈ o.indent, c = ' ' ∨ c = '\t') :
    nodes? (Style.joinBlocks (ls.map (write o))) = some (nodes ls) := by
  have hrun := (h.reads (r := {}) ho rfl).run_unlines rfl
  rw [Text.unlines_lines] at hrun
  rw [nodes?, hrun]
  rfl

end Layout

end ThemedCss
