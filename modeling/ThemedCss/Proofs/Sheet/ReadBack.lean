import Mathlib.Data.List.Basic
import ThemedCss.Proofs.Text.Lines
import ThemedCss.Sheet.Assemble

/-!
# Reading the variables back

The blocks of the variables are read line by line, each up to the line that closes it. Only line feeds
end a line and only the first colon ends a name, so that a value may hold colons, semicolons and braces.

* `Sheet.readDeclaration?`, `Sheet.readRoot?`, `Sheet.readDark?`: reading a declaration, a block of
  declarations, and such a block in a media query;
* `Bindings.Legible`: variables that stand on one line each, with a colon behind the name only;
* `OrderedMap.entries_overlay`: the entries of a map that is written over another one;
* `Sheet.lines_assemble`: the lines of an assembled style sheet;
* **`Sheet.read_assemble`**: the variables of a store are read back from its style sheet.
-/

namespace ThemedCss

/-! ## Reading -/

namespace Sheet

/-- Spaces and tabs, or nothing. -/
def IsSpacing (t : Text) : Prop := ∀ c ∈ t, c = ' ' ∨ c = '\t'

/-- A line without the spaces and tabs in front. -/
def outdent (line : Text) : Text := line.dropWhile fun c => c = ' ' || c = '\t'

/-- The name in front of the first colon of a line, and the value between this and the semicolon at the
end. -/
def readDeclaration? (line : Text) : Option (Text × Text) :=
  let name := (outdent line).takeWhile (· ≠ ':')
  match (outdent line).dropWhile (· ≠ ':') with
  | ':' :: ' ' :: rest => if rest.getLast? = some ';' then some (name, rest.dropLast) else none
  | _ => none

/-- The declarations up to a closing brace, and the lines behind it. -/
def readDeclarations? : List Text → Option (List (Text × Text) × List Text)
  | [] => none
  | l :: ls =>
    if outdent l = Block.closing then some ([], ls)
    else do
      let entry ← readDeclaration? l
      let (entries, rest) ← readDeclarations? ls
      return (entry :: entries, rest)

/-- The declarations of a block for the root, and the lines behind it. -/
def readRoot? : List Text → Option (List (Text × Text) × List Text)
  | [] => none
  | l :: ls => if outdent l = Block.opening ":root" then readDeclarations? ls else none

/-- The query of a line that opens a media query. -/
def queryOf? (line : Text) : Option Text := do
  let query ← ("@media " : Text).isPrefixOf? line
  let reversed ← ("\x7b ".toList).isPrefixOf? query.reverse
  return reversed.reverse

/-- The query and the declarations of a block for the root in a media query, behind an empty line, and
the lines behind this block. -/
def readDark? : List Text → Option (Text × List (Text × Text) × List Text)
  | [] :: header :: ls => do
    let query ← queryOf? header
    let (entries, rest) ← readRoot? ls
    if rest.head? = some Block.closing then some (query, entries, rest.tail) else none
  | _ => none

/-- The lines behind a block: each text that follows has an empty line in front, and a line feed ends
the last line. -/
def behind : List Text → List Text
  | [] => [[]]
  | t :: ts => [] :: Text.lines t ++ behind ts

/-- The variables that hold in the light mode: those of the root, each with its value for light if it
has one, and those that are for light only. -/
def lightEntries (s : Store) : List (Text × Text) :=
  s.root.entries.map (fun e => (e.1, (s.light.get? e.1).getD e.2)) ++
    s.light.entries.filter fun e => e.1 ∉ s.root.keys

end Sheet

/-- Variables that stand on one line each, with a colon behind the name only. -/
def Bindings.Legible (b : Bindings) : Prop :=
  ∀ e ∈ b.entries, ("--" : Text) <+: e.1 ∧ ':' ∉ e.1 ∧ '\n' ∉ e.1 ∧ '\n' ∉ e.2

instance (b : Bindings) : Decidable b.Legible := inferInstanceAs (Decidable (∀ e ∈ b.entries, _))

/-! ## One map over another -/

namespace Entries

variable {κ α : Type} [DecidableEq κ]

theorem put_of_mem {k : κ} {es : List (κ × α)} (h : (keys es).Nodup) (hk : k ∈ keys es) (v : α) :
    put k v es = es.map fun e => (e.1, if e.1 = k then v else e.2) := by
  induction es with
  | nil => cases hk
  | cons e es ih =>
    obtain ⟨i, w⟩ := e
    obtain ⟨hi, hes⟩ := List.nodup_cons.mp h
    by_cases hik : i = k
    · subst hik
      have hrest : es.map (fun e => (e.1, if e.1 = i then v else e.2)) = es := by
        refine (List.map_congr_left fun e he => ?_).trans (List.map_id es)
        have hne : e.1 ≠ i := fun hei => hi (List.mem_map.mpr ⟨e, he, hei⟩)
        simp [hne]
      simp [put, hrest]
    · have hmem : k ∈ keys es := by simpa [Ne.symm hik] using hk
      simp [put, hik, ih hes hmem]

end Entries

namespace OrderedMap

variable {κ α : Type} [DecidableEq κ]

theorem entries_foldl_insert {es : List (κ × α)} (h : (Entries.keys es).Nodup) (m : OrderedMap κ α) :
    (es.foldl (fun m e => m.insert e.1 e.2) m).entries =
      m.entries.map (fun e => (e.1, (Entries.get? e.1 es).getD e.2)) ++
        es.filter fun e => e.1 ∉ m.keys := by
  induction es generalizing m with
  | nil => simp [Entries.get?]
  | cons e es ih =>
    obtain ⟨i, w⟩ := e
    obtain ⟨hi, hes⟩ := List.nodup_cons.mp h
    rw [List.foldl_cons, ih hes]
    have hnone := (Entries.get?_eq_none_iff i es).mpr hi
    by_cases hmem : i ∈ m.keys
    · have hentries : (m.insert i w).entries =
          m.entries.map fun e => (e.1, if e.1 = i then w else e.2) :=
        Entries.put_of_mem m.nodup_keys hmem w
      rw [hentries, keys_insert_of_mem w hmem]
      have hvalue : ∀ e ∈ m.entries, (Entries.get? e.1 es).getD (if e.1 = i then w else e.2) =
          (Entries.get? e.1 ((i, w) :: es)).getD e.2 := by
        intro e _
        by_cases hei : e.1 = i
        · simp [hei, Entries.get?, hnone]
        · simp [hei, Entries.get?, Ne.symm hei]
      simpa [hmem] using hvalue
    · have hentries : (m.insert i w).entries = m.entries ++ [(i, w)] :=
        Entries.put_of_not_mem hmem w
      rw [hentries, keys_insert_of_not_mem w hmem]
      have hvalue : ∀ e ∈ m.entries, (Entries.get? e.1 es).getD e.2 =
          (Entries.get? e.1 ((i, w) :: es)).getD e.2 := by
        intro e he
        have hne : i ≠ e.1 := fun hei => hmem (List.mem_map.mpr ⟨e, he, hei.symm⟩)
        simp [Entries.get?, hne]
      have hnew : ∀ e ∈ es, e.1 ≠ i := fun e he hei => hi (List.mem_map.mpr ⟨e, he, hei⟩)
      have hmap : m.entries.map (fun e => (e.1, (Entries.get? e.1 es).getD e.2)) =
          m.entries.map fun e => (e.1, (Entries.get? e.1 ((i, w) :: es)).getD e.2) :=
        List.map_congr_left fun e he => by rw [hvalue e he]
      have hfilter : es.filter (fun e => !decide (e.1 ∈ m.keys) && !decide (e.1 = i)) =
          es.filter fun e => !decide (e.1 ∈ m.keys) :=
        List.filter_congr fun e he => by simp [hnew e he]
      simp [hmem, hnone, hmap, hfilter]

theorem entries_overlay (m n : OrderedMap κ α) :
    (m.overlay n).entries = m.entries.map (fun e => (e.1, (n.get? e.1).getD e.2)) ++
      n.entries.filter fun e => e.1 ∉ m.keys :=
  entries_foldl_insert n.nodup_keys m

end OrderedMap

namespace Sheet

variable {o : Options} {s : Store} {indent name value : Text}

/-! ## Declarations -/

theorem outdent_append (hindent : IsSpacing indent) (t : Text) :
    outdent (indent ++ t) = outdent t := by
  unfold outdent
  exact List.dropWhile_append_of_pos fun c hc => by simpa using hindent c hc

theorem outdent_declaration (hindent : IsSpacing indent) (hname : ("--" : Text) <+: name) :
    outdent (Block.declaration indent name value) = name ++ ": " ++ value ++ ";" := by
  obtain ⟨t, rfl⟩ := hname
  unfold Block.declaration
  simp only [List.append_assoc]
  rw [outdent_append hindent]
  rfl

/-- **A declaration is read back**, whatever its value. -/
theorem readDeclaration?_declaration (hindent : IsSpacing indent) (hname : ("--" : Text) <+: name)
    (hcolon : ':' ∉ name) :
    readDeclaration? (Block.declaration indent name value) = some (name, value) := by
  have hsplit : ∀ c ∈ name, decide (c ≠ ':') = true := by
    intro c hc
    simp
    rintro rfl
    exact hcolon hc
  unfold readDeclaration?
  rw [outdent_declaration hindent hname]
  simp only [List.append_assoc, List.takeWhile_append_of_pos hsplit,
    List.dropWhile_append_of_pos hsplit]
  simp

theorem outdent_declaration_ne_closing (hindent : IsSpacing indent) (hname : ("--" : Text) <+: name) :
    outdent (Block.declaration indent name value) ≠ Block.closing := by
  rw [outdent_declaration hindent hname]
  obtain ⟨t, rfl⟩ := hname
  simp [Block.closing]

theorem readDeclarations?_declarations (hindent : IsSpacing indent) {outer : Text}
    (houter : IsSpacing outer) {b : Bindings} (hb : b.Legible) (ls : List Text) :
    readDeclarations? (declarations indent b ++ (outer ++ Block.closing) :: ls) =
      some (b.entries, ls) := by
  unfold declarations
  unfold Bindings.Legible at hb
  generalize b.entries = es at hb ⊢
  induction es with
  | nil =>
    have hclosing : outdent (outer ++ Block.closing) = Block.closing := outdent_append houter _
    simp [readDeclarations?, hclosing]
  | cons e es ih =>
    obtain ⟨⟨hname, hcolon, -⟩, hes⟩ := List.forall_mem_cons.mp hb
    simp [readDeclarations?, outdent_declaration_ne_closing hindent hname,
      readDeclaration?_declaration hindent hname hcolon, ih hes]

/-! ## Blocks -/

theorem readRoot?_block (hindent : IsSpacing indent) {outer : Text}
    (houter : IsSpacing outer) {b : Bindings} (hb : b.Legible) (ls : List Text) :
    readRoot? ((outer ++ Block.opening ":root") ::
        (declarations indent b ++ (outer ++ Block.closing) :: ls)) = some (b.entries, ls) := by
  have hopening : outdent (outer ++ Block.opening ":root") = Block.opening ":root" :=
    outdent_append houter _
  rw [readRoot?, if_pos hopening, readDeclarations?_declarations hindent houter hb]

theorem readRoot?_rootLines (hindent : IsSpacing o.indent) (hlight : (lightBindings s).Legible)
    (ls : List Text) : readRoot? (rootLines o s ++ ls) = some ((lightBindings s).entries, ls) := by
  have houter : IsSpacing [] := nofun
  have hlines : rootLines o s ++ ls = ([] ++ Block.opening ":root") ::
      (declarations o.indent (lightBindings s) ++ ([] ++ Block.closing) :: ls) := by
    simp only [rootLines, Block.lines, List.cons_append, List.append_assoc]
    rfl
  rw [hlines, readRoot?_block hindent houter hlight]

theorem queryOf?_opening (query : Text) :
    queryOf? (Block.opening ("@media " ++ query)) = some query := by
  have hfront : ("@media " : Text).isPrefixOf? (Block.opening ("@media " ++ query)) =
      some (query ++ " \x7b") := List.isPrefixOf?_eq_some_iff_append_eq.mpr (by simp [Block.opening])
  have hback : ("\x7b ".toList).isPrefixOf? (query ++ " \x7b").reverse = some query.reverse :=
    List.isPrefixOf?_eq_some_iff_append_eq.mpr (by simp)
  simp only [queryOf?, hfront, hback, Option.bind_eq_bind, Option.bind_some, List.reverse_reverse]
  rfl

/-- **The dark block is read back**, whatever follows it. -/
theorem readDark?_darkLines (hindent : IsSpacing o.indent) (hdark : s.dark.Legible) (ls : List Text) :
    readDark? ([] :: (darkLines o s ++ ls)) = some (o.mediaQuery, s.dark.entries, ls) := by
  have hinner : IsSpacing (o.indent ++ o.indent) := by
    intro c hc
    exact hindent c (by simpa using hc)
  have hroot := readRoot?_block hinner hindent hdark (Block.closing :: ls)
  have hlines : darkLines o s ++ ls = Block.opening ("@media " ++ o.mediaQuery) ::
      (o.indent ++ Block.opening ":root") ::
        (declarations (o.indent ++ o.indent) s.dark ++ (o.indent ++ Block.closing) ::
          Block.closing :: ls) := by
    simp only [darkLines, darkLinesWithin, Block.lines, List.cons_append, List.append_assoc]
    rfl
  rw [hlines, readDark?, queryOf?_opening, hroot]
  simp

/-! ## The lines of a style sheet -/

theorem feed_not_mem_declarations (hindent : '\n' ∉ indent) {b : Bindings} (hb : b.Legible) :
    ∀ d ∈ declarations indent b, '\n' ∉ d := by
  intro d hd
  obtain ⟨e, he, rfl⟩ := List.mem_map.mp hd
  obtain ⟨-, -, hname, hvalue⟩ := hb e he
  simp [Block.declaration, hindent, hname, hvalue]

theorem lines_intercalate_append (t : Text) (ts : List Text) :
    Text.lines (List.intercalate "\n\n" (t :: ts) ++ "\n") = Text.lines t ++ behind ts := by
  induction ts generalizing t with
  | nil =>
    rw [List.intercalate_singleton]
    exact Text.lines_append t []
  | cons u us ih =>
    rw [List.intercalate_cons_cons, List.append_assoc, List.append_assoc]
    change Text.lines (t ++ '\n' :: ([] ++ '\n' :: (List.intercalate "\n\n" (u :: us) ++ "\n"))) = _
    rw [Text.lines_append, Text.lines_append, ih]
    rfl

theorem feed_not_mem_of_indent (hindent : IsSpacing indent) : '\n' ∉ indent := by
  intro hc
  have := hindent '\n' hc
  simp at this

theorem entries_lightBindings (s : Store) : (lightBindings s).entries = lightEntries s := by
  rw [lightBindings, OrderedMap.entries_overlay, lightEntries]
  congr 1
  exact List.filter_congr fun e _ => decide_eq_decide.mpr Iff.rfl

theorem legible_lightBindings (hroot : s.root.Legible) (hlight : s.light.Legible) :
    (lightBindings s).Legible := by
  intro e he
  rw [entries_lightBindings, lightEntries, List.mem_append, List.mem_map] at he
  rcases he with ⟨⟨n, v⟩, hv, rfl⟩ | he
  · dsimp only
    cases hget : s.light.get? n with
    | none => exact hroot (n, v) hv
    | some w => exact hlight (n, w) (OrderedMap.get?_eq_some_iff.mp hget)
  · exact hlight e (List.mem_filter.mp he).1

/-- The chunks that follow the variables. -/
def followers (o : Options) (chunks : List Text) : List Text :=
  if o.includeStyles then chunks.filter (· ≠ []) else []

/-- **The lines of an assembled style sheet**: those of its blocks, with an empty one between two blocks
and behind the last one. -/
theorem lines_assemble (hindent : IsSpacing o.indent) (hquery : '\n' ∉ o.mediaQuery)
    (hs : ∀ m, (s.bindings m).Legible) (chunks : List Text) :
    Text.lines (assemble o s chunks) = rootLines o s ++
      if s.dark.isEmpty then behind (followers o chunks)
      else [] :: darkLines o s ++ behind (followers o chunks) := by
  have hfeed := feed_not_mem_of_indent hindent
  have hroot : Text.lines (Text.unlines (rootLines o s)) = rootLines o s :=
    Block.lines_write (by decide)
      (feed_not_mem_declarations hfeed (legible_lightBindings (hs .root) (hs .light)))
  have hdark : Text.lines (Text.unlines (darkLines o s)) = darkLines o s := by
    have hinner : '\n' ∉ o.indent ++ o.indent := by simp [hfeed]
    refine Block.lines_write (by simpa using hquery) fun l hl => ?_
    simp only [List.cons_append, List.mem_cons, List.mem_append, List.not_mem_nil, or_false] at hl
    rcases hl with rfl | hl | rfl
    · simp [hfeed, Block.opening]
    · exact feed_not_mem_declarations hinner (hs .dark) l hl
    · simp [hfeed, Block.closing]
  unfold assemble assembleAround
  dsimp only
  rw [List.append_assoc, List.singleton_append, lines_intercalate_append, hroot]
  congr 1
  by_cases hempty : s.dark.isEmpty
  · simp [hempty, followers]
  · simp [hempty, followers, behind, hdark]

/-- **The variables are read back from an assembled style sheet**, and what follows them is known: the
block of the dark mode if there are variables for it, and then the chunks, one of which may look like
such a block. -/
theorem read_assemble (hindent : IsSpacing o.indent) (hquery : '\n' ∉ o.mediaQuery)
    (hs : ∀ m, (s.bindings m).Legible) (chunks : List Text) :
    ((lightEntries s).map Prod.fst).Nodup ∧
    ∃ rest, readRoot? (Text.lines (assemble o s chunks)) = some (lightEntries s, rest) ∧
      if s.dark.isEmpty then rest = behind (followers o chunks)
      else readDark? rest = some (o.mediaQuery, s.dark.entries, behind (followers o chunks)) := by
  have hlight := legible_lightBindings (hs .root) (hs .light)
  rw [lines_assemble hindent hquery hs, ← entries_lightBindings]
  refine ⟨(lightBindings s).nodup_keys, _, readRoot?_rootLines hindent hlight _, ?_⟩
  split
  · rfl
  · exact readDark?_darkLines hindent (hs .dark) _

/-- Values with colons, semicolons and braces, a variable for both modes and one for light only, and a
chunk that looks like a block of the dark mode. -/
theorem read_assemble_braces :
    let bare : Bindings := OrderedMap.empty
    let o : Options := { indent := "\t" }
    let s : Store :=
      { root := ((bare.insert "--a" "x: y; \x7d").insert "--b" "1px").insert "--c" ""
        light := (bare.insert "--d" "url(data:;)").insert "--b" ";--e: 2px"
        dark := bare.insert "--b" "\x7b:root \x7d" }
    let chunk : Text := Text.unlines
      ["@media print \x7b", ":root \x7b", "--b: 3px;", "\x7d", "\x7d"]
    let light : List (Text × Text) :=
      [("--a", "x: y; \x7d"), ("--b", ";--e: 2px"), ("--c", ""), ("--d", "url(data:;)")]
    let dark : List (Text × Text) := [("--b", "\x7b:root \x7d")]
    ∃ rest, readRoot? (Text.lines (assemble o s [[], chunk])) = some (light, rest) ∧
      readDark? rest = some (darkQuery, dark, behind [chunk]) := by
  intro bare o s chunk light dark
  have hindent : IsSpacing o.indent := fun c hc => .inr (List.mem_singleton.mp hc)
  have hs : ∀ m, (s.bindings m).Legible := by
    intro m
    cases m <;> decide +kernel
  exact (read_assemble hindent (by decide) hs [[], chunk]).2

end Sheet

end ThemedCss
