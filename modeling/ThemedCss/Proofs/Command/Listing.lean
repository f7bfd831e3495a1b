import Mathlib.Data.List.Nodup
import Mathlib.Data.List.TakeWhile
import ThemedCss.Command.Run
import ThemedCss.Proofs.Document.Indented
import ThemedCss.Proofs.Variable.Hoisting

/-!
# What a listing shows

The variables of a source can be listed as a table or as a document. Both list the same variables, in
the same order. A row of the table is marked when hoisting has written a root variable of its name,
whatever its partition.

* `Session.Hoists`: whether hoisting writes a variable of a partition;
* `mem_names_optimize_iff`, `not_hoists`: the names that hoisting gives back, and the other partitions;
* `listedIn`, **`parse_toJson`**: the variables that a document lists;
* `Markup.IsPlain`, `Markup.plain_of_isPlain`: texts that are shown as they are;
* **`listing_rows`**: the rows of the table are the variables of the document, and which ones are
  marked;
* `row_marked_beside_root`: a marked row that hoisting has not written.
-/

namespace ThemedCss

/-! ## What hoisting writes -/

namespace Session

variable {s : Session} {m : Mode} {name : Text}

/-- Whether hoisting writes a variable of a partition: it has another value behind it. -/
def Hoists (s : Session) (m : Mode) (name : Text) : Prop :=
  s.optimize.1.registry.store.get? m name ≠ s.registry.store.get? m name

theorem store_scanChunks (s : Session) : s.scanChunks.registry.store = s.registry.store :=
  congrArg (·.store) (Registry.foldl_scan_eq s.registry (s.chunks.drop s.scanned))

theorem exists_added (s : Session) : ∃ added : List (Text × Text),
    s.optimize.1.registry.store.root.entries = s.registry.store.root.entries ++ added ∧
      s.optimize.2 = added.map Prod.fst := by
  obtain ⟨promotions, -, hroot, hnames⟩ := Registry.exists_promotes s.config.hoistThreshold
    s.scanChunks.registry s.scanChunks.registry.table.entries
  rw [store_scanChunks] at hroot
  refine ⟨promotions.map Registry.Promotion.binding, hroot, ?_⟩
  rw [List.map_map]
  exact hnames

theorem mem_names_optimize_iff : name ∈ s.optimize.2 ↔ s.Hoists .root name := by
  obtain ⟨added, hroot, hnames⟩ := s.exists_added
  have hkeys : s.optimize.1.registry.store.root.keys =
      s.registry.store.root.keys ++ s.optimize.2 := by
    rw [hnames, OrderedMap.keys, OrderedMap.keys, hroot, List.map_append]
  have hnodup : s.optimize.1.registry.store.root.keys.Nodup :=
    s.optimize.1.registry.store.root.nodup_keys
  change _ ↔ s.optimize.1.registry.store.root.get? name ≠ s.registry.store.root.get? name
  constructor
  · intro hmem heq
    have hbefore : name ∉ s.registry.store.root.keys := fun hmem' =>
      (List.nodup_append.mp (hkeys ▸ hnodup)).2.2 name hmem' name hmem rfl
    rw [OrderedMap.get?_eq_none_iff.mpr hbefore, OrderedMap.get?_eq_none_iff, hkeys] at heq
    exact heq (List.mem_append_right _ hmem)
  · intro hne
    by_contra hmem
    refine hne ?_
    cases hvalue : s.registry.store.root.get? name with
    | none =>
      rw [OrderedMap.get?_eq_none_iff] at hvalue ⊢
      rw [hkeys, List.mem_append]
      exact not_or_intro hvalue hmem
    | some value =>
      rw [OrderedMap.get?_eq_some_iff] at hvalue ⊢
      exact hroot ▸ List.mem_append_left _ hvalue

theorem not_hoists (h : m ≠ .root) : ¬ s.Hoists m name := by
  obtain ⟨hlight, hdark, -⟩ :=
    Registry.hoist_keeps s.config.hoistThreshold s.scanChunks.registry
  rw [store_scanChunks] at hlight hdark
  have hsame : s.optimize.1.registry.store.bindings m = s.registry.store.bindings m := by
    cases m with
    | root => exact absurd rfl h
    | light => exact hlight
    | dark => exact hdark
  exact not_not_intro (congrArg (OrderedMap.get? · name) hsame)

end Session

/-! ## Texts that are shown as they are -/

theorem Emoji.replace_of_not_mem {t : Text} (h : ':' ∉ t) : replace t = t := by
  induction t with
  | nil => rw [replace]
  | cons c t ih =>
    obtain ⟨hc, ht⟩ := not_or.mp (mt List.mem_cons.mpr h)
    rw [replace, if_pos (Ne.symm hc), ih ht]

namespace Markup

/-- Whether a text has no bracket that opens a tag, no colon and no control that is not shown. -/
def IsPlain (t : Text) : Prop := ∀ c ∈ t, c ≠ '[' ∧ c ≠ ':' ∧ isHidden c = false

instance (t : Text) : Decidable (IsPlain t) :=
  List.decidableBAll (fun c => c ≠ '[' ∧ c ≠ ':' ∧ isHidden c = false) t

variable {t : Text}

theorem reverse_eq_append_takeWhile (t : Text) :
    t.reverse = (t.dropWhile (· = '\\')).reverse ++ t.takeWhile (· = '\\') := by
  have h : t.takeWhile (· = '\\') = List.replicate (t.takeWhile (· = '\\')).length '\\' :=
    List.eq_replicate_of_mem fun c hc => by simpa using List.mem_takeWhile_imp hc
  have hreverse : (t.takeWhile (· = '\\')).reverse = t.takeWhile (· = '\\') := by
    rw [h, List.reverse_replicate]
  rw [← hreverse, ← List.reverse_append, List.takeWhile_append_dropWhile]

theorem piecesBehind_of_not_mem (before : Text) (h : '[' ∉ t) :
    piecesBehind before t = textPiece (t.reverse ++ before) := by
  have hrest {c : Char} {t rest : Text} (hdrop : t.dropWhile (· = '\\') = c :: rest)
      (h : '[' ∉ t) : c ≠ '[' ∧ '[' ∉ rest := by
    have hmem : ∀ d ∈ c :: rest, d ∈ t := fun d hd =>
      (List.dropWhile_sublist _).mem (hdrop ▸ hd)
    refine ⟨?_, fun hc => h (hmem _ (List.mem_cons_of_mem c hc))⟩
    rintro rfl
    exact h (hmem _ List.mem_cons_self)
  fun_induction piecesBehind before t with
  | case1 before t slashes hdrop =>
    rw [reverse_eq_append_takeWhile t, hdrop]
    rfl
  | case2 _ _ _ _ _ _ _ hdrop => exact absurd rfl (hrest hdrop h).1
  | case3 _ _ _ _ _ hdrop => exact absurd rfl (hrest hdrop h).1
  | case4 before t slashes c rest hdrop hc ih =>
    rw [ih (hrest hdrop h).2, reverse_eq_append_takeWhile t, hdrop]
    simp [slashes]

theorem unescape_of_not_mem (h : '[' ∉ t) : unescape t = t := by
  fun_induction unescape t with
  | case1 t ih => simp at h
  | case2 c t hc ih => rw [ih (fun ht => h (List.mem_cons_of_mem c ht))]
  | case3 => rfl

theorem plain_of_isPlain (h : IsPlain t) : plain t = .ok t := by
  have hbracket : '[' ∉ t := fun hc => (h _ hc).1 rfl
  have hcolon : ':' ∉ t := fun hc => (h _ hc).2.1 rfl
  have hshown : shown t = t := by
    rw [shown, unescape_of_not_mem hbracket, Emoji.replace_of_not_mem hcolon, List.filter_eq_self]
    intro c hc
    rw [(h c hc).2.2]
    rfl
  rw [plain, pieces, piecesBehind_of_not_mem [] hbracket, List.append_nil, textPiece,
    List.reverse_reverse]
  split_ifs with hnil
  · rw [List.reverse_eq_nil_iff.mp hnil]
    rfl
  · rw [plainBehind, hshown]
    exact congrArg _ (List.append_nil t)

end Markup

namespace Command

/-! ## Documents -/

/-- The variables that a document lists: the entries of each of its mappings in turn. -/
def listedIn : Value → List (Scalar × Scalar × Value)
  | .map partitions => partitions.flatMap fun (mode, partition) =>
      match partition with
      | .map fields => fields.map fun (name, value) => (mode, name, value)
      | _ => []
  | _ => []

/-- A row as a variable of a document. -/
def Row.listed (r : Row) : Scalar × Scalar × Value :=
  (.text r.mode.name, .text r.name, .text r.value)

/-- The variables of a session as the value of a document. -/
def documentOf (s : Session) : Value :=
  .map (Mode.all.map fun mode => (.text mode.name,
    .map ((s.registry.store.bindings mode).entries.map fun (name, value) =>
      (.text name, .text value))))

theorem listedIn_documentOf (s : Session) (hoisted : List Text) :
    listedIn (documentOf s) = (rows s hoisted).map Row.listed := by
  simp only [listedIn, documentOf, rows, List.flatMap_map, List.map_flatMap, List.map_map]
  rfl

/-- A variable as an entry of a document. -/
def entryOf (binding : Text × Text) : Json.Entry :=
  ⟨binding.1, Json.quote .ascii binding.2, .text binding.2⟩

/-- The variables of a mode as an entry of a document. -/
def partitionOf (s : Session) (mode : Mode) : Json.Entry :=
  ⟨mode.name, Json.indented "  " (((s.registry.store.bindings mode).entries.map entryOf).map fun e =>
    (e.key, e.written)), .map (((s.registry.store.bindings mode).entries.map entryOf).map
      Json.Entry.field)⟩

/-- **The document of a listing holds the variables of the session.** -/
theorem parse_toJson (s : Session) : Json.parse (toJson s) = .ok (documentOf s) := by
  have htext : toJson s = Json.indented "" ((Mode.all.map (partitionOf s)).map fun e =>
      (e.key, e.written)) ++ "\n" := by
    simp only [toJson, partitionOf, entryOf, List.map_map, Function.comp_def]
  have hdocument : documentOf s = .map ((Mode.all.map (partitionOf s)).map Json.Entry.field) := by
    simp only [documentOf, partitionOf, entryOf, Json.Entry.field, List.map_map, Function.comp_def]
  have hkeys : (Mode.all.map Mode.name).Nodup := by decide
  rw [htext, hdocument]
  refine Json.parse_indented hkeys fun e he => ?_
  obtain ⟨mode, -, rfl⟩ := List.mem_map.mp he
  have hindent : ("  " : Text).all Json.isBlank = true := by decide
  refine Json.writes_indented (List.all_eq_true.mp hindent) ?_ fun e he => ?_
  · rw [List.map_map]
    exact (s.registry.store.bindings mode).nodup_keys
  · obtain ⟨binding, -, rfl⟩ := List.mem_map.mp he
    exact Json.writes_quote _ binding.2

/-! ## Listing -/

variable {tree : FileTree} {source : Path} {given : Option Path} {config : Config}
  {loaded : Option Source} {s : Session}

/-- The cells of some rows as a console shows them. -/
def shownCells (rs : List Row) : Except Fault (List (List Text)) :=
  rs.mapM fun r => r.cells.mapM Markup.plain

theorem tableOf_eq (rs : List Row) : tableOf rs =
    (shownCells rs).map fun cells => Output.table rs (Console.tableLines headings cells) := by
  change (do return Output.table rs (Console.tableLines headings (← shownCells rs))) = _
  cases shownCells rs <;> rfl

theorem mapM_eq_ok {α β ε : Type} {f : α → Except ε β} {g : α → β} {l : List α}
    (h : ∀ a ∈ l, f a = .ok (g a)) : l.mapM f = .ok (l.map g) := by
  induction l with
  | nil => rfl
  | cons a l ih =>
    obtain ⟨ha, hl⟩ := List.forall_mem_cons.mp h
    rw [List.mapM_cons, ha, ih hl]
    rfl

theorem shownCells_of_isPlain {rs : List Row}
    (h : ∀ r ∈ rs, Markup.IsPlain r.name ∧ Markup.IsPlain r.value) :
    shownCells rs = .ok (rs.map Row.cells) := by
  refine mapM_eq_ok fun r hr => ?_
  have hmode : Markup.IsPlain r.mode.name := by cases r.mode <;> decide
  have hmark : Markup.IsPlain (if r.hoisted then "yes" else "" : Text) := by
    cases r.hoisted <;> decide
  have hcells : r.cells.mapM Markup.plain = .ok (r.cells.map id) := by
    refine mapM_eq_ok fun t ht => Markup.plain_of_isPlain ?_
    simp only [Row.cells, List.mem_cons, List.not_mem_nil, or_false] at ht
    obtain rfl | rfl | rfl | rfl := ht
    · exact hmode
    · exact (h r hr).1
    · exact (h r hr).2
    · exact hmark
  rwa [List.map_id] at hcells

theorem hoisted_of_mem_rows {hoisted : List Text} {r : Row} (h : r ∈ rows s hoisted) :
    r.hoisted = true ↔ r.name ∈ hoisted := by
  obtain ⟨mode, -, hr⟩ := List.mem_flatMap.mp h
  obtain ⟨binding, -, rfl⟩ := List.mem_map.mp hr
  exact decide_eq_true_iff

/-- A row is marked when hoisting has written the root variable of its name. -/
theorem hoisted_of_mem_rows_optimize {r : Row} (h : r ∈ rows s.optimize.1 s.optimize.2) :
    r.hoisted = true ↔ s.Hoists .root r.name :=
  (hoisted_of_mem_rows h).trans Session.mem_names_optimize_iff

section Run

variable (hconfig : settingsOf tree source given = .ok config)
  (hsource : sourceOf tree source = .ok loaded)
  (hsession : sessionOf config (loaded.getD {}) = .ok s)

include hconfig hsource hsession

theorem run_eq (json : Bool) : Listing.run ⟨source, given, json⟩ tree =
    match Listing.output ⟨source, given, json⟩ s with
    | .ok output => .success ((sourceLog source loaded).map Log.Line.text) output
    | .error f => .crash f := by
  simp only [Listing.run, hconfig, hsource, hsession, bind, Except.bind]
  cases Listing.output ⟨source, given, json⟩ s <;> rfl

theorem run_of_nil (hnil : rows s.optimize.1 s.optimize.2 = []) :
    Listing.run ⟨source, given, false⟩ tree =
      .success ((sourceLog source loaded).map Log.Line.text) (.text "No variables found.\n") := by
  have houtput : Listing.output ⟨source, given, false⟩ s = .ok (.text "No variables found.\n") :=
    if_pos hnil
  rw [run_eq hconfig hsource hsession, houtput]

theorem run_of_ne_nil (hne : rows s.optimize.1 s.optimize.2 ≠ []) :
    Listing.run ⟨source, given, false⟩ tree =
      match shownCells (rows s.optimize.1 s.optimize.2) with
      | .ok cells => .success ((sourceLog source loaded).map Log.Line.text)
          (.table (rows s.optimize.1 s.optimize.2) (Console.tableLines headings cells))
      | .error f => .crash f := by
  have houtput : Listing.output ⟨source, given, false⟩ s = tableOf (rows s.optimize.1 s.optimize.2) :=
    if_neg hne
  rw [run_eq hconfig hsource hsession, houtput, tableOf_eq]
  cases shownCells (rows s.optimize.1 s.optimize.2) <;> rfl

end Run

/-- **The rows of a listing** are the variables that its document lists, in the same order. The cells
are shown as markup, which leaves plain names and values as they are. A row is marked when hoisting has
written the root variable of its name; so the marks tell what hoisting has written when no row beside the
root shares its name with such a variable. -/
theorem listing_rows (hconfig : settingsOf tree source given = .ok config)
    (hsource : sourceOf tree source = .ok loaded)
    (hsession : sessionOf config (loaded.getD {}) = .ok s) :
    let log := (sourceLog source loaded).map Log.Line.text
    let rs := rows s.optimize.1 s.optimize.2
    (∃ text document, Listing.run ⟨source, given, true⟩ tree = .success log (.text text) ∧
      Json.parse text = .ok document ∧ listedIn document = rs.map Row.listed) ∧
    (rs = [] → Listing.run ⟨source, given, false⟩ tree =
      .success log (.text "No variables found.\n")) ∧
    (rs ≠ [] → ∀ cells, shownCells rs = .ok cells → Listing.run ⟨source, given, false⟩ tree =
      .success log (.table rs (Console.tableLines headings cells))) ∧
    (rs ≠ [] → ∀ f, shownCells rs = .error f → Listing.run ⟨source, given, false⟩ tree = .crash f) ∧
    ((∀ r ∈ rs, Markup.IsPlain r.name ∧ Markup.IsPlain r.value) →
      shownCells rs = .ok (rs.map Row.cells)) ∧
    (∀ r ∈ rs, r.hoisted = true ↔ s.Hoists .root r.name) ∧
    ((∀ r ∈ rs, r.hoisted = true ↔ s.Hoists r.mode r.name) ↔
      ∀ r ∈ rs, r.mode ≠ .root → ¬ s.Hoists .root r.name) := by
  intro log rs
  refine ⟨⟨toJson s.optimize.1, documentOf s.optimize.1, ?json, parse_toJson _,
    listedIn_documentOf _ _⟩, fun hnil => ?none, fun hne cells hcells => ?shown,
    fun hne f hf => ?fault, shownCells_of_isPlain, fun r hr => hoisted_of_mem_rows_optimize hr, ?marks⟩
  case json => exact run_eq hconfig hsource hsession true
  case none => exact run_of_nil hconfig hsource hsession hnil
  case shown => rw [run_of_ne_nil hconfig hsource hsession hne, hcells]
  case fault => rw [run_of_ne_nil hconfig hsource hsession hne, hf]
  case marks =>
    constructor
    · intro h r hr hmode hwritten
      exact Session.not_hoists hmode
        ((h r hr).mp ((hoisted_of_mem_rows_optimize hr).mpr hwritten))
    · intro h r hr
      rw [hoisted_of_mem_rows_optimize hr]
      by_cases hmode : r.mode = .root
      · rw [hmode]
      · exact iff_of_false (h r hr hmode) (Session.not_hoists hmode)

/-! ## A name in two partitions -/

/-- A source with a dark value for a name, and a fallback that is repeated behind the same name. -/
def overlapping : FileTree where
  files := [(⟨"/", ["s.json"]⟩, "\x7b\"vars\": [\x7b\"values\": \x7b\"dark\": " ++
    "\x7b\"text\": \"white\"\x7d\x7d\x7d], \"styles\": [\x7b\"a\": \x7b\"color\": " ++
    "\"var(--text, black) var(--text, black) var(--text, black)\"\x7d\x7d]\x7d")]

/-- The entries of the source. -/
def overlappingSource : Source where
  vars := [⟨[], [("dark", .map [(.text "text", .text "white")])]⟩]
  styles := [⟨none, [("a", .rules [(.text "color",
    .property (.text "var(--text, black) var(--text, black) var(--text, black)"))])]⟩]

/-- The session behind it. -/
def overlappingSession : Session where
  registry := ⟨({} : Store).set .dark "text" "white", (∅ : UsageTable).track "text" "white"⟩
  chunks := ["a \x7b\n  color: var(--text, black) var(--text, black) var(--text, black);\n\x7d"]

/-- The rows for it. -/
def overlappingRows : List Row :=
  [⟨.root, "--text", "black", true⟩, ⟨.dark, "--text", "white", true⟩]

theorem settingsOf_overlapping : settingsOf overlapping ⟨"/", ["s.json"]⟩ none = .ok {} := by rfl

/-- The text of the file. -/
def overlappingText : Text := "\x7b\"vars\": [\x7b\"values\": \x7b\"dark\": " ++
  "\x7b\"text\": \"white\"\x7d\x7d\x7d], \"styles\": [\x7b\"a\": \x7b\"color\": " ++
  "\"var(--text, black) var(--text, black) var(--text, black)\"\x7d\x7d]\x7d"

/-- The document in it. -/
def overlappingDocument : Value :=
  .map [(.text "vars", .list [.map [(.text "values",
      .map [(.text "dark", .map [(.text "text", .text "white")])])]]),
    (.text "styles", .list [.map [(.text "a", .map [(.text "color",
      .text "var(--text, black) var(--text, black) var(--text, black)")])]])]

open Json in
theorem parse_overlapping : Json.parse overlappingText = .ok overlappingDocument := by
  have hvars := writes_singleton
    (writes_one "values" (writes_one "dark" (writes_one "text" (writes_quote 975 "white")))) rfl
  have hstyles := writes_singleton (writes_one "a" (writes_one "color"
    (writes_quote 976 "var(--text, black) var(--text, black) var(--text, black)"))) rfl
  have hkeys : ("vars" : Text) ≠ "styles" := by decide
  have hparse := parse_of_writes (writes_two hkeys hvars hstyles) [] rfl fun t h =>
    absurd (show some '\x7b' = some '\ufeff' from congrArg List.head? h) (by decide)
  rw [List.append_nil] at hparse
  exact hparse

theorem sourceOf_overlapping :
    sourceOf overlapping ⟨"/", ["s.json"]⟩ = .ok (some overlappingSource) := by
  have hload : Source.load overlapping ⟨"/", ["s.json"]⟩ =
      Source.ofEntry .json ⟨"/", ["s.json"]⟩ (some (.file overlappingText)) := rfl
  have hread : Source.Format.read .json ⟨"/", ["s.json"]⟩ (Text.unifyLineEnds overlappingText) =
      .ok overlappingDocument := by
    have hends : Text.unifyLineEnds overlappingText = overlappingText := rfl
    rw [hends, Source.Format.read, parse_overlapping]
  rw [sourceOf, hload, Source.ofEntry, hread]
  rfl

theorem sessionOf_overlapping : sessionOf {} overlappingSource = .ok overlappingSession := by rfl

theorem rows_overlapping :
    rows overlappingSession.optimize.1 overlappingSession.optimize.2 = overlappingRows := by
  decide +kernel

theorem listing_rows_overlapping :
    Listing.run ⟨⟨"/", ["s.json"]⟩, none, false⟩ overlapping = .success []
      (.table overlappingRows (Console.tableLines headings (overlappingRows.map Row.cells))) := by
  obtain ⟨-, -, hshown, -, hplain, -⟩ :=
    listing_rows settingsOf_overlapping sourceOf_overlapping sessionOf_overlapping
  rw [rows_overlapping] at hshown hplain
  exact hshown (by decide) _ (hplain (by decide))

/-- Not every marked row is a variable that hoisting has written: that of the dark mode is not. -/
theorem row_marked_beside_root : ¬ ∀ (tree : FileTree) (source : Path) (given : Option Path)
    (config : Config) (loaded : Option Source) (s : Session),
    settingsOf tree source given = .ok config → sourceOf tree source = .ok loaded →
    sessionOf config (loaded.getD {}) = .ok s → ∀ log rs lines,
    Listing.run ⟨source, given, false⟩ tree = .success log (.table rs lines) →
    ∀ r ∈ rs, r.hoisted = true ↔ s.Hoists r.mode r.name := by
  intro h
  have hrun : Listing.run ⟨⟨"/", ["s.json"]⟩, none, false⟩ overlapping = .success []
      (.table overlappingRows (Console.tableLines headings (overlappingRows.map Row.cells))) := by
    rw [run_of_ne_nil settingsOf_overlapping sourceOf_overlapping sessionOf_overlapping
      (by rw [rows_overlapping]; decide), rows_overlapping, shownCells_of_isPlain (by decide)]
    rfl
  have hmarked := h overlapping _ none {} _ overlappingSession settingsOf_overlapping
    sourceOf_overlapping sessionOf_overlapping _ _ _ hrun ⟨.dark, "--text", "white", true⟩ (by decide)
  exact Session.not_hoists (by decide) (hmarked.mp rfl)

end Command

end ThemedCss
