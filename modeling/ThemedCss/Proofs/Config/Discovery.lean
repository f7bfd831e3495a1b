import Mathlib.Data.List.Basic
import ThemedCss.Config.File

/-!
# Which settings file is found

The search goes from a directory upwards. A directory with a file of settings ends it, and so does
one with the file of a project whose tools have settings among them. The file of a project that is
no document, or one without tools, is passed over.

The tools of a foreign document need not be a table. A text or a list is searched for the word, and
what is neither ends the search with a fault; settings that are asked for in what is no table are a
fault as well.

* `HoldsText`: a path leads to a file that the parser answers for, or to nothing;
* `HasSection`, `Offers`: the settings of a document, and what a directory has to offer;
* `IsTaken`, `IsUnsearchable`: tools that are no table, by what is made of them;
* `foundIn_eq_some_iff`, `foundIn_eq_error_iff`, `foundIn_eq_none_iff`: one directory;
* `firstIn_eq_iff`, `firstIn_eq_none_iff`: one after the other;
* **`bounds_ofFields`**, `load_eq_fault_iff`: the settings of a file;
* **`locate_load_cases`**: which file is found, and what comes of loading any file;
* `foreign_tools_fault`: a document in which the tools are a number.
-/

namespace ThemedCss.Config

variable {tree : FileTree} {d p path start : Path} {dirs : List Path} {document : List (Scalar × Value)}
  {tool : Value} {text : Text} {f : Fault}

/-! ## Documents -/

/-- A path leads to nothing, or to a file for which the parser gives a document or says that there is
none. -/
structure HoldsText (tree : FileTree) (path : Path) : Prop where
  plain : tree.find path = .ok none ∨ ∃ text, tree.find path = .ok (some (.file text))
  parses : ∀ text f, tree.find path = .ok (some (.file text)) → Toml.parse text ≠ .error (.fault f)

theorem HoldsText.of_none (h : tree.find path = .ok none) : HoldsText tree path :=
  ⟨.inl h, fun _ _ htext => nomatch h.symm.trans htext⟩

theorem HoldsText.of_parse (h : tree.find path = .ok (some (.file text)))
    (hparse : Toml.parse text = .ok document) : HoldsText tree path := by
  refine ⟨.inr ⟨text, h⟩, fun text' f htext => ?_⟩
  cases h.symm.trans htext
  simp [hparse]

theorem HoldsText.entry (h : HoldsText tree path) :
    ∃ entry, tree.find path = .ok entry ∧ entry ≠ some .directory := by
  obtain hnone | ⟨text, htext⟩ := h.plain
  · exact ⟨none, hnone, nofun⟩
  · exact ⟨some (.file text), htext, nofun⟩

/-- Whether the document of a project has a table of tools with settings in it. -/
def HasSection (document : List (Scalar × Value)) : Prop :=
  ∃ tools, Value.field? toolKey document = some (.map tools) ∧
    (Value.field? sectionKey tools).isSome = true

/-- Whether tools that are no table are taken for settings: a text with the word for settings in it,
or a list with this word among its items. -/
def IsTaken (tool : Value) : Prop :=
  (∃ t, tool = .text t ∧ Text.contains sectionKey t = true) ∨
    ∃ items, tool = .list items ∧ .text sectionKey ∈ items

/-- Whether tools are neither a table nor a text nor a list. -/
def IsUnsearchable (tool : Value) : Prop :=
  (∀ fields, tool ≠ .map fields) ∧ (∀ t, tool ≠ .text t) ∧ ∀ items, tool ≠ .list items

theorem mentionsSection_eq_true_iff : mentionsSection document = .ok true ↔
    HasSection document ∨ ∃ tool, Value.field? toolKey document = some tool ∧ IsTaken tool := by
  unfold mentionsSection HasSection IsTaken
  split
  case h_3 items htool =>
    rw [Except.ok.injEq, List.any_eq_true, htool]
    constructor
    · rintro ⟨item, hitem, heq⟩
      split at heq
      · cases of_decide_eq_true heq
        exact .inr ⟨_, rfl, .inr ⟨items, rfl, hitem⟩⟩
      · cases heq
    · rintro (⟨tools, ⟨⟩, -⟩ | ⟨tool, ⟨⟩, ⟨t, ⟨⟩, -⟩ | ⟨_, ⟨⟩, hitem⟩⟩)
      exact ⟨_, hitem, decide_eq_true rfl⟩
  all_goals simp_all [Value.text]

theorem mentionsSection_eq_error_iff : mentionsSection document = .error f ↔
    f = .notSequence ∧ ∃ tool, Value.field? toolKey document = some tool ∧ IsUnsearchable tool := by
  unfold mentionsSection IsUnsearchable
  split
  case h_5 tool hmap hlist htext htool =>
    rw [Except.error.injEq, htool]
    refine ⟨fun h => ⟨h.symm, tool, rfl, hmap, htext, hlist⟩, fun h => h.1.symm⟩
  all_goals simp_all [Value.text]

/-! ## One directory -/

/-- A directory has no file of settings, but that of a project with a document. -/
def IsProject (tree : FileTree) (d : Path) (document : List (Scalar × Value)) : Prop :=
  tree.find (d.child fileName) = .ok none ∧
    ∃ text, tree.find (d.child projectName) = .ok (some (.file text)) ∧
      Toml.parse text = .ok document

/-- What a directory has to offer: its file of settings, or else that of a project whose document has
settings. -/
def Offers (tree : FileTree) (d p : Path) : Prop :=
  (∃ text, tree.find (d.child fileName) = .ok (some (.file text)) ∧ p = d.child fileName) ∨
    ∃ document, IsProject tree d document ∧ HasSection document ∧ p = d.child projectName

/-- Whether the file of a project in a directory is taken for one with settings. -/
def Misleads (tree : FileTree) (d : Path) : Prop :=
  ∃ document tool, IsProject tree d document ∧ Value.field? toolKey document = some tool ∧
    IsTaken tool

/-- Whether the tools of a project in a directory cannot be searched. -/
def Faults (tree : FileTree) (d : Path) : Prop :=
  ∃ document tool, IsProject tree d document ∧ Value.field? toolKey document = some tool ∧
    IsUnsearchable tool

/-- Whether the search goes on behind a directory. -/
def Passes (tree : FileTree) (d : Path) : Prop :=
  (∀ p, ¬ Offers tree d p) ∧ ¬ Misleads tree d ∧ ¬ Faults tree d

theorem projectMentions_eq_true_iff {entry : Option FileTree.Entry} :
    projectMentions entry = .ok true ↔ ∃ text document, entry = some (.file text) ∧
      Toml.parse text = .ok document ∧ mentionsSection document = .ok true := by
  unfold projectMentions
  split
  case h_3 text =>
    split <;> rename_i hparse <;> simp [hparse]
  all_goals simp

theorem projectMentions_eq_error_iff {entry : Option FileTree.Entry}
    (hplain : entry ≠ some .directory)
    (hparses : ∀ text f, entry = some (.file text) → Toml.parse text ≠ .error (.fault f)) :
    projectMentions entry = .error f ↔ ∃ text document, entry = some (.file text) ∧
      Toml.parse text = .ok document ∧ mentionsSection document = .error f := by
  unfold projectMentions
  split
  case h_1 => simp
  case h_2 => exact absurd rfl hplain
  case h_3 text =>
    split <;> rename_i hparse
    · simp [hparse]
    · exact absurd hparse (hparses text _ rfl)
    · simp [hparse]

theorem foundIn_of_own (h : tree.find (d.child fileName) = .ok (some (.file text))) :
    foundIn tree d = .ok (some (d.child fileName)) := by
  simp only [foundIn, FileTree.has, h]
  rfl

theorem foundIn_of_none {entry : Option FileTree.Entry}
    (h : tree.find (d.child fileName) = .ok none) (hentry : tree.find (d.child projectName) = .ok entry) :
    foundIn tree d = (projectMentions entry).map fun found =>
      if found then some (d.child projectName) else none := by
  simp only [foundIn, FileTree.has, h, hentry]
  change (do return if ← projectMentions entry then some (d.child projectName) else none) = _
  cases projectMentions entry <;> rfl

theorem not_isProject_of_own (h : tree.find (d.child fileName) = .ok (some (.file text))) :
    ¬ IsProject tree d document := by
  rintro ⟨hnone, -⟩
  exact nomatch h.symm.trans hnone

theorem isProject_iff {entry : Option FileTree.Entry} (h : tree.find (d.child fileName) = .ok none)
    (hentry : tree.find (d.child projectName) = .ok entry) : IsProject tree d document ↔
      ∃ text, entry = some (.file text) ∧ Toml.parse text = .ok document := by
  simp [IsProject, h, hentry]

theorem foundIn_eq_some_iff (hown : HoldsText tree (d.child fileName))
    (hproject : HoldsText tree (d.child projectName)) :
    foundIn tree d = .ok (some p) ↔ Offers tree d p ∨ Misleads tree d ∧ p = d.child projectName := by
  obtain hnone | ⟨text, htext⟩ := hown.plain
  · obtain ⟨entry, hentry, -⟩ := hproject.entry
    have hfound : foundIn tree d = .ok (some p) ↔
        projectMentions entry = .ok true ∧ p = d.child projectName := by
      rw [foundIn_of_none hnone hentry]
      cases projectMentions entry with
      | error f => simp [Except.map]
      | ok found => cases found <;> simp [Except.map, eq_comm]
    rw [hfound, projectMentions_eq_true_iff]
    simp only [mentionsSection_eq_true_iff, Offers, Misleads, isProject_iff hnone hentry, hnone]
    constructor
    · rintro ⟨⟨text, document, htext, hparse, hsection | ⟨tool, htool, htaken⟩⟩, rfl⟩
      · exact .inl (.inr ⟨document, ⟨text, htext, hparse⟩, hsection, rfl⟩)
      · exact .inr ⟨⟨document, tool, ⟨text, htext, hparse⟩, htool, htaken⟩, rfl⟩
    · rintro ((⟨text, ⟨⟩, -⟩ | ⟨document, ⟨text, htext, hparse⟩, hsection, rfl⟩) |
        ⟨⟨document, tool, ⟨text, htext, hparse⟩, htool, htaken⟩, rfl⟩)
      · exact ⟨⟨text, document, htext, hparse, .inl hsection⟩, rfl⟩
      · exact ⟨⟨text, document, htext, hparse, .inr ⟨tool, htool, htaken⟩⟩, rfl⟩
  · simp [foundIn_of_own htext, Offers, Misleads, not_isProject_of_own htext, htext, eq_comm]

theorem foundIn_eq_error_iff (hown : HoldsText tree (d.child fileName))
    (hproject : HoldsText tree (d.child projectName)) :
    foundIn tree d = .error f ↔ f = .notSequence ∧ Faults tree d := by
  obtain hnone | ⟨text, htext⟩ := hown.plain
  · obtain ⟨entry, hentry, hplain⟩ := hproject.entry
    have hfound : foundIn tree d = .error f ↔ projectMentions entry = .error f := by
      rw [foundIn_of_none hnone hentry]
      cases projectMentions entry <;> simp [Except.map]
    rw [hfound, projectMentions_eq_error_iff hplain fun text f h =>
      hproject.parses text f (hentry.trans (congrArg _ h))]
    simp only [mentionsSection_eq_error_iff, Faults, isProject_iff hnone hentry]
    constructor
    · rintro ⟨text, document, htext, hparse, rfl, tool, htool, hun⟩
      exact ⟨rfl, document, tool, ⟨text, htext, hparse⟩, htool, hun⟩
    · rintro ⟨rfl, document, tool, ⟨text, htext, hparse⟩, htool, hun⟩
      exact ⟨text, document, htext, hparse, rfl, tool, htool, hun⟩
  · simp [foundIn_of_own htext, Faults, not_isProject_of_own htext]

theorem foundIn_eq_none_iff (hown : HoldsText tree (d.child fileName))
    (hproject : HoldsText tree (d.child projectName)) :
    foundIn tree d = .ok none ↔ Passes tree d := by
  constructor
  · intro h
    refine ⟨fun p hp => ?_, fun hm => ?_, fun hf => ?_⟩
    · exact nomatch h.symm.trans ((foundIn_eq_some_iff hown hproject).mpr (.inl hp))
    · exact nomatch h.symm.trans ((foundIn_eq_some_iff hown hproject).mpr (.inr ⟨hm, rfl⟩))
    · exact nomatch h.symm.trans ((foundIn_eq_error_iff hown hproject).mpr ⟨rfl, hf⟩)
  · rintro ⟨hoffers, hmisleads, hfaults⟩
    match h : foundIn tree d with
    | .ok none => rfl
    | .ok (some p) =>
      obtain hp | ⟨hm, -⟩ := (foundIn_eq_some_iff hown hproject).mp h
      · exact absurd hp (hoffers p)
      · exact absurd hm hmisleads
    | .error f => exact absurd ((foundIn_eq_error_iff hown hproject).mp h).2 hfaults

/-! ## One directory after the other -/

theorem firstIn_eq_none_iff :
    firstIn tree dirs = .ok none ↔ ∀ d ∈ dirs, foundIn tree d = .ok none := by
  induction dirs with
  | nil => simp [firstIn]
  | cons d dirs ih =>
    rw [firstIn, List.forall_mem_cons]
    split
    case h_1 hnone => rw [ih, and_iff_right hnone]
    case h_2 hsome => exact ⟨fun h => absurd h hsome, fun h => absurd h.1 hsome⟩

/-- A search that ends with something else ends at the first directory that gives this. -/
theorem firstIn_eq_iff {found : Except Fault (Option Path)} (hfound : found ≠ .ok none) :
    firstIn tree dirs = found ↔ ∃ nearer d further, dirs = nearer ++ d :: further ∧
      (∀ d' ∈ nearer, foundIn tree d' = .ok none) ∧ foundIn tree d = found := by
  induction dirs with
  | nil => simpa [firstIn] using hfound.symm
  | cons d dirs ih =>
    rw [firstIn]
    split
    case h_1 hnone =>
      rw [ih]
      constructor
      · rintro ⟨nearer, d', further, rfl, hnearer, hd'⟩
        exact ⟨d :: nearer, d', further, rfl, List.forall_mem_cons.mpr ⟨hnone, hnearer⟩, hd'⟩
      · rintro ⟨_ | ⟨d', nearer⟩, d', further, heq, hnearer, hd'⟩ <;> cases heq
        · exact absurd (hd'.symm.trans hnone) hfound
        · exact ⟨nearer, _, further, rfl, (List.forall_mem_cons.mp hnearer).2, hd'⟩
    case h_2 hsome =>
      constructor
      · exact fun h => ⟨[], d, dirs, rfl, nofun, h⟩
      · rintro ⟨_ | ⟨d', nearer⟩, d', further, heq, hnearer, hd'⟩ <;> cases heq
        · exact hd'
        · exact absurd (hnearer d List.mem_cons_self) hsome

/-! ## The settings of a file -/

theorem le_of_positive {v : Value} {n : Nat} (h : positive v = .ok n) : 1 ≤ n := by
  obtain ⟨k, -, hk⟩ := bind_eq_ok_iff.mp h
  split at hk
  · cases hk
    omega
  · cases hk

theorem le_of_bound {v : Value} {n : Nat} (h : bound v = .ok (some n)) : 1 ≤ n := by
  unfold bound at h
  split at h
  · cases h
  · obtain ⟨k, hk, heq⟩ := map_eq_ok_iff.mp h
    cases heq
    exact le_of_positive hk

theorem field_cases {α : Type} {P : α → Prop} {name : Text} {read : Value → Except Problem α}
    {default a : α} {fields : List (Scalar × Value)} (hdefault : P default)
    (hread : ∀ v a, read v = .ok a → P a) (h : field name read default fields = .ok a) : P a := by
  unfold field at h
  split at h
  · cases h
    exact hdefault
  · rename_i v _
    match hv : read v with
    | .ok b =>
      rw [hv] at h
      cases h
      exact hread v a hv
    | .error problem =>
      rw [hv] at h
      cases h

theorem bounds_ofFields {fields : List (Scalar × Value)} {c : Config} (h : ofFields fields = .ok c) :
    1 ≤ c.hoistThreshold ∧ ∀ n ∈ c.cacheMaxEntries, 1 ≤ n := by
  unfold ofFields at h
  dsimp only at h
  split at h
  · simp only [bind_eq_ok_iff] at h
    obtain ⟨_, hthreshold, _, -, _, -, _, -, _, -, _, -, _, hentries, heq⟩ := h
    cases heq
    exact ⟨field_cases (by decide) (fun _ _ => le_of_positive) hthreshold,
      field_cases (P := fun o => ∀ n ∈ o, 1 ≤ n) (by simp)
        (fun v o hv n hn => le_of_bound (hv.trans (congrArg _ hn))) hentries⟩
  · cases h

theorem load_eq_ok {c : Config} (h : load tree (some path) = .ok c) :
    c = {} ∨ ∃ fields, ofFields fields = .ok c := by
  obtain ⟨entry, -, h⟩ := bind_eq_ok_iff.mp h
  match entry with
  | none =>
    cases h
    exact .inl rfl
  | some .directory => cases h
  | some (.file text) =>
    change ofText path text = .ok c at h
    unfold ofText at h
    split at h
    · unfold ofDocument at h
      split at h
      · cases h
      · cases h
        exact .inl rfl
      · rename_i fields _
        cases hfields : ofFields fields with
        | ok c' =>
          rw [hfields] at h
          cases h
          exact .inr ⟨fields, hfields⟩
        | error issues =>
          rw [hfields] at h
          cases h
      · cases h
    · cases h
    · cases h

theorem section?_eq_error_iff : section? path document = .error f ↔
    f = .notMapping ∧ path.name = projectName ∧
      ∃ tool, Value.field? toolKey document = some tool ∧ ∀ fields, tool ≠ .map fields := by
  unfold section?
  split
  case isFalse hname => simp [hname]
  case isTrue hname =>
    split
    case h_3 tool hmap htool =>
      rw [Except.error.injEq, htool]
      exact ⟨fun h => ⟨h.symm, hname, tool, rfl, hmap⟩, fun h => h.1.symm⟩
    all_goals simp_all

theorem ofDocument_eq_fault_iff :
    ofDocument path document = .error (.fault f) ↔ section? path document = .error f := by
  unfold ofDocument
  split
  case h_3 fields hsection =>
    rw [hsection]
    cases ofFields fields <;> simp [Except.mapError]
  all_goals simp_all

/-- Loading a file is a fault exactly when it is that of a project with tools that are no table. -/
theorem load_eq_fault_iff (h : HoldsText tree path) : load tree (some path) = .error (.fault f) ↔
    f = .notMapping ∧ path.name = projectName ∧ ∃ text document tool,
      tree.find path = .ok (some (.file text)) ∧ Toml.parse text = .ok document ∧
        Value.field? toolKey document = some tool ∧ ∀ fields, tool ≠ .map fields := by
  obtain hnone | ⟨text, htext⟩ := h.plain
  · have hload : load tree (some path) = .ok {} := by
      rw [load, hnone]
      rfl
    simp [hload, hnone]
  · have hload : load tree (some path) = ofText path text := by
      rw [load, htext]
      rfl
    rw [hload, ofText]
    split
    case h_1 document hparse =>
      rw [ofDocument_eq_fault_iff, section?_eq_error_iff]
      simp [htext, hparse]
    case h_2 f hparse => exact absurd hparse (h.parses text f htext)
    case h_3 hparse => simp [htext, hparse]

/-! ## Finding and loading -/

/-- A search ends at the first directory that does not let it pass: with the settings on offer there,
with a project that is taken for one with settings, or with a fault. The settings of any file are
within their bounds or have an error of their own, but for a project with tools that are no
table. -/
theorem locate_load_cases (hdirs : searched tree start = .ok dirs)
    (htexts : ∀ d ∈ dirs, HoldsText tree (d.child fileName) ∧ HoldsText tree (d.child projectName)) :
    (∀ p, locate tree start = .ok (some p) ↔ ∃ nearer d further, dirs = nearer ++ d :: further ∧
      (∀ d' ∈ nearer, Passes tree d') ∧
        (Offers tree d p ∨ Misleads tree d ∧ p = d.child projectName)) ∧
    (locate tree start = .ok none ↔ ∀ d ∈ dirs, Passes tree d) ∧
    (∀ f, locate tree start = .error f ↔ f = .notSequence ∧ ∃ nearer d further,
      dirs = nearer ++ d :: further ∧ (∀ d' ∈ nearer, Passes tree d') ∧ Faults tree d) ∧
    ∀ path, HoldsText tree path →
      (∀ c, load tree (some path) = .ok c →
        1 ≤ c.hoistThreshold ∧ ∀ n ∈ c.cacheMaxEntries, 1 ≤ n) ∧
      ∀ f, load tree (some path) = .error (.fault f) ↔
        f = .notMapping ∧ path.name = projectName ∧ ∃ text document tool,
          tree.find path = .ok (some (.file text)) ∧ Toml.parse text = .ok document ∧
            Value.field? toolKey document = some tool ∧ ∀ fields, tool ≠ .map fields := by
  have hlocate : locate tree start = firstIn tree dirs := by
    rw [locate, hdirs]
    rfl
  have hpasses : ∀ d ∈ dirs, foundIn tree d = .ok none ↔ Passes tree d := fun d hd =>
    foundIn_eq_none_iff (htexts d hd).1 (htexts d hd).2
  have hends (found : Except Fault (Option Path)) (hfound : found ≠ .ok none) :
      firstIn tree dirs = found ↔ ∃ nearer d further, dirs = nearer ++ d :: further ∧
        (∀ d' ∈ nearer, Passes tree d') ∧ d ∈ dirs ∧ foundIn tree d = found := by
    rw [firstIn_eq_iff hfound]
    refine exists₃_congr fun nearer d further => and_congr_right fun heq => ?_
    subst heq
    rw [and_iff_right (show d ∈ nearer ++ d :: further by simp),
      forall₂_congr fun d' hd' => hpasses d' (List.mem_append_left _ hd')]
  rw [hlocate]
  refine ⟨fun p => ?some, ?none, fun f => ?error, fun path hpath => ⟨fun c hc => ?bounds, fun f =>
    load_eq_fault_iff hpath⟩⟩
  case some =>
    rw [hends (.ok (some p)) nofun]
    refine exists₃_congr fun nearer d further => and_congr_right fun heq => and_congr_right fun _ => ?_
    have hd : d ∈ dirs := by simp [heq]
    rw [and_iff_right hd, foundIn_eq_some_iff (htexts d hd).1 (htexts d hd).2]
  case none => rw [firstIn_eq_none_iff, forall₂_congr hpasses]
  case error =>
    rw [hends (.error f) nofun]
    constructor
    · rintro ⟨nearer, d, further, heq, hnearer, hd, hfound⟩
      obtain ⟨rfl, hfaults⟩ := (foundIn_eq_error_iff (htexts d hd).1 (htexts d hd).2).mp hfound
      exact ⟨rfl, nearer, d, further, heq, hnearer, hfaults⟩
    · rintro ⟨rfl, nearer, d, further, heq, hnearer, hfaults⟩
      have hd : d ∈ dirs := by simp [heq]
      exact ⟨nearer, d, further, heq, hnearer, hd,
        (foundIn_eq_error_iff (htexts d hd).1 (htexts d hd).2).mpr ⟨rfl, hfaults⟩⟩
  case bounds =>
    obtain rfl | ⟨fields, hfields⟩ := load_eq_ok hc
    · exact ⟨by decide, by simp⟩
    · exact bounds_ofFields hfields

/-! ## A project inside another -/

theorem parse_of_statement {rest : Text} {s : Toml.Statement} {d : Toml.Draft}
    (hends : Text.joinLineEnds text = text) (hskip : Toml.skipLines text = some text)
    (hne : text ≠ []) (hs : Toml.statement text = .ok (s, rest))
    (hend : Toml.lineEnd rest = some []) (hd : Toml.Draft.add {} s = some d) :
    Toml.parse text = .ok (Toml.fields d.items) := by
  have hnil : Toml.statements [] = ([], none) := by
    rw [Toml.statements, Toml.skipLines]
    rfl
  have hstatements : Toml.statements text = ([s], none) := by
    obtain ⟨c, t, rfl⟩ := List.exists_cons_of_ne_nil hne
    rw [Toml.statements, hskip]
    dsimp only
    rw [hs]
    dsimp only
    rw [hend]
    dsimp only
    rw [dif_pos (List.length_cons ▸ Nat.zero_lt_succ _), hnil]
  unfold Toml.parse
  rw [hends, hstatements]
  dsimp only
  rw [List.foldlM_cons, hd]
  rfl

theorem statement_declare {t rest : Text} {keys : List Text} (ht : t.head? ≠ some '[')
    (hpath : Toml.path (Toml.skip t) = some (keys, ']' :: rest)) :
    Toml.statement ('[' :: t) = .ok (.declare keys, rest) := by
  have hheader : Toml.header "]" t = some (keys, rest) := by
    rw [Toml.header, hpath]
    rfl
  rw [Toml.statement]
  · rw [hheader]
    rfl
  · rintro t' rfl
    exact ht rfl

/-- The files of a project with settings, and those of another project inside it, with this
document. -/
def nestedProjects (document : Text) : FileTree where
  files := [(⟨"/", ["pyproject.toml"]⟩, "[tool.stylecraft]\n"),
    (⟨"/", ["site", "pyproject.toml"]⟩, document)]

/-- The directory of the inner project. -/
def innerProject : Path := ⟨"/", ["site"]⟩

theorem parse_outerProject : Toml.parse "[tool.stylecraft]\n" =
    .ok [(.text "tool", .map [(.text "stylecraft", .map [])])] := by
  have hskip : Toml.skipLines "[tool.stylecraft]\n" = some ("[tool.stylecraft]\n" : Text) := by
    rw [Toml.skipLines]
    rfl
  have hlast : Toml.path "stylecraft]\n" = some ([("stylecraft" : Text)], ("]\n" : Text)) := by
    rw [Toml.path]
    rfl
  have hpath : Toml.path "tool.stylecraft]\n" =
      some ([("tool" : Text), ("stylecraft" : Text)], ("]\n" : Text)) := by
    rw [Toml.path]
    change dite _ _ _ = _
    rw [dif_pos (by decide)]
    exact congrArg (Option.map _) hlast
  have hstatement : Toml.statement "[tool.stylecraft]\n" =
      .ok (.declare [("tool" : Text), ("stylecraft" : Text)], "\n") :=
    statement_declare (t := "tool.stylecraft]\n") (by decide) hpath
  exact parse_of_statement rfl hskip (by decide) hstatement rfl rfl

theorem parse_project : Toml.parse "[project]\n" = .ok [(.text "project", .map [])] := by
  have hskip : Toml.skipLines "[project]\n" = some ("[project]\n" : Text) := by
    rw [Toml.skipLines]
    rfl
  have hpath : Toml.path "project]\n" = some ([("project" : Text)], ("]\n" : Text)) := by
    rw [Toml.path]
    rfl
  have hstatement : Toml.statement "[project]\n" = .ok (.declare [("project" : Text)], "\n") :=
    statement_declare (t := "project]\n") (by decide) hpath
  exact parse_of_statement rfl hskip (by decide) hstatement rfl rfl

theorem parse_number : Toml.parse "tool = 5\n" = .ok [(.text "tool", .scalar (.int 5))] := by
  have hskip : Toml.skipLines "tool = 5\n" = some ("tool = 5\n" : Text) := by
    rw [Toml.skipLines]
    rfl
  have hpath : Toml.path "tool = 5\n" = some ([("tool" : Text)], ("= 5\n" : Text)) := by
    rw [Toml.path]
    rfl
  have hvalue : Toml.value Toml.maxRoom "5\n" = .ok (.scalar (.int 5), "\n") := by
    rw [Toml.value]
    · rfl
    · exact fun _ h => absurd (show some '5' = some '[' from congrArg List.head? h) (by decide)
    · exact fun _ h => absurd (show some '5' = some '\x7b' from congrArg List.head? h) (by decide)
  have hpair : Toml.pair Toml.maxRoom "tool = 5\n" =
      .ok (([("tool" : Text)], .scalar (.int 5)), "\n") := by
    have hblank : Toml.skip "tool = 5\n" = "tool = 5\n" := rfl
    rw [Toml.pair, hblank, hpath]
    change dite _ _ _ = _
    rw [dif_pos (by decide)]
    exact congrArg (Except.map _) hvalue
  have hstatement : Toml.statement "tool = 5\n" =
      .ok (.assign [("tool" : Text)] (.scalar (.int 5)), "\n") := by
    have hhead (rest : Text) : ("tool = 5\n" : Text) ≠ '[' :: rest := fun h =>
      absurd (show some 't' = some '[' from congrArg List.head? h) (by decide)
    rw [Toml.statement]
    · rw [hpair]
      rfl
    · exact fun _ => hhead _
    · exact hhead
  exact parse_of_statement rfl hskip (by decide) hstatement rfl rfl

theorem holdsText_nestedProjects (hparse : Toml.parse text = .ok document) :
    ∀ d ∈ [innerProject, innerProject.parent],
      HoldsText (nestedProjects text) (d.child fileName) ∧
        HoldsText (nestedProjects text) (d.child projectName) := by
  intro d hd
  obtain rfl | rfl := List.mem_pair.mp hd
  · exact ⟨.of_none rfl, .of_parse rfl hparse⟩
  · exact ⟨.of_none rfl, .of_parse rfl parse_outerProject⟩

theorem foundIn_innerProject (hparse : Toml.parse text = .ok document) :
    foundIn (nestedProjects text) innerProject = (mentionsSection document).map fun mentions =>
      if mentions then some (innerProject.child projectName) else none := by
  have hentry : (nestedProjects text).find (innerProject.child projectName) =
      .ok (some (.file text)) := rfl
  rw [foundIn_of_none rfl hentry, projectMentions, hparse]

/-- The settings of the outer project are found behind an inner one without tools. -/
theorem locate_load_cases_nested :
    locate (nestedProjects "[project]\n") innerProject = .ok (some ⟨"/", ["pyproject.toml"]⟩) := by
  have htexts := holdsText_nestedProjects parse_project
  have hpasses : Passes (nestedProjects "[project]\n") innerProject :=
    (foundIn_eq_none_iff (htexts _ (by simp)).1 (htexts _ (by simp)).2).mp
      ((foundIn_innerProject parse_project).trans rfl)
  exact ((locate_load_cases rfl htexts).1 _).mpr ⟨[innerProject], innerProject.parent, [], rfl,
    List.forall_mem_singleton.mpr hpasses,
    .inl (.inr ⟨_, ⟨rfl, _, rfl, parse_outerProject⟩, ⟨_, rfl, rfl⟩, rfl⟩)⟩

/-- Not every search with documents on its way comes to an end: those of an inner project whose tools
are a number end it. -/
theorem foreign_tools_fault : ¬ ∀ (tree : FileTree) (start : Path) (dirs : List Path),
    searched tree start = .ok dirs →
    (∀ d ∈ dirs, HoldsText tree (d.child fileName) ∧ HoldsText tree (d.child projectName)) →
    ∃ found, locate tree start = .ok found := by
  intro h
  obtain ⟨found, hfound⟩ := h (nestedProjects "tool = 5\n") innerProject _ rfl
    (holdsText_nestedProjects parse_number)
  have hfault : locate (nestedProjects "tool = 5\n") innerProject = .error .notSequence := by
    change firstIn _ [innerProject, innerProject.parent] = _
    rw [firstIn, foundIn_innerProject parse_number]
    rfl
  cases hfault.symm.trans hfound

end ThemedCss.Config
