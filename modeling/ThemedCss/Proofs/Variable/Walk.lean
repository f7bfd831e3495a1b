import ThemedCss.Proofs.Variable.Position
import ThemedCss.Proofs.Variable.Spot
import ThemedCss.Session

/-!
# A walk as a series of writes

The walk through a tree writes the values of the tree one after the other: a text to the partition
and under the name that its way gives, and its reference to its position.

* `Spot.write`: one value written;
* `Spot.foldl_write_behind`: writing below a key;
* `Collection.foldl_write_spotsIn`: a walk writes the values of its tree;
* `leavesBelow`, `Leaf.write`, `Leaf.count`: the texts of a tree as leaves, and what each one does to
  the partitions and to the table;
* **`collect_text_by_text`**: collecting writes and counts the texts of the tree, and the variables of
  a component leave the root alone.
-/

namespace ThemedCss

open Variable

/-! ## Writing one value -/

namespace Spot

/-- The registry and the references with a value written: a text is recorded and its reference
stands at its position, and a mapping that is a level is there as one. -/
def write (o : CollectOptions) (path : List Text) (mode : Option Mode)
    (w : Registry × ReferenceTree) (s : Spot) : Registry × ReferenceTree :=
  match s.themed? o mode with
  | some t =>
    let r := (t.leaf o path).record w.1
    (r, .alter (fun _ => .reference (r.resolve (reference (t.leaf o path).path) t.text)) t.position
      (some w.2))
  | none => if s.opens o then (w.1, .alter .opened (s.position o) (some w.2)) else w

variable {o : CollectOptions} {path : List Text} {mode : Option Mode} {b : Branch} {m : Mode}
  {s : Spot}

theorem write_of_themed? {t : ThemedText} (h : s.themed? o mode = some t)
    (w : Registry × ReferenceTree) :
    write o path mode w s =
      ((t.leaf o path).record w.1, .alter (fun _ => .reference
        (((t.leaf o path).record w.1).resolve (reference (t.leaf o path).path) t.text)) t.position
        (some w.2)) := by
  rw [write, h]

theorem write_of_opens (h : s.themed? o mode = none) (hs : s.opens o = true)
    (w : Registry × ReferenceTree) :
    write o path mode w s = (w.1, .alter .opened (s.position o) (some w.2)) := by
  rw [write, h]
  exact if_pos hs

theorem write_of_not_opens (h : s.themed? o mode = none) (hs : s.opens o = false)
    (w : Registry × ReferenceTree) : write o path mode w s = w := by
  rw [write, h]
  exact if_neg (Bool.eq_false_iff.mp hs)

theorem write_behind_scope (hb : b.scope? o = some m) (path : List Text) (mode : Option Mode)
    (w : Registry × ReferenceTree) (s : Spot) :
    write o path mode w (s.behind b) = write o path (some m) w s := by
  unfold write
  rw [themed?_behind_scope hb, position_behind, hb]
  rfl

/-- Below a key that is no scope the writing goes on with a longer path, in what stands there. -/
theorem write_behind (hb : b.scope? o = none) (path : List Text) (mode : Option Mode)
    (r : Registry) (tree : ReferenceTree) (entries : List (Text × ReferenceTree)) (s : Spot) :
    write o path mode (r, .level (Entries.put b.key tree entries)) (s.behind b) =
      ((write o (path ++ [segment b.key]) mode (r, tree) s).1,
        .level (Entries.put b.key (write o (path ++ [segment b.key]) mode (r, tree) s).2
          entries)) := by
  have halter (f : Option ReferenceTree → ReferenceTree) (p : List Text) :
      ReferenceTree.alter f (b.key :: p) (some (.level (Entries.put b.key tree entries))) =
        .level (Entries.put b.key (.alter f p (some tree)) entries) := by
    rw [ReferenceTree.alter, ReferenceTree.entriesOf_level, Entries.get?_put, if_pos rfl,
      Entries.put_put]
  have hposition : (s.behind b).position o = b.key :: s.position o := by
    rw [position_behind, hb]
    rfl
  have hthemed := themed?_behind hb mode s
  cases ht : s.themed? o mode with
  | some t =>
    rw [ht] at hthemed
    rw [write_of_themed? hthemed, write_of_themed? ht, ThemedText.leaf_cons, halter]
  | none =>
    rw [ht] at hthemed
    cases hs : s.opens o with
    | true => rw [write_of_opens hthemed hs, write_of_opens ht hs, hposition, halter]
    | false => rw [write_of_not_opens hthemed hs, write_of_not_opens ht hs]

theorem foldl_write_behind_scope (hb : b.scope? o = some m) (path : List Text)
    (mode : Option Mode) (w : Registry × ReferenceTree) (spots : List Spot) :
    (spots.map (behind b)).foldl (write o path mode) w = spots.foldl (write o path (some m)) w := by
  rw [List.foldl_map]
  exact congrArg (fun f => spots.foldl f w)
    (funext fun w => funext fun s => write_behind_scope hb path mode w s)

theorem foldl_write_behind (hb : b.scope? o = none) (path : List Text) (mode : Option Mode)
    (r : Registry) (tree : ReferenceTree) (entries : List (Text × ReferenceTree))
    (spots : List Spot) :
    (spots.map (behind b)).foldl (write o path mode)
        (r, .level (Entries.put b.key tree entries)) =
      ((spots.foldl (write o (path ++ [segment b.key]) mode) (r, tree)).1,
        .level (Entries.put b.key
          (spots.foldl (write o (path ++ [segment b.key]) mode) (r, tree)).2 entries)) := by
  induction spots generalizing r tree with
  | nil => rfl
  | cons s spots ih =>
    rw [List.map_cons, List.foldl_cons, write_behind hb, ih]
    rfl

end Spot

/-! ## A walk writes the values of its tree -/

namespace Collection

/-- The registry and the references of a collection. -/
def result (c : Collection) : Registry × ReferenceTree := (c.registry, .level c.references)

theorem below_eq (key : Text) (entries : List (Text × ReferenceTree)) :
    below key entries = ReferenceTree.entriesOf (Entries.get? key entries) := by
  unfold below
  rcases Entries.get? key entries with _ | ⟨text⟩ | ⟨es⟩ <;> rfl

variable {o : CollectOptions} {path : List Text} {mode : Option Mode} {key : Text}

theorem write_leaf (s : Spot) (hv : s.last.value.isLeaf = true) (hposition : s.position o = [key])
    (path : List Text) (outer : Option Mode) (c : Collection) :
    s.write o path outer c.result =
      (leaf o (path ++ [segment key]) key (s.mode? o outer) s.last.value c).result := by
  have hthemed : s.themed? o outer =
      s.last.value.css?.map (⟨[key], s.mode? o outer, ·⟩) := by
    rw [Spot.themed?, if_pos hv, hposition]
  have hopens : s.opens o = false := by
    unfold Spot.opens
    cases hvalue : s.last.value with
    | map fields => rw [hvalue] at hv; cases hv
    | _ => rfl
  unfold leaf
  cases ht : s.last.value.css? with
  | none =>
    rw [ht] at hthemed
    exact Spot.write_of_not_opens hthemed hopens c.result
  | some text =>
    rw [ht] at hthemed
    exact Spot.write_of_themed? hthemed c.result

theorem write_single {above : Option Text} {all : List (Scalar × Value)} (v : Value)
    (hv : v.isLeaf = true) (h : o.splits above all = false) (path : List Text)
    (mode : Option Mode) (c : Collection) :
    Spot.write o path mode c.result ⟨[], above, all, key, v⟩ =
      (leaf o (path ++ [segment key]) key mode v c).result := by
  have hb : Branch.scope? o ⟨above, all, key, v⟩ = none := Branch.scope?_of_isLeaf hv h
  have hposition : Spot.position o ⟨[], above, all, key, v⟩ = [key] := by
    rw [Spot.position_single, hb]
    rfl
  have hwrite := write_leaf ⟨[], above, all, key, v⟩ hv hposition path mode c
  rw [Spot.mode?_single, hb] at hwrite
  exact hwrite

/-! ### One value for each of some modes -/

/-- The mode of an entry among the values for some modes, with its value. -/
def modeLeaf (field : Scalar × Value) : Mode × Value :=
  ((Mode.ofThemeKey? field.1.display).getD .root, field.2)

/-- Whether an entry is the value for a mode. -/
def isModeLeaf (field : Scalar × Value) : Bool :=
  (Mode.ofThemeKey? field.1.display).isSome && field.2.isLeaf

theorem mapM_eq_ite {α β : Type} {f : α → Option β} {p : α → Bool} {g : α → β}
    (hf : ∀ a, f a = if p a then some (g a) else none) (l : List α) :
    l.mapM f = if l.all p then some (l.map g) else none := by
  induction l with
  | nil => rfl
  | cons a l ih =>
    rw [List.mapM_cons, ih, hf, List.all_cons, List.map_cons]
    cases p a <;> cases l.all p <;> rfl

theorem modeLeaves?_eq (fields : List (Scalar × Value)) :
    modeLeaves? fields =
      if !fields.isEmpty && fields.all isModeLeaf then some (fields.map modeLeaf) else none := by
  cases fields with
  | nil => rfl
  | cons field fields =>
    refine mapM_eq_ite (fun f => ?_) (field :: fields)
    obtain ⟨k, v⟩ := f
    rw [isModeLeaf, modeLeaf]
    dsimp only
    cases Mode.ofThemeKey? k.display <;> cases v.isLeaf <;> rfl

theorem splits_of_scopeOf? {above : Text} {m : Mode} (h : o.scopeOf? above = some m)
    (fields : List (Scalar × Value)) : o.splits (some above) fields = false := by
  unfold CollectOptions.scopeOf? at h
  split at h
  · rw [CollectOptions.splits, Option.any_some, h, Option.isNone_some, Bool.and_false,
      Bool.false_and, Bool.false_and]
  · cases h

theorem modeLeaves?_of_scopeOf? {above : Text} (h : o.scopeOf? above = none)
    (fields : List (Scalar × Value)) :
    (if o.themeKeys = .scope then modeLeaves? fields else none) =
      if o.splits (some above) fields then some (fields.map modeLeaf) else none := by
  unfold CollectOptions.scopeOf? at h
  unfold CollectOptions.splits
  by_cases hs : o.themeKeys = .scope
  · rw [if_pos hs] at h
    rw [if_pos hs, modeLeaves?_eq, Option.any_some, h, decide_eq_true hs]
    rfl
  · rw [if_neg hs, decide_eq_false hs]
    rfl

theorem of_splits {above : Option Text} {fields : List (Scalar × Value)} {f : Scalar × Value}
    (h : o.splits above fields = true) (hf : f ∈ fields) :
    f.2.isLeaf = true ∧ Mode.ofThemeKey? f.1.display = some (modeLeaf f).1 ∧
      o.scopeOf? f.1.display = some (modeLeaf f).1 := by
  simp only [CollectOptions.splits, Bool.and_eq_true, List.all_eq_true, decide_eq_true_eq] at h
  obtain ⟨⟨⟨hs, -⟩, -⟩, hall⟩ := h
  obtain ⟨hkey, hleaf⟩ := hall f hf
  obtain ⟨m, hm⟩ := Option.isSome_iff_exists.mp hkey
  have hmode : Mode.ofThemeKey? f.1.display = some (modeLeaf f).1 := by
    rw [modeLeaf, hm]
    rfl
  exact ⟨hleaf, hmode, (if_pos hs).trans hmode⟩

theorem spotsIn_of_splits {above : Option Text} {all fields : List (Scalar × Value)}
    (h : o.splits above all = true) (hfields : fields ⊆ all) :
    spotsIn o above all fields = fields.map fun f => ⟨[], above, all, f.1.display, f.2⟩ := by
  induction fields with
  | nil => rw [spotsIn, List.map_nil]
  | cons f fields ih =>
    obtain ⟨k, v⟩ := f
    obtain ⟨hf, hfields⟩ := List.cons_subset.mp hfields
    rw [spotsIn, spotsAt_of_isLeaf (of_splits h hf).1, ih hfields, List.map_cons]
    rfl

/-- The values for some modes come in the order of their entries, the light ones first. -/
theorem arranged_of_splits {above : Option Text} {fields : List (Scalar × Value)}
    (h : o.splits above fields = true) :
    ∃ sorted ⊆ fields, lightFirst (fields.map modeLeaf) = sorted.map modeLeaf ∧
      arranged true (spotsIn o above fields fields) =
        sorted.map fun f => ⟨[], above, fields, f.1.display, f.2⟩ := by
  have hlight : ∀ f ∈ fields,
      ((modeLeaf f).1 = .light ↔ Mode.ofThemeKey? f.1.display = some .light) := by
    intro f hf
    rw [(of_splits h hf).2.1, Option.some.injEq]
  let isLight (f : Scalar × Value) : Bool := Mode.ofThemeKey? f.1.display = some .light
  refine ⟨fields.filter isLight ++ fields.filter (!isLight ·), ?_, ?_, ?_⟩
  · exact List.append_subset.mpr
      ⟨List.filter_sublist.subset, List.filter_sublist.subset⟩
  · rw [lightFirst, List.filter_map, List.filter_map, List.map_append]
    congr 2
    · exact List.filter_congr fun f hf => decide_eq_decide.mpr (hlight f hf)
    · refine List.filter_congr fun f hf => ?_
      change decide (¬ (modeLeaf f).1 = .light) = !decide _
      rw [decide_not, decide_eq_decide.mpr (hlight f hf)]
  · rw [spotsIn_of_splits h (List.Subset.refl _), arranged, if_pos rfl, List.filter_map,
      List.filter_map, List.map_append]
    congr 2
    exact List.filter_congr fun f _ => decide_not

/-- The values for some modes are written under one key, the light ones first. -/
theorem foldl_write_of_splits {fields : List (Scalar × Value)} {b : Branch}
    (hb : b.scope? o = none) (h : o.splits (some b.key) fields = true) (path : List Text)
    (mode : Option Mode) (c : Collection) :
    ((arranged true (spotsIn o (some b.key) fields fields)).map (Spot.behind b)).foldl
        (Spot.write o path mode) c.result =
      ((lightFirst (fields.map modeLeaf)).foldl
        (fun c (m, v) => leaf o (path ++ [segment b.key]) b.key (some m) v c) c).result := by
  obtain ⟨sorted, hsub, hleaves, hspots⟩ := arranged_of_splits h
  rw [hleaves, hspots, List.map_map]
  clear hleaves hspots
  induction sorted generalizing c with
  | nil => rfl
  | cons f sorted ih =>
    obtain ⟨hf, hsorted⟩ := List.cons_subset.mp hsub
    obtain ⟨hleaf, -, hmode⟩ := of_splits h hf
    let e : Branch := ⟨some b.key, fields, f.1.display, f.2⟩
    have he : e.scope? o = some (modeLeaf f).1 := (Branch.scope?_of_splits h).trans hmode
    have hposition : (Spot.behind b ⟨[], e⟩).position o = [b.key] := by
      rw [Spot.position_behind, Spot.position_single, hb, he]
      rfl
    have hwrite := write_leaf (Spot.behind b ⟨[], e⟩) hleaf hposition path mode c
    rw [Spot.mode?_behind, Spot.mode?_single, he] at hwrite
    rw [List.map_cons, List.map_cons, List.foldl_cons, List.foldl_cons]
    change List.foldl _ (Spot.write o path mode c.result (Spot.behind b ⟨[], e⟩)) _ = _
    rw [hwrite]
    exact ih _ hsorted

mutual

/-- **A walk writes the values of its entries one after the other**, when they are not the values
for some modes. -/
theorem foldl_write_spotsIn (o : CollectOptions) (path : List Text) (mode : Option Mode)
    (above : Option Text) (all : List (Scalar × Value)) (h : o.splits above all = false)
    (fields : List (Scalar × Value)) (c : Collection) :
    (spotsIn o above all fields).foldl (Spot.write o path mode) c.result =
      (walk o path mode fields c).result := by
  match fields with
  | [] => rw [spotsIn, walk, List.foldl_nil]
  | (k, v) :: fields =>
    rw [spotsIn, walk, List.foldl_append, foldl_write_spotsAt o path mode above all h k.display v,
      foldl_write_spotsIn o path mode above all h fields]

theorem foldl_write_spotsAt (o : CollectOptions) (path : List Text) (mode : Option Mode)
    (above : Option Text) (all : List (Scalar × Value)) (h : o.splits above all = false)
    (key : Text) (v : Value) (c : Collection) :
    (spotsAt o above all key v).foldl (Spot.write o path mode) c.result =
      (visit o path mode key v c).result := by
  match v with
  | .map fields =>
    let b : Branch := ⟨above, all, key, .map fields⟩
    have hb : b.scope? o = o.scopeOf? key := Branch.scope?_map o above all key fields
    have hopens : Spot.opens o ⟨[], b⟩ =
        ((o.scopeOf? key).isNone && !o.splits (some key) fields) := by
      rw [← hb]
      rfl
    rw [spotsAt, visit, List.foldl_cons]
    cases hscope : o.scopeOf? key with
    | some m =>
      have hsplits := splits_of_scopeOf? hscope fields
      rw [hscope] at hb hopens
      rw [Spot.write_of_not_opens rfl hopens, hsplits, Spot.foldl_write_behind_scope hb]
      exact foldl_write_spotsIn o path (some m) (some key) fields hsplits fields c
    | none =>
      rw [hscope] at hb hopens
      rw [modeLeaves?_of_scopeOf? hscope]
      cases hsplits : o.splits (some key) fields with
      | true =>
        rw [hsplits] at hopens
        rw [Spot.write_of_not_opens rfl hopens]
        exact foldl_write_of_splits hb hsplits path mode c
      | false =>
        rw [hsplits] at hopens
        have hposition : Spot.position o ⟨[], b⟩ = [key] := by
          rw [Spot.position_single, hb]
          rfl
        have hinner := foldl_write_spotsIn o (path ++ [segment key]) mode (some key) fields hsplits
          fields ⟨c.registry, below key c.references⟩
        rw [Spot.write_of_opens rfl hopens, hposition]
        refine (Spot.foldl_write_behind hb path mode c.registry
          (.opened (Entries.get? key c.references)) c.references _).trans ?_
        rw [ReferenceTree.opened, ← below_eq]
        exact congrArg (fun w => (w.1, ReferenceTree.level (Entries.put key w.2 c.references)))
          hinner
  | .list items => rw [spotsAt, visit]; exact write_single (.list items) rfl h path mode c
  | .scalar s => rw [spotsAt, visit]; exact write_single (.scalar s) rfl h path mode c
  | .pair first second =>
    rw [spotsAt, visit]
    exact write_single (.pair first second) rfl h path mode c
  | .set members => rw [spotsAt, visit]; exact write_single (.set members) rfl h path mode c

end

end Collection

/-! ## Collecting the texts of a tree -/

/-- The texts of a tree below a name, as leaves. -/
def leavesBelow (o : CollectOptions) (theme : Text) (fields : List (Scalar × Value)) : List Leaf :=
  (textsOf o theme fields).map (ThemedText.leaf o (o.start theme))

namespace Leaf

/-- The partitions with a leaf written, if it goes to one. -/
def write (s : Store) (l : Leaf) : Store :=
  match l.target with
  | some m => s.set m (name l.path) l.text
  | none => s

/-- The table with a leaf counted. -/
def count (t : UsageTable) (l : Leaf) : UsageTable := t.track (reference l.path) l.text

theorem store_foldl_record (ls : List Leaf) (r : Registry) :
    (ls.foldl record r).store = ls.foldl write r.store := by
  refine (List.foldl_hom Registry.store fun r l => ?_).symm
  obtain ⟨target, path, text⟩ := l
  cases target <;> rfl

theorem table_foldl_record (ls : List Leaf) (r : Registry) :
    (ls.foldl record r).table = ls.foldl count r.table := by
  refine (List.foldl_hom Registry.table fun r l => ?_).symm
  obtain ⟨target, path, text⟩ := l
  cases target <;> rfl

theorem root_foldl_write {ls : List Leaf} (h : ∀ l ∈ ls, l.target ≠ some .root) (s : Store) :
    (ls.foldl write s).root = s.root := by
  induction ls generalizing s with
  | nil => rfl
  | cons l ls ih =>
    obtain ⟨hl, hls⟩ := List.forall_mem_cons.mp h
    rw [List.foldl_cons, ih hls]
    obtain ⟨target, path, text⟩ := l
    rcases target with _ | _ | _ | _
    · rfl
    · exact absurd rfl hl
    · rfl
    · rfl

end Leaf

theorem CollectOptions.scopeOf?_ne_root (o : CollectOptions) (key : Text) :
    o.scopeOf? key ≠ some .root := by
  unfold scopeOf?
  split
  · exact fun h => (Mode.ofThemeKey?_eq_some.mp h).2 rfl
  · exact nofun

theorem Branch.scope?_ne_root (o : CollectOptions) (b : Branch) : b.scope? o ≠ some .root := by
  have hkey : o.scopeOf? b.key ≠ some .root := CollectOptions.scopeOf?_ne_root o b.key
  unfold scope?
  split
  · exact hkey
  · exact nofun

section Collect

variable (o : CollectOptions) (theme : Text) (fields : List (Scalar × Value))

theorem Spot.foldl_write_fst (path : List Text) (mode : Option Mode) (spots : List Spot)
    (w : Registry × ReferenceTree) :
    (spots.foldl (write o path mode) w).1 =
      ((spots.filterMap (themed? o mode)).map (ThemedText.leaf o path)).foldl Leaf.record w.1 := by
  induction spots generalizing w with
  | nil => rfl
  | cons s spots ih =>
    rw [List.foldl_cons, ih, List.filterMap_cons]
    cases ht : s.themed? o mode with
    | some t => rw [write_of_themed? ht]; rfl
    | none =>
      cases hs : s.opens o with
      | true => rw [write_of_opens ht hs]
      | false => rw [write_of_not_opens ht hs]

theorem startOf_text :
    startOf o (.scalar (.text theme)) = .ok (o.scopeOf? theme, o.start theme) := by
  dsimp only [startOf, CollectOptions.start]
  cases o.scopeOf? theme with
  | some m =>
    have hstart : theme = [] ∨ (some m).isSome = true := .inr rfl
    rw [if_pos hstart]
  | none => cases theme <;> rfl

/-- The references of a tree come from writing its values where there are none yet. -/
theorem exists_collect (r : Registry) :
    ∃ c, collect o (.scalar (.text theme)) (.map fields) r = .ok c ∧
      c.result = (spotsIn o none fields fields).foldl
        (Spot.write o (o.start theme) (o.scopeOf? theme)) (r, .level []) := by
  refine ⟨_, ?_, (Collection.foldl_write_spotsIn o _ _ none fields (o.splits_none fields) fields
    ⟨r, []⟩).symm⟩
  rw [collect, startOf_text]
  rfl

theorem foldl_record_collect {r : Registry} {c : Collection}
    (h : c.result = (spotsIn o none fields fields).foldl
      (Spot.write o (o.start theme) (o.scopeOf? theme)) (r, .level [])) :
    c.registry = (leavesBelow o theme fields).foldl Leaf.record r :=
  (congrArg Prod.fst h).trans (Spot.foldl_write_fst o _ _ _ _)

variable {o theme fields} in
theorem ThemedText.mode_ne_root {t : ThemedText} (ht : t ∈ textsOf o theme fields) :
    t.mode ≠ some .root := by
  obtain ⟨s, -, hs⟩ := List.mem_filterMap.mp ht
  have hmode : t.mode = s.mode? o (o.scopeOf? theme) := by
    unfold Spot.themed? at hs
    split at hs
    · obtain ⟨text, -, rfl⟩ := Option.map_eq_some_iff.mp hs
      rfl
    · cases hs
  intro hroot
  rw [hmode, Spot.mode?, Option.or_eq_some_iff] at hroot
  rcases hroot with hlast | ⟨-, htheme⟩
  · obtain ⟨b, -, hb⟩ := List.mem_filterMap.mp (List.mem_of_getLast? hlast)
    exact b.scope?_ne_root o hb
  · exact o.scopeOf?_ne_root theme htheme

variable {o theme fields} in
theorem target_ne_root (h : o.fullTheme = false) :
    ∀ l ∈ leavesBelow o theme fields, l.target ≠ some .root := by
  intro l hl
  obtain ⟨t, ht, rfl⟩ := List.mem_map.mp hl
  have htarget : (t.leaf o (o.start theme)).target = t.mode := by
    rw [ThemedText.leaf, CollectOptions.target?, h, if_neg Bool.false_ne_true, Option.or_none]
  rw [htarget]
  exact t.mode_ne_root ht

/-- **Collecting a tree writes each of its texts that has a partition, and counts each of them**, in
the order of the walk. A text has the innermost scope on its way as its partition, or else the mode
that the tree is named for, or else the root, if the tree is a full theme. The variables of a
component leave the root alone. -/
theorem collect_text_by_text (r : Registry) :
    (∃ c, collect o (.scalar (.text theme)) (.map fields) r = .ok c ∧
      c.registry.store = (leavesBelow o theme fields).foldl Leaf.write r.store ∧
      c.registry.table = (leavesBelow o theme fields).foldl Leaf.count r.table) ∧
    ∀ s : Session, ∃ s' references,
      s.createVars (.map fields) (.scalar (.text theme)) = .ok (s', references) ∧
        s'.registry.store.root = s.registry.store.root := by
  refine ⟨?_, fun s => ?_⟩
  · obtain ⟨c, hc, hresult⟩ := exists_collect o theme fields r
    have hrecord := foldl_record_collect o theme fields hresult
    refine ⟨c, hc, ?_, ?_⟩
    · rw [hrecord, Leaf.store_foldl_record]
    · rw [hrecord, Leaf.table_foldl_record]
  · let o' : CollectOptions := ⟨false, s.config.varsThemeKeys⟩
    obtain ⟨c, hc, hresult⟩ := exists_collect o' theme fields s.registry
    refine ⟨{ s with registry := c.registry }, .level c.references, ?_, ?_⟩
    · rw [Session.createVars, Session.collectWith, hc]
      rfl
    · change c.registry.store.root = _
      rw [foldl_record_collect o' theme fields hresult, Leaf.store_foldl_record,
        Leaf.root_foldl_write (target_ne_root rfl)]

end Collect

example : textsOf ⟨true, .scope⟩ ("ui" : Text)
    [(.text "gap", .map [(.text "dark", .scalar (.int 1)), (.text "light", .scalar (.int 2))]),
      (.text "dark", .map [(.text "light", .scalar (.int 3))])] =
    [⟨["gap"], some .light, "2"⟩, ⟨["gap"], some .dark, "1"⟩, ⟨["light"], some .dark, "3"⟩] := by
  decide +kernel

end ThemedCss
