import ThemedCss.Proofs.Style.Check
import ThemedCss.Proofs.Style.Markers
import ThemedCss.Proofs.Variable.Draft
import ThemedCss.Proofs.Variable.Walk

/-!
# Values of which texts can be made

Texts can be made of a value whose integers have not too many digits and in which not too many
collections stand inside each other. A source that is loaded holds no other values.

* `Value.IsWritable`, `Call.IsWritable`: the values, and the calls that have no others;
* `Value.fault?_of_isWritable`: no fault is found on the way through such a value;
* `isWritable_of_mem_drafts`: the values that a walk comes to are parts of its tree;
* **`Source.isWritable_calls`**: the calls for a source without a fault.
-/

namespace ThemedCss

/-- Whether a scalar is an integer with too many digits. -/
def Scalar.isUnwritable (s : Scalar) : Bool := !s.isWritable

theorem Scalar.fault?_eq_none {s : Scalar} (h : s.isUnwritable = false) : s.fault? = none := by
  unfold fault?
  rw [isUnwritable, Bool.not_eq_eq_eq_not, Bool.not_false] at h
  rw [if_pos h]

namespace Value

/-- Texts can be made of a value: no integer in it has too many digits, and not too many collections
stand inside each other. -/
def IsWritable (v : Value) : Prop :=
  v.any Scalar.isUnwritable = false ∧ v.depth ≤ Source.maxDepth

/-! ## Going through a value -/

mutual

theorem literalFault?_eq_none {room : Nat} {v : Value} (h : v.any Scalar.isUnwritable = false)
    (hroom : v.depth ≤ room) : v.literalFault? room = none := by
  match v with
  | .scalar s => exact Scalar.fault?_eq_none h
  | .list items =>
    rw [depth] at hroom
    rw [literalFault?, if_neg (by omega)]
    exact literalFaultIn?_eq_none h (by omega)
  | .map fields =>
    rw [depth] at hroom
    rw [literalFault?, if_neg (by omega)]
    exact fieldFault?_eq_none h (by omega)
  | .pair first second =>
    rw [depth] at hroom
    rw [any, Bool.or_eq_false_iff] at h
    rw [literalFault?, if_neg (by omega), literalFault?_eq_none h.1 (by omega),
      literalFault?_eq_none h.2 (by omega), Option.or_none]
  | .set members =>
    rw [any, List.any_eq_false] at h
    exact List.findSome?_eq_none_iff.mpr fun s hs =>
      Scalar.fault?_eq_none (Bool.eq_false_iff.mpr (h s hs))

theorem literalFaultIn?_eq_none {room : Nat} {items : List Value}
    (h : anyItem Scalar.isUnwritable items = false) (hroom : depthOfItems items ≤ room) :
    literalFaultIn? room items = none := by
  match items with
  | [] => rfl
  | v :: items =>
    rw [anyItem, Bool.or_eq_false_iff] at h
    rw [depthOfItems] at hroom
    rw [literalFaultIn?, literalFault?_eq_none h.1 (by omega),
      literalFaultIn?_eq_none h.2 (by omega), Option.or_none]

theorem fieldFault?_eq_none {room : Nat} {fields : List (Scalar × Value)}
    (h : anyField Scalar.isUnwritable fields = false) (hroom : depthOfFields fields ≤ room) :
    fieldFault? room fields = none := by
  match fields with
  | [] => rfl
  | (k, v) :: fields =>
    rw [anyField, Bool.or_eq_false_iff, Bool.or_eq_false_iff] at h
    rw [depthOfFields] at hroom
    rw [fieldFault?, Scalar.fault?_eq_none h.1.1, literalFault?_eq_none h.1.2 (by omega),
      fieldFault?_eq_none h.2 (by omega), Option.or_none, Option.or_none]

end

mutual

theorem fault?_eq_none {room : Nat} {v : Value} (h : v.any Scalar.isUnwritable = false)
    (hroom : 2 * v.depth ≤ room) : v.fault? room = none := by
  match v with
  | .scalar s => exact Scalar.fault?_eq_none h
  | .list items =>
    rw [depth] at hroom
    rw [fault?, if_neg (by omega)]
    exact itemFault?_eq_none h (by omega)
  | .map fields => exact literalFault?_eq_none h (by omega)
  | .pair first second =>
    rw [depth] at hroom
    rw [any, Bool.or_eq_false_iff] at h
    rw [fault?, if_neg (by omega), fault?_eq_none h.1 (by omega), fault?_eq_none h.2 (by omega),
      Option.or_none]
  | .set members => exact literalFault?_eq_none h (by omega)

theorem itemFault?_eq_none {room : Nat} {items : List Value}
    (h : anyItem Scalar.isUnwritable items = false) (hroom : 2 * depthOfItems items ≤ room) :
    itemFault? room items = none := by
  match items with
  | [] => rfl
  | v :: items =>
    rw [anyItem, Bool.or_eq_false_iff] at h
    rw [depthOfItems] at hroom
    rw [itemFault?, fault?_eq_none h.1 (by omega), itemFault?_eq_none h.2 (by omega),
      Option.or_none]

end

theorem fault?_of_isWritable {v : Value} (h : v.IsWritable) : v.fault? room = none := by
  refine fault?_eq_none h.1 ?_
  have hdepth := h.2
  unfold Source.maxDepth at hdepth
  unfold room
  omega

/-- An integer in as many lists as are asked for. -/
def nested : Nat → Value
  | 0 => .scalar (.int 1)
  | n + 1 => .list [nested n]

theorem fault?_nested {room n : Nat} (h : room < 2 * n) :
    (nested n).fault? room = some .endless := by
  induction n generalizing room with
  | zero => omega
  | succ n ih =>
    rw [nested, fault?]
    by_cases hroom : room < 2
    · rw [if_pos hroom]
    · rw [if_neg hroom, itemFault?, ih (by omega), Option.some_or]

/-! ## Parts of a value -/

theorem depthOfLeaves_of_isLeaf {v : Value} (h : v.isLeaf = true) : v.depthOfLeaves = v.depth := by
  cases v with
  | map fields => cases h
  | _ => rw [depthOfLeaves]; exact nofun

theorem any_snd_of_mem {p : Scalar → Bool} {fields : List (Scalar × Value)} {f : Scalar × Value}
    (h : anyField p fields = false) (hf : f ∈ fields) : f.2.any p = false := by
  induction fields with
  | nil => cases hf
  | cons field fields ih =>
    rw [anyField, Bool.or_eq_false_iff, Bool.or_eq_false_iff] at h
    obtain rfl | hf := List.mem_cons.mp hf
    · exact h.1.2
    · exact ih h.2 hf

theorem depthOfLeaves_le_of_mem {fields : List (Scalar × Value)} {f : Scalar × Value}
    (hf : f ∈ fields) : f.2.depthOfLeaves ≤ depthOfLeaves.leaves fields := by
  induction fields with
  | nil => cases hf
  | cons field fields ih =>
    obtain ⟨k, v⟩ := field
    rw [depthOfLeaves.leaves]
    obtain rfl | hf := List.mem_cons.mp hf
    · exact le_max_left _ _
    · exact (ih hf).trans (le_max_right _ _)

end Value

namespace Collection

open Value

variable {o : CollectOptions}

theorem isWritable_of_mem_draftsOfModes {path : List Text} {fields : List (Scalar × Value)}
    {values : List (Mode × Value)} {d : Draft} (h : anyField Scalar.isUnwritable fields = false)
    (hdepth : depthOfLeaves.leaves fields ≤ Source.maxDepth)
    (hvalues : modeLeaves? fields = some values)
    (hd : d ∈ draftsOfModes o path (lightFirst values)) : d.value.IsWritable := by
  rw [modeLeaves?_eq] at hvalues
  obtain ⟨hall, hvalues⟩ := Option.ite_none_right_eq_some.mp hvalues
  rw [Bool.and_eq_true, List.all_eq_true] at hall
  rw [← Option.some.inj hvalues] at hd
  obtain ⟨value, hmem, rfl⟩ := List.mem_map.mp hd
  have hmem : value ∈ fields.map modeLeaf := by
    rw [lightFirst, List.mem_append, List.mem_filter, List.mem_filter] at hmem
    exact hmem.elim And.left And.left
  obtain ⟨f, hf, rfl⟩ := List.mem_map.mp hmem
  have hleaf : f.2.isLeaf = true := (Bool.and_eq_true_iff.mp (hall.2 f hf)).2
  have hvalue : f.2.depth ≤ Source.maxDepth := by
    rw [← depthOfLeaves_of_isLeaf hleaf]
    exact (depthOfLeaves_le_of_mem hf).trans hdepth
  exact ⟨any_snd_of_mem h hf, hvalue⟩

mutual

theorem isWritable_of_mem_drafts {path : List Text} {mode : Option Mode}
    {fields : List (Scalar × Value)} {d : Draft}
    (h : anyField Scalar.isUnwritable fields = false)
    (hdepth : depthOfLeaves.leaves fields ≤ Source.maxDepth) (hd : d ∈ drafts o path mode fields) :
    d.value.IsWritable := by
  match fields with
  | [] =>
    rw [drafts] at hd
    cases hd
  | (k, v) :: fields =>
    rw [anyField, Bool.or_eq_false_iff, Bool.or_eq_false_iff] at h
    rw [depthOfLeaves.leaves] at hdepth
    rw [drafts, List.mem_append] at hd
    rcases hd with hd | hd
    · exact isWritable_of_mem_draftsAt h.1.2 ((le_max_left _ _).trans hdepth) hd
    · exact isWritable_of_mem_drafts h.2 ((le_max_right _ _).trans hdepth) hd

theorem isWritable_of_mem_draftsAt {path : List Text} {mode : Option Mode} {key : Text} {v : Value}
    {d : Draft} (h : v.any Scalar.isUnwritable = false)
    (hdepth : v.depthOfLeaves ≤ Source.maxDepth) (hd : d ∈ draftsAt o path mode key v) :
    d.value.IsWritable := by
  match v with
  | .map fields =>
    rw [depthOfLeaves] at hdepth
    rw [draftsAt] at hd
    cases hscope : o.scopeOf? key with
    | some m =>
      rw [hscope] at hd
      exact isWritable_of_mem_drafts h hdepth hd
    | none =>
      rw [hscope] at hd
      dsimp only at hd
      split at hd
      next values hvalues =>
        exact isWritable_of_mem_draftsOfModes h hdepth (Option.ite_none_right_eq_some.mp hvalues).2 hd
      next => exact isWritable_of_mem_drafts h hdepth hd
  | .list items | .scalar s | .pair first second | .set members =>
    rw [depthOfLeaves_of_isLeaf rfl] at hdepth
    rw [draftsAt, List.mem_singleton] at hd
    rw [hd]
    exact ⟨h, hdepth⟩

end

end Collection

theorem isWritable_of_mem_draftsOf {o : CollectOptions} {name : Value}
    {fields : List (Scalar × Value)} {d : Draft}
    (h : (Value.map fields).any Scalar.isUnwritable = false)
    (hdepth : (Value.map fields).depthOfLeaves ≤ Source.maxDepth)
    (hd : d ∈ draftsOf o name (.map fields)) : d.value.IsWritable := by
  rw [Value.depthOfLeaves] at hdepth
  unfold draftsOf at hd
  cases hstart : Stepwise.start o name with
  | error f =>
    rw [hstart] at hd
    cases hd
  | ok start =>
    rw [hstart] at hd
    exact Collection.isWritable_of_mem_drafts h hdepth hd

namespace Style

mutual

theorem isWritable_of_mem_values {style : Style} {v : Value}
    (h : style.any Scalar.isUnwritable = false) (hdepth : style.depth ≤ Source.maxDepth)
    (hv : v ∈ style.values) : v.IsWritable := by
  match style with
  | property w =>
    rw [values, List.mem_singleton] at hv
    rw [hv]
    exact ⟨h, hdepth⟩
  | rules entries =>
    rw [depth] at hdepth
    exact isWritable_of_mem_valuesIn h (by omega) hv
  | nested selectors styles =>
    rw [any, Bool.or_eq_false_iff] at h
    rw [depth] at hdepth
    exact isWritable_of_mem_values h.2 (by omega) hv

theorem isWritable_of_mem_valuesIn {entries : List (Scalar × Style)} {v : Value}
    (h : anyEntry Scalar.isUnwritable entries = false)
    (hdepth : depthOfEntries entries ≤ Source.maxDepth) (hv : v ∈ valuesIn entries) :
    v.IsWritable := by
  match entries with
  | [] => cases hv
  | (k, style) :: entries =>
    rw [anyEntry, Bool.or_eq_false_iff, Bool.or_eq_false_iff] at h
    rw [depthOfEntries] at hdepth
    rw [valuesIn, List.mem_append] at hv
    rcases hv with hv | hv
    · exact isWritable_of_mem_values h.1.2 (by omega) hv
    · exact isWritable_of_mem_valuesIn h.2 (by omega) hv

end

end Style

/-! ## Calls -/

namespace Call

/-- The values that a call makes texts of: the name and the leaves of variables, and the property
values of styles. -/
def values (config : Config) : Call → List Value
  | createTheme values name => name :: (draftsOf ⟨true, .scope⟩ name values).map Draft.value
  | createVars values name =>
    name :: (draftsOf ⟨false, config.varsThemeKeys⟩ name values).map Draft.value
  | createStyle subject styles =>
    match Session.effectiveStyle subject styles with
    | .ok (some style) => style.values
    | _ => []
  | _ => []

/-- Texts can be made of all values of a call. -/
def IsWritable (config : Config) (call : Call) : Prop := ∀ v ∈ call.values config, v.IsWritable

end Call

theorem VariableEntry.isWritable {e : VariableEntry} (o : CollectOptions)
    (h : e.mapping.any Scalar.isUnwritable = false)
    (hdepth : e.mapping.depthOfLeaves ≤ Source.maxDepth) :
    ∀ v ∈ Value.scalar (.text e.name) ::
      (draftsOf o (.scalar (.text e.name)) e.mapping).map Draft.value, v.IsWritable := by
  refine List.forall_mem_cons.mpr ⟨⟨rfl, Nat.zero_le _⟩, fun v hv => ?_⟩
  obtain ⟨d, hd, rfl⟩ := List.mem_map.mp hv
  exact isWritable_of_mem_draftsOf h hdepth hd

/-- The tree that is compiled for an entry is its own, or stands below its selectors. -/
theorem StyleEntry.isWritable {e : StyleEntry} (h : e.tree.any Scalar.isUnwritable = false)
    (hdepth : e.tree.depth ≤ Source.maxDepth) (config : Config) : e.call.IsWritable config := by
  have hvalues : ∀ v ∈ e.tree.values, v.IsWritable := fun v hv =>
    Style.isWritable_of_mem_values h hdepth hv
  unfold StyleEntry.call
  split
  next s selectors =>
    intro v hv
    change v ∈ (match Session.effectiveStyle _ _ with
      | .ok (some style) => style.values
      | _ => []) at hv
    split at hv
    next style hstyle =>
      obtain ⟨text, -, hstyle⟩ := bind_eq_ok_iff.mp hstyle
      obtain rfl := Option.some.inj (Except.ok.inj hstyle)
      rw [Style.values, Style.valuesIn, Style.valuesIn, List.append_nil] at hv
      exact hvalues v hv
    next => cases hv
  next => exact hvalues

namespace Source

variable {source : Source}

theorem within_of_fault?_eq_none (h : source.fault? = none) :
    (∀ e ∈ source.theme ++ source.vars, e.mapping.any Scalar.isUnwritable = false ∧
        e.mapping.depthOfLeaves ≤ maxDepth) ∧
      ∀ e ∈ source.styles, e.tree.any Scalar.isUnwritable = false ∧ e.tree.depth ≤ maxDepth := by
  unfold fault? at h
  split at h
  · cases h
  next hdeep =>
  split at h
  · cases h
  next hwritable =>
  rw [Bool.or_eq_true, not_or, Bool.not_eq_true, Bool.not_eq_true] at hdeep
  rw [Bool.not_eq_true, any, Bool.or_eq_false_iff, List.any_eq_false] at hwritable
  obtain ⟨-, hdeep⟩ := hdeep
  rw [isTooDeep, Bool.or_eq_false_iff, List.any_eq_false, List.any_eq_false] at hdeep
  refine ⟨fun e he => ?_, fun e he => ?_⟩
  · have hmem : e.mapping ∈ source.mappings := List.mem_map_of_mem he
    have hdepth := hdeep.1 _ hmem
    rw [Bool.or_eq_true, not_or, decide_eq_true_iff, decide_eq_true_iff] at hdepth
    exact ⟨Value.any_of_mem hwritable.1 hmem, Nat.le_of_not_lt hdepth.2⟩
  · have hdepth := hdeep.2 e he
    rw [decide_eq_true_iff] at hdepth
    exact ⟨Bool.eq_false_iff.mpr (hwritable.2 e he), Nat.le_of_not_lt hdepth⟩

/-- **The calls for a source without a fault** make texts of nothing else than what they can. -/
theorem isWritable_calls (h : source.fault? = none) (config : Config) :
    ∀ call ∈ source.calls, call.IsWritable config := by
  obtain ⟨hmapping, hstyle⟩ := within_of_fault?_eq_none h
  intro call hcall
  rw [calls, List.mem_append, List.mem_append] at hcall
  rcases hcall with (hcall | hcall) | hcall
  · obtain ⟨e, he, rfl⟩ := List.mem_map.mp hcall
    obtain ⟨hany, hdepth⟩ := hmapping e (List.mem_append_left _ he)
    exact e.isWritable _ hany hdepth
  · obtain ⟨e, he, rfl⟩ := List.mem_map.mp hcall
    obtain ⟨hany, hdepth⟩ := hmapping e (List.mem_append_right _ he)
    exact e.isWritable _ hany hdepth
  · obtain ⟨e, he, rfl⟩ := List.mem_map.mp hcall
    obtain ⟨hany, hdepth⟩ := hstyle e he
    exact e.isWritable hany hdepth config

end Source

end ThemedCss
