import ThemedCss.Proofs.Variable.Draft
import ThemedCss.Proofs.Variable.Walk

/-!
# What collecting write by write comes to

A walk in steps asks for mappings and modes where it needs them, and all of them are there. It stops
only where no text can be made of a value, and keeps what it has written by then.

* `Effect.bind_eq_of_ok`, `Effect.bind_eq_of_error`: a step behind one that comes to its end or not;
* `Collection.outcome`: how a walk that comes to some drafts ends;
* `Collection.bind_eq_outcome`: two walks behind one another;
* `Collection.walkEntries_eq_outcome`, `Collection.visit_eq_outcome`: how the walk ends;
* **`collect_stepwise`**: collecting in steps does what it does at once, unless no text can be made of
  the name or of a value.
-/

namespace ThemedCss

open Variable

namespace Effect

variable {σ α β : Type} {x : Effect σ α} {s t : σ}

theorem bind_eq_of_ok {a : α} (h : x s = .ok a t) (f : α → Effect σ β) : (x >>= f) s = f a t := by
  change EStateM.bind x f s = f a t
  unfold EStateM.bind
  rw [h]

theorem bind_eq_of_error {fault : Fault} (h : x s = .error fault t) (f : α → Effect σ β) :
    (x >>= f) s = .error fault t := by
  change EStateM.bind x f s = .error fault t
  unfold EStateM.bind
  rw [h]

theorem ofExcept_ok (a : α) (s : σ) :
    (MonadExcept.ofExcept (.ok a : Except Fault α) : Effect σ α) s = .ok a s := rfl

theorem ofExcept_error (fault : Fault) (s : σ) :
    (MonadExcept.ofExcept (.error fault : Except Fault α) : Effect σ α) s = .error fault s := rfl

end Effect

namespace Collection

/-- The end of a walk that comes to some drafts. The leaves in front of the first one of which no text
can be made are recorded, and without such a draft there are references. -/
def outcome (ds : List Draft) (r : Registry) (references : References) :
    EStateM.Result Fault Registry References :=
  match ds.findSome? Draft.fault? with
  | none => .ok references ((Draft.written ds).foldl Leaf.record r)
  | some f => .error f ((Draft.written ds).foldl Leaf.record r)

section Outcome

variable {ds es : List Draft} {r : Registry} {references others : References}

theorem outcome_of_none (h : ds.findSome? Draft.fault? = none) :
    outcome ds r references = .ok references ((ds.filterMap Draft.leaf?).foldl Leaf.record r) := by
  rw [outcome, h, Draft.written_eq h]

theorem outcome_of_some {f : Fault} (h : ds.findSome? Draft.fault? = some f) :
    outcome ds r references = .error f ((Draft.written ds).foldl Leaf.record r) := by
  rw [outcome, h]

/-- What comes behind a walk goes on from the leaves that this has recorded, unless it has stopped. -/
theorem bind_eq_outcome {x : Effect Registry References}
    {f : References → Effect Registry References} (hx : x r = outcome ds r references)
    (hf : f references ((ds.filterMap Draft.leaf?).foldl Leaf.record r) =
      outcome es ((ds.filterMap Draft.leaf?).foldl Leaf.record r) others) :
    (x >>= f) r = outcome (ds ++ es) r others := by
  cases hds : ds.findSome? Draft.fault? with
  | none =>
    rw [outcome_of_none hds] at hx
    rw [Effect.bind_eq_of_ok hx, hf]
    unfold outcome
    rw [List.findSome?_append, hds, Option.none_or, Draft.written_append hds, List.foldl_append]
  | some fault =>
    rw [outcome_of_some hds] at hx
    have happend : (ds ++ es).findSome? Draft.fault? = some fault := by
      rw [List.findSome?_append, hds, Option.some_or]
    rw [Effect.bind_eq_of_error hx, outcome_of_some happend, Draft.written_append_of_some hds]

theorem bind_pure_eq_outcome {x : Effect Registry References} (hx : x r = outcome ds r references)
    (g : References → References) :
    (x >>= fun references => pure (g references)) r = outcome ds r (g references) := by
  have hpure : (pure (g references) : Effect Registry References)
      ((ds.filterMap Draft.leaf?).foldl Leaf.record r) =
        outcome [] ((ds.filterMap Draft.leaf?).foldl Leaf.record r) (g references) := rfl
  have hbind := bind_eq_outcome (f := fun references => pure (g references)) hx hpure
  rwa [List.append_nil] at hbind

end Outcome

section Walk

variable (o : CollectOptions) (path : List Text) (mode : Option Mode) (key : Text)

theorem write_eq_ok (target : Option Mode) (text : Text) (references : References) (r : Registry) :
    Stepwise.write target path key text references r =
      .ok (Entries.put key (.reference ((record r target path text).resolve (reference path) text))
        references) (record r target path text) := by
  cases target <;> rfl

theorem leaf_eq_outcome (v : Value) (c : Collection) :
    Stepwise.leaf o path key mode v c.references c.registry =
      outcome [⟨o.target? mode, path, v⟩] c.registry (leaf o path key mode v c).references := by
  have hfirst : [Draft.mk (o.target? mode) path v].findSome? Draft.fault? = v.fault? Value.room :=
    List.findSome?_singleton
  unfold Stepwise.leaf leaf
  cases hv : v.fault? Value.room with
  | some f =>
    have hwritten : Draft.written [⟨o.target? mode, path, v⟩] = [] :=
      Draft.written_cons_of_some (d := ⟨o.target? mode, path, v⟩) hv []
    rw [Value.format_of_fault? hv, Effect.bind_eq_of_error (Effect.ofExcept_error f _),
      outcome_of_some (hfirst.trans hv), hwritten, List.foldl_nil]
  | none =>
    rw [Value.format_eq_ok hv, Effect.bind_eq_of_ok (Effect.ofExcept_ok _ _),
      outcome_of_none (hfirst.trans hv), List.filterMap_cons, Draft.leaf?]
    cases v.css? with
    | none => rfl
    | some text => exact write_eq_ok path key (o.target? mode) text c.references c.registry

theorem leaf_registry_eq (v : Value) (c : Collection) :
    ([Draft.mk (o.target? mode) path v].filterMap Draft.leaf?).foldl Leaf.record c.registry =
      (leaf o path key mode v c).registry := by
  rw [leaf_registry, leafOf_eq]

theorem display_of_isModeLeaf {field : Scalar × Value} (h : isModeLeaf field = true) :
    field.1.display = (modeLeaf field).1.name := by
  rw [isModeLeaf, Bool.and_eq_true] at h
  obtain ⟨m, hm⟩ := Option.isSome_iff_exists.mp h.1
  rw [modeLeaf, hm]
  exact (Mode.ofThemeKey?_eq_some.mp hm).1

/-- **Each key names a mode** where one value for each of some modes is written. -/
theorem ofName_of_isModeLeaf {field : Scalar × Value} (h : isModeLeaf field = true) :
    Mode.ofName field.1.display = .ok (modeLeaf field).1 := by
  rw [display_of_isModeLeaf h, Mode.ofName_name]

theorem leaves_eq_outcome {fields : List (Scalar × Value)} (h : ∀ f ∈ fields, isModeLeaf f = true)
    (c : Collection) :
    Stepwise.leaves o path key fields c.references c.registry =
      outcome (draftsOfModes o path (fields.map modeLeaf)) c.registry
        ((fields.map modeLeaf).foldl (fun c (m, v) => leaf o path key (some m) v c) c).references := by
  induction fields generalizing c with
  | nil => rfl
  | cons field fields ih =>
    obtain ⟨hfield, hfields⟩ := List.forall_mem_cons.mp h
    obtain ⟨k, v⟩ := field
    rw [Stepwise.leaves, ofName_of_isModeLeaf hfield,
      Effect.bind_eq_of_ok (Effect.ofExcept_ok _ _)]
    refine bind_eq_outcome (leaf_eq_outcome o path _ key v c) ?_
    rw [leaf_registry_eq o path _ key]
    exact ih hfields _

theorem map_modeLeaf_sorted {fields : List (Scalar × Value)}
    (h : ∀ f ∈ fields, isModeLeaf f = true) :
    (Stepwise.sorted fields).map modeLeaf = lightFirst (fields.map modeLeaf) := by
  have hlight : ∀ f ∈ fields, (f.1.display = Mode.light.name ↔ (modeLeaf f).1 = .light) := by
    intro f hf
    rw [display_of_isModeLeaf (h f hf)]
    cases (modeLeaf f).1 <;> decide
  rw [Stepwise.sorted, lightFirst, List.map_append, List.filter_map, List.filter_map]
  congr 2
  · exact List.filter_congr fun f hf => decide_eq_decide.mpr (hlight f hf)
  · exact List.filter_congr fun f hf => decide_eq_decide.mpr (not_congr (hlight f hf))

theorem leaves_sorted_eq_outcome {fields : List (Scalar × Value)} {values : List (Mode × Value)}
    (h : modeLeaves? fields = some values) (c : Collection) :
    Stepwise.leaves o path key (Stepwise.sorted fields) c.references c.registry =
      outcome (draftsOfModes o path (lightFirst values)) c.registry
        ((lightFirst values).foldl (fun c (m, v) => leaf o path key (some m) v c) c).references := by
  rw [modeLeaves?_eq] at h
  obtain ⟨hall, hvalues⟩ := Option.ite_none_right_eq_some.mp h
  rw [Bool.and_eq_true, List.all_eq_true] at hall
  rw [← Option.some.inj hvalues, ← map_modeLeaf_sorted hall.2]
  refine leaves_eq_outcome o path key (fun f hf => hall.2 f ?_) c
  rw [Stepwise.sorted, List.mem_append, List.mem_filter, List.mem_filter] at hf
  exact hf.elim And.left And.left

theorem holdsModes_map (fields : List (Scalar × Value)) :
    Stepwise.holdsModes (.map fields) = (modeLeaves? fields).isSome := by
  rw [modeLeaves?_eq]
  change (!fields.isEmpty && fields.all isModeLeaf) = _
  split
  · assumption
  · exact Bool.eq_false_iff.mpr ‹_›

theorem visit_leaf_eq_outcome (mode : Option Mode) {v : Value} (hv : v.isLeaf = true)
    (c : Collection) :
    Stepwise.visit o path mode key v c.references c.registry =
      outcome [⟨o.target? mode, path ++ [segment key], v⟩] c.registry
        (leaf o (path ++ [segment key]) key mode v c).references := by
  have hmodes : Stepwise.holdsModes v = false := by
    cases v with
    | map fields => cases hv
    | _ => rfl
  rw [Stepwise.visit, hv, hmodes]
  simpa using leaf_eq_outcome o (path ++ [segment key]) mode key v c

end Walk

mutual

/-- **A walk through a mapping comes to its drafts**: where it goes on into a value, this is a
mapping. -/
theorem walkEntries_eq_outcome (o : CollectOptions) (path : List Text) (mode : Option Mode)
    (fields : List (Scalar × Value)) (c : Collection) :
    Stepwise.walkEntries o path mode fields c.references c.registry =
      outcome (drafts o path mode fields) c.registry (walk o path mode fields c).references := by
  match fields with
  | [] => rw [Stepwise.walkEntries, walk, drafts]; rfl
  | (k, v) :: fields =>
    rw [Stepwise.walkEntries, walk, drafts]
    refine bind_eq_outcome (visit_eq_outcome o path mode k.display v c) ?_
    rw [← leavesAt_eq, ← visit_registry]
    exact walkEntries_eq_outcome o path mode fields _

theorem visit_eq_outcome (o : CollectOptions) (path : List Text) (mode : Option Mode) (key : Text)
    (v : Value) (c : Collection) :
    Stepwise.visit o path mode key v c.references c.registry =
      outcome (draftsAt o path mode key v) c.registry (visit o path mode key v c).references := by
  match v with
  | .map fields =>
    have hleaf : (Value.map fields).isLeaf = false := rfl
    simp only [Stepwise.visit, visit, draftsAt, hleaf, if_neg Bool.false_ne_true]
    cases o.scopeOf? key with
    | some m =>
      dsimp only
      rw [Stepwise.walk]
      exact walkEntries_eq_outcome o path (some m) fields c
    | none =>
      dsimp only
      rw [holdsModes_map]
      cases hvalues : if o.themeKeys = .scope then modeLeaves? fields else none with
      | some values =>
        obtain ⟨hscope, hvalues⟩ := Option.ite_none_right_eq_some.mp hvalues
        rw [if_pos ⟨hscope, Option.isSome_iff_exists.mpr ⟨values, hvalues⟩⟩,
          Stepwise.entriesOf, Effect.bind_eq_of_ok (Effect.ofExcept_ok _ _)]
        exact leaves_sorted_eq_outcome o _ key hvalues c
      | none =>
        have hmodes : ¬ (o.themeKeys = .scope ∧ (modeLeaves? fields).isSome = true) := by
          rintro ⟨hscope, hsome⟩
          rw [if_pos hscope] at hvalues
          rw [hvalues] at hsome
          cases hsome
        have hlevel := walkEntries_eq_outcome o (path ++ [segment key]) mode fields
          ⟨c.registry, below key c.references⟩
        rw [if_neg hmodes, Stepwise.walk]
        exact bind_pure_eq_outcome hlevel fun level => Entries.put key (.level level) c.references
  | .list items => rw [visit, draftsAt]; exact visit_leaf_eq_outcome o path key mode rfl c
  | .scalar s => rw [visit, draftsAt]; exact visit_leaf_eq_outcome o path key mode rfl c
  | .pair first second => rw [visit, draftsAt]; exact visit_leaf_eq_outcome o path key mode rfl c
  | .set members => rw [visit, draftsAt]; exact visit_leaf_eq_outcome o path key mode rfl c

end

end Collection

/-- **Collecting in steps does what it does at once** as long as texts can be made of the name and of
the values. It stops at the first value of which none can be made. -/
theorem collect_stepwise (o : CollectOptions) (name values : Value) (r : Registry) :
    Stepwise.collect o name values r =
      match Stepwise.start o name >>= fun _ => collect o name values r with
      | .ok c => Collection.outcome (draftsOf o name values) r c.references
      | .error fault => .error fault r := by
  unfold Stepwise.collect
  cases hstart : Stepwise.start o name with
  | error fault => exact Effect.bind_eq_of_error (Effect.ofExcept_error fault r) _
  | ok start =>
    obtain ⟨mode, path⟩ := start
    rw [Effect.bind_eq_of_ok (Effect.ofExcept_ok _ _)]
    unfold draftsOf collect
    rw [hstart, (start_eq_ok.mp hstart).1]
    cases values with
    | map fields =>
      dsimp only
      rw [Stepwise.walk]
      exact Collection.walkEntries_eq_outcome o path mode fields ⟨r, []⟩
    | _ =>
      dsimp only
      rw [Stepwise.walk.eq_def]
      rfl

end ThemedCss
