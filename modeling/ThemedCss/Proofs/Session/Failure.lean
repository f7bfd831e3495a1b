import Mathlib.Algebra.Group.Nat.Defs
import ThemedCss.Proofs.Session.History
import ThemedCss.Proofs.Session.Writable
import ThemedCss.Proofs.Variable.Stepwise
import ThemedCss.Session.Stepwise

/-!
# Calls that fail

The steps of a call write as they go, and nothing is taken back. A call for styles keeps its rules in
its last step, and a call for variables can stop behind a write only at a value of which no text can be
made.

* `Call.written`: what a call writes in front of such a value;
* `Session.Settled`: how the steps of a call stand to what it does at once;
* `Session.extend_eq_self_iff`: leaves that are recorded change a session;
* **`perform_cases`**: a call does what it does at once, or has written the leaves in front of where it
  stops, and nothing else;
* **`perform_eq_step`**: what a call does, as long as texts can be made of its values;
* **`performAll_calls`**: a source without a fault is applied in steps as it is at once.
-/

namespace ThemedCss

/-- The leaves that a call for variables writes in front of the first value of which no text can be
made. -/
def Call.written (config : Config) : Call → List Leaf
  | createTheme values name => Draft.written (draftsOf ⟨true, .scope⟩ name values)
  | createVars values name => Draft.written (draftsOf ⟨false, config.varsThemeKeys⟩ name values)
  | _ => []

theorem Call.written_prefix (config : Config) (call : Call) :
    call.written config <+: call.leaves config := by
  cases call with
  | createTheme values name => exact written_prefix_leavesOf ⟨true, .scope⟩ name values
  | createVars values name => exact written_prefix_leavesOf ⟨false, config.varsThemeKeys⟩ name values
  | _ => exact List.nil_prefix

theorem Call.written_eq_nil {config : Config} {call : Call} (h : call.collects = false) :
    call.written config = [] := by
  cases call with
  | createTheme values name => cases h
  | createVars values name => cases h
  | _ => rfl

/-! ## Collecting -/

section Collect

variable {o : CollectOptions} {name values : Value} {r : Registry}

theorem draftsOf_eq_nil {f : Fault}
    (h : (Stepwise.start o name >>= fun _ => collect o name values r) = .error f) :
    draftsOf o name values = [] := by
  unfold draftsOf
  cases hstart : Stepwise.start o name with
  | error f => rfl
  | ok start =>
    rw [hstart] at h
    unfold collect at h
    rw [(start_eq_ok.mp hstart).1] at h
    cases values with
    | map fields => cases h
    | _ => rfl

theorem start_bind_collect (h : name.fault? Value.room = none) :
    (Stepwise.start o name >>= fun _ => collect o name values r) = collect o name values r := by
  unfold Stepwise.start collect
  rw [h]
  cases startOf o name <;> rfl

theorem leavesOf_eq {c : Collection}
    (h : (Stepwise.start o name >>= fun _ => collect o name values r) = .ok c) :
    collect o name values r = .ok c ∧
      leavesOf o name values = (draftsOf o name values).filterMap Draft.leaf? := by
  obtain ⟨start, hstart, hcollect⟩ := bind_eq_ok_iff.mp h
  refine ⟨hcollect, ?_⟩
  unfold leavesOf draftsOf
  rw [hstart, (start_eq_ok.mp hstart).1]
  cases values with
  | map fields => exact Collection.leaves_eq o start.2 start.1 fields
  | _ => rfl

end Collect

namespace Session

/-- The steps of a call do what it does at once, or stop with some leaves recorded. They stop at a value
of which no text can be made, or else where the call fails at once. -/
def Settled (s : Session) (steps : Effect Session Reply) (atOnce : Session × Except Fault Reply)
    (written : List Leaf) (values : List Value) : Prop :=
  (∃ reply t, steps s = .ok reply t ∧ atOnce = (t, .ok reply)) ∨
    ∃ fault, steps s = .error fault (s.extend written []) ∧
      ((∀ v ∈ values, v.IsWritable) → written = [] ∧ atOnce = (s, .error fault))

variable (s : Session)

theorem extend_eq (leaves : List Leaf) :
    s.extend leaves [] = { s with registry := leaves.foldl Leaf.record s.registry } := by
  unfold extend
  rw [List.append_nil]

/-- **Each leaf that is recorded changes the session**: it is counted. -/
theorem extend_eq_self_iff {leaves : List Leaf} : s.extend leaves [] = s ↔ leaves = [] := by
  refine ⟨fun h => ?_, fun h => h ▸ s.extend_nil⟩
  cases leaves with
  | nil => rfl
  | cons l leaves =>
    have htable : ((l :: leaves).foldl Leaf.record s.registry).table = s.registry.table :=
      congrArg (·.registry.table) h
    have huses := UsageTable.usesOf_trackAll s.registry.table ((l :: leaves).map Leaf.use)
      l.use.1 l.use.2
    have hpos : 0 < ((l :: leaves).map Leaf.use).count (l.use.1, l.use.2) :=
      List.count_pos_iff.mpr List.mem_cons_self
    rw [← Leaf.foldl_record_table, htable] at huses
    omega

/-! ## The steps of a call for variables -/

section CollectWith

variable (o : CollectOptions) (values name : Value) {c : Collection} {fault : Fault}

theorem collectWith_of_start
    (hstart : (Stepwise.start o name >>= fun _ => collect o name values s.registry) = .error fault) :
    Stepwise.collectWith o values name s = .error fault s := by
  have hregistry : Effect.onRegistry (Stepwise.collect o name values) s = .error fault s := by
    unfold Effect.onRegistry
    rw [collect_stepwise, hstart]
  exact Effect.bind_eq_of_error hregistry _

theorem collectWith_eq_ok
    (hstart : (Stepwise.start o name >>= fun _ => collect o name values s.registry) = .ok c)
    (hnone : (draftsOf o name values).findSome? Draft.fault? = none) :
    Stepwise.collectWith o values name s =
      .ok (.references (.level c.references)) { s with registry := c.registry } := by
  obtain ⟨hcollect, hleaves⟩ := leavesOf_eq hstart
  have hregistry : Effect.onRegistry (Stepwise.collect o name values) s =
      .ok c.references { s with registry := c.registry } := by
    unfold Effect.onRegistry
    rw [collect_stepwise, hstart, collect_registry hcollect, hleaves]
    dsimp only
    rw [Collection.outcome_of_none hnone]
  exact Effect.bind_eq_of_ok hregistry _

theorem collectWith_eq_error
    (hstart : (Stepwise.start o name >>= fun _ => collect o name values s.registry) = .ok c)
    (hfirst : (draftsOf o name values).findSome? Draft.fault? = some fault) :
    Stepwise.collectWith o values name s =
      .error fault (s.extend (Draft.written (draftsOf o name values)) []) := by
  have hregistry : Effect.onRegistry (Stepwise.collect o name values) s =
      .error fault (s.extend (Draft.written (draftsOf o name values)) []) := by
    unfold Effect.onRegistry
    rw [collect_stepwise, hstart, extend_eq]
    dsimp only
    rw [Collection.outcome_of_some hfirst]
  exact Effect.bind_eq_of_error hregistry _

theorem settled_collectWith :
    s.Settled (Stepwise.collectWith o values name) (s.after .references (s.collectWith o values name))
      (Draft.written (draftsOf o name values))
      (name :: (draftsOf o name values).map Draft.value) := by
  unfold Settled
  cases hstart : Stepwise.start o name >>= fun _ => collect o name values s.registry with
  | error fault =>
    have hwritten : Draft.written (draftsOf o name values) = [] := by
      rw [draftsOf_eq_nil hstart]
      rfl
    rw [s.collectWith_of_start o values name hstart, hwritten, extend_nil]
    refine .inr ⟨fault, rfl, fun hvalues => ⟨rfl, ?_⟩⟩
    have hname := Value.fault?_of_isWritable (hvalues name List.mem_cons_self)
    rw [start_bind_collect hname] at hstart
    rw [collectWith, hstart]
    rfl
  | ok c =>
    cases hfirst : (draftsOf o name values).findSome? Draft.fault? with
    | none =>
      rw [s.collectWith_eq_ok o values name hstart hfirst, collectWith, (leavesOf_eq hstart).1]
      exact .inl ⟨_, _, rfl, rfl⟩
    | some fault =>
      refine .inr ⟨fault, s.collectWith_eq_error o values name hstart hfirst, fun hvalues => ?_⟩
      obtain ⟨d, hd, hfault⟩ := List.exists_of_findSome?_eq_some hfirst
      have hnone := Value.fault?_of_isWritable
        (hvalues d.value (List.mem_cons_of_mem _ (List.mem_map_of_mem hd)))
      rw [Draft.fault?, hnone] at hfault
      cases hfault

end CollectWith

/-! ## The steps of a call for styles -/

theorem settled_createStyle (subject : Subject) (styles : Option Style) :
    s.Settled (Stepwise.createStyle subject styles) (s.after .style (s.createStyle subject styles)) []
      ((Call.createStyle subject styles).values s.config) := by
  unfold Settled Stepwise.createStyle createStyle
  rw [extend_nil]
  cases heffective : effectiveStyle subject styles with
  | error fault => exact .inr ⟨fault, rfl, fun _ => ⟨rfl, rfl⟩⟩
  | ok style =>
    rw [Effect.bind_eq_of_ok (Effect.ofExcept_ok _ _)]
    cases style with
    | none => exact .inl ⟨_, _, rfl, rfl⟩
    | some style =>
      have hget : (get : Effect Session Session) s = .ok s s := rfl
      dsimp only
      rw [Effect.bind_eq_of_ok hget]
      cases hcss : style.compileChecked s.styleOptions [] with
      | error fault =>
        rw [Effect.bind_eq_of_error (Effect.ofExcept_error fault s)]
        refine .inr ⟨fault, rfl, fun hvalues => ⟨rfl, ?_⟩⟩
        rw [Call.values, heffective] at hvalues
        rw [Style.compileChecked_eq _ _ fun v hv => Value.fault?_of_isWritable (hvalues v hv)] at hcss
        simp [bind, Except.bind, hcss, after]
      | ok css =>
        obtain ⟨_, -, hcompile⟩ := bind_eq_ok_iff.mp hcss
        rw [Effect.bind_eq_of_ok (Effect.ofExcept_ok css s)]
        refine .inl ⟨.style style,
          if css = [] then s else { s with chunks := s.chunks ++ [css] }, ?_, ?_⟩
        · by_cases hempty : css = [] <;> simp only [hempty, if_true, if_false] <;> rfl
        · simp [bind, Except.bind, hcompile, after]
          rfl

/-! ## Whole calls -/

theorem settled_perform (call : Call) :
    s.Settled (Stepwise.perform call) (s.step call) (call.written s.config)
      (call.values s.config) := by
  cases call with
  | createTheme values name => exact s.settled_collectWith ⟨true, .scope⟩ values name
  | createVars values name => exact s.settled_collectWith ⟨false, s.config.varsThemeKeys⟩ values name
  | createStyle subject styles => exact s.settled_createStyle subject styles
  | _ => exact .inl ⟨_, _, rfl, rfl⟩

variable {s} in
theorem perform_of_error {call : Call} {fault : Fault} {t : Session}
    (h : Stepwise.perform call s = .error fault t) : s.perform call = (t, .error fault) := by
  rw [perform, h]

/-- **A call does what it does at once, or stops behind some of its leaves**, which are written and
counted then, and nothing else is changed. The session is as it was just when there are none, and so it
is for a call that collects nothing, or that has only values of which texts can be made. -/
theorem perform_cases (call : Call) :
    (∃ t reply, s.perform call = (t, .ok reply) ∧ s.step call = (t, .ok reply)) ∨
      ∃ fault, s.perform call = (s.extend (call.written s.config) [], .error fault) ∧
        call.written s.config <+: call.leaves s.config ∧
        ((s.perform call).1 = s ↔ call.written s.config = []) ∧
        (call.collects = false ∨ call.IsWritable s.config → (s.perform call).1 = s) := by
  rcases s.settled_perform call with ⟨reply, t, hsteps, hstep⟩ | ⟨fault, hsteps, hwritable⟩
  · refine .inl ⟨t, reply, ?_, hstep⟩
    rw [perform, hsteps]
  · have hperform := perform_of_error hsteps
    refine .inr ⟨fault, hperform, call.written_prefix s.config, ?_, fun h => ?_⟩
    · rw [hperform]
      exact s.extend_eq_self_iff
    · have hwritten : call.written s.config = [] :=
        h.elim Call.written_eq_nil fun h => (hwritable h).1
      rw [hperform, hwritten]
      exact s.extend_nil

/-! ### A theme that stops behind a write -/

/-- A theme of the variable `a` and a second one. -/
def twoVariables (v : Value) : Call :=
  .createTheme (.map [(.text "a", .scalar (.int 1)), (.text "b", v)]) (.text [])

theorem perform_twoVariables {v : Value} {fault : Fault} (hleaf : v.isLeaf = true)
    (hv : v.fault? Value.room = some fault) :
    (start {}).perform (twoVariables v) =
      ((start {}).extend [⟨some .root, [("a" : Text)], "1"⟩] [], .error fault) := by
  let first : Draft := ⟨some .root, [("a" : Text)], .scalar (.int 1)⟩
  let second : Draft := ⟨some .root, [("b" : Text)], v⟩
  have hdrafts : draftsOf ⟨true, .scope⟩ (.text [])
      (.map [(.text "a", .scalar (.int 1)), (.text "b", v)]) = [first] ++ [second] := by
    cases v with
    | map fields => cases hleaf
    | _ => rfl
  have hone : [first].findSome? Draft.fault? = none := by decide +kernel
  have htwo : [second].findSome? Draft.fault? = some fault := List.findSome?_singleton.trans hv
  have hfirst : ([first] ++ [second]).findSome? Draft.fault? = some fault := by
    rw [List.findSome?_append, hone, htwo, Option.none_or]
  have hwritten : Draft.written ([first] ++ [second]) = [⟨some .root, [("a" : Text)], "1"⟩] := by
    rw [Draft.written_append hone, Draft.written_cons_of_some (d := second) hv]
    rfl
  have hsteps := (start {}).collectWith_eq_error ⟨true, .scope⟩ _ (.text []) rfl (hdrafts ▸ hfirst)
  rw [hdrafts, hwritten] at hsteps
  exact perform_of_error hsteps

theorem extend_start_ne : (start {}).extend [⟨some .root, [("a" : Text)], "1"⟩] [] ≠ start {} :=
  mt (start {}).extend_eq_self_iff.mp (List.cons_ne_nil _ _)

/-- **A theme can stop behind a write**: at an integer with too many digits, and at lists that stand
inside each other too often. -/
theorem perform_twoVariables_ne_start :
    (∃ t, (start {}).perform (twoVariables (.scalar (.int ((10 ^ 4300 : Nat) : Int)))) =
        (t, .error (.tooManyDigits none)) ∧ t ≠ start {}) ∧
      ∃ t, (start {}).perform (twoVariables (.nested 600)) = (t, .error .endless) ∧
        t ≠ start {} := by
  have hdigits : (Value.scalar (.int ((10 ^ 4300 : Nat) : Int))).fault? Value.room =
      some (.tooManyDigits none) := by
    decide +kernel
  have hnested : (Value.nested 600).fault? Value.room = some .endless :=
    Value.fault?_nested (by decide)
  exact ⟨⟨_, perform_twoVariables rfl hdigits, extend_start_ne⟩,
    ⟨_, perform_twoVariables rfl hnested, extend_start_ne⟩⟩

/-- **The steps of a call do what it does at once** if texts can be made of its values. -/
theorem perform_eq_step {call : Call} (h : call.IsWritable s.config) :
    s.perform call = s.step call := by
  rcases s.settled_perform call with ⟨reply, t, hsteps, hstep⟩ | ⟨fault, hsteps, hwritable⟩
  · rw [perform, hsteps, hstep]
  · obtain ⟨hwritten, hstep⟩ := hwritable h
    rw [perform_of_error hsteps, hstep, hwritten, extend_nil]

theorem performAll_eq_replay {calls : List Call} (h : ∀ call ∈ calls, call.IsWritable s.config) :
    s.performAll calls = s.replay calls := by
  induction calls generalizing s with
  | nil => rfl
  | cons call calls ih =>
    obtain ⟨hcall, hcalls⟩ := List.forall_mem_cons.mp h
    rw [performAll, replay, s.perform_eq_step hcall]
    have hconfig := config_step s call
    cases hstep : s.step call with
    | mk t answer =>
      rw [hstep] at hconfig
      cases answer with
      | error f => rfl
      | ok reply => exact ih t (hconfig ▸ hcalls)

/-- **A source without a fault is applied in steps as it is at once.** -/
theorem performAll_calls {source : Source} (h : source.fault? = none) :
    s.performAll source.calls = s.applySource source :=
  s.performAll_eq_replay (Source.isWritable_calls h s.config)

end Session

end ThemedCss
