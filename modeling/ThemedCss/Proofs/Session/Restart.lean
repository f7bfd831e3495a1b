import Mathlib.Data.List.DropRight
import ThemedCss.Proofs.Session.History

/-!
# Runs with resets

A reset leaves nothing of a run but the cache, so that a session stands to the calls since its last
reset as it would to a run of these alone.

* `sinceReset`: the calls of a run since its last reset;
* `leavesIn`, `chunksIn`: what these collect and compile;
* **`follows_sinceReset`**: a session follows the calls since its last reset.
-/

namespace ThemedCss.Session

/-- The calls of a run since its last reset. -/
def sinceReset (calls : List Call) : List Call := calls.rtakeWhile fun call => !call.resets

/-- The leaves that a run has collected since its last reset. -/
def leavesIn (config : Config) (calls : List Call) : List Leaf :=
  (sinceReset calls).flatMap (Call.leaves config)

/-- The chunks that a run has compiled since its last reset, as they were compiled. -/
def chunksIn (config : Config) (calls : List Call) : List Text :=
  (sinceReset calls).flatMap (Call.chunks config)

variable {config : Config} {calls : List Call} {call : Call}

theorem sinceReset_concat_of_resets (h : call.resets = true) (calls : List Call) :
    sinceReset (calls ++ [call]) = [] :=
  List.rtakeWhile_concat_neg _ _ _ (by simp [h])

theorem sinceReset_concat (h : call.resets = false) (calls : List Call) :
    sinceReset (calls ++ [call]) = sinceReset calls ++ [call] :=
  List.rtakeWhile_concat_pos _ _ _ (by simp [h])

theorem run_concat (s : Session) (calls : List Call) (call : Call) :
    (s.run (calls ++ [call])).1 = ((s.run calls).1.step call).1 := by
  rw [run_append]
  rfl

/-- **A session follows the calls since its last reset.** -/
theorem follows_sinceReset (config : Config) (calls : List Call) :
    Follows ((leavesIn config calls).foldl Leaf.record {}) (chunksIn config calls)
      ((start config).run calls).1 := by
  induction calls using List.reverseRecOn with
  | nil => exact follows_empty config _
  | append_singleton calls call ih =>
    rw [run_concat]
    unfold leavesIn chunksIn at ih ⊢
    cases hr : call.resets with
    | true =>
      rw [sinceReset_concat_of_resets hr]
      cases call with
      | reset => exact follows_empty _ _
      | _ => cases hr
    | false =>
      have hstep := ih.step hr
      rw [config_run] at hstep
      rw [sinceReset_concat hr, List.flatMap_append, List.flatMap_append, List.foldl_append,
        List.flatMap_singleton, List.flatMap_singleton]
      exact hstep

end ThemedCss.Session
