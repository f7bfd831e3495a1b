import ThemedCss.Proofs.Session.Restart
import ThemedCss.Proofs.Variable.Scanner
import ThemedCss.Proofs.Variable.Tally

/-!
# Uses are counted once

A leaf is counted when it is collected, and the references of a chunk when the first style sheet
after it is made; from then on the chunk is shortened but not read again.

* `Sightings`, `sightings`: what the table of a session has seen, in order, and the chunks that it
  has yet to read;
* `Watches`: a session's table is the tally of what it has seen;
* `Follows.usesOf_eq`: a session that has read all its chunks has counted every use;
* **`uses_counted_once`**: the counts of the table, and the order of its references.
-/

namespace ThemedCss.Session

open Variable

/-- What a session has seen since its last reset. -/
structure Sightings where
  /-- The names and fallbacks that have been counted, in the order in which they were. -/
  seen : List (Text × Text) := []
  /-- The chunks, as they were compiled, whose references are still to be counted. -/
  unread : List Text := []

/-- What a session has seen after one more call: its leaves, if it collects any, or the references
of the chunks that came since the last style sheet, if it makes one. -/
def Sightings.after (w : Sightings) (s : Session) (call : Call) : Sightings :=
  if call.resets then {}
  else if call.generates s then ⟨w.seen ++ w.unread.flatMap nestedReferences, []⟩
  else ⟨w.seen ++ (call.leaves s.config).map Leaf.use, w.unread ++ call.chunks s.config⟩

def sightings (s : Session) (w : Sightings) : List Call → Sightings
  | [] => w
  | call :: calls => sightings (s.step call).1 (w.after s call) calls

/-- The table of a session is the tally of what it has seen, and the chunks behind its index are
those that it has not. -/
structure Watches (w : Sightings) (s : Session) : Prop where
  tally : s.registry.table.Tallies w.seen
  scanned_le : s.scanned ≤ s.chunks.length
  unread : s.chunks.drop s.scanned = w.unread

namespace Watches

variable {w : Sightings} {s : Session}

theorem empty (config : Config) (cache : Cache Scalar) :
    Watches {} { config := config, cache := cache } :=
  ⟨UsageTable.Tallies.empty, Nat.le_refl 0, rfl⟩

theorem cache (h : Watches w s) (c : Cache Scalar) : Watches w { s with cache := c } :=
  ⟨h.tally, h.scanned_le, h.unread⟩

theorem extend (h : Watches w s) (leaves : List Leaf) (chunks : List Text) :
    Watches ⟨w.seen ++ leaves.map Leaf.use, w.unread ++ chunks⟩ (s.extend leaves chunks) where
  tally := by
    change (leaves.foldl Leaf.record s.registry).table.Tallies _
    rw [Leaf.foldl_record_table]
    exact h.tally.trackAll _
  scanned_le := by
    change s.scanned ≤ (s.chunks ++ chunks).length
    rw [List.length_append]
    exact Nat.le_add_right_of_le h.scanned_le
  unread := by
    change (s.chunks ++ chunks).drop s.scanned = w.unread ++ chunks
    rw [List.drop_append_of_le_length h.scanned_le, h.unread]

/-- **A style sheet has the unread chunks read, each once.** -/
theorem optimize (h : Watches w s) :
    Watches ⟨w.seen ++ w.unread.flatMap nestedReferences, []⟩ s.optimize.1 where
  tally := by
    refine Registry.tallies_hoist (r := s.scanChunks.registry) ?_
    have hread : s.scanChunks.registry.table =
        s.registry.table.trackAll (w.unread.flatMap nestedReferences) := by
      rw [← h.unread, funext nestedReferences_eq]
      exact congrArg Registry.table (Registry.foldl_scan_eq s.registry (s.chunks.drop s.scanned))
    rw [hread]
    exact h.tally.trackAll _
  scanned_le := Nat.le_of_eq (List.length_map _).symm
  unread := by
    change (s.chunks.map _).drop s.chunks.length = []
    rw [← List.map_drop, List.drop_length, List.map_nil]

theorem step (h : Watches w s) (call : Call) : Watches (w.after s call) (s.step call).1 := by
  unfold Sightings.after
  cases hr : call.resets with
  | true =>
    cases call with
    | reset => exact empty s.config s.cache
    | _ => cases hr
  | false =>
    cases hg : call.generates s with
    | true =>
      obtain ⟨cache, he⟩ := step_of_generates s hg
      rw [he]
      exact h.optimize.cache cache
    | false =>
      obtain ⟨cache, he⟩ := step_of_not_generates s hr hg
      rw [he]
      exact (h.extend _ _).cache cache

theorem run (h : Watches w s) (calls : List Call) :
    Watches (sightings s w calls) (s.run calls).1 := by
  induction calls generalizing s w with
  | nil => exact h
  | cons call calls ih => exact ih (h.step call)

end Watches

theorem Follows.usesOf_eq {written : Registry} {compiled : List Text} {s : Session}
    (h : Follows written compiled s) (hread : s.scanned = s.chunks.length) (reference value : Text) :
    s.registry.table.usesOf reference value = written.table.usesOf reference value +
      (compiled.flatMap allReferences).count (reference, value) := by
  rw [h.uses, hread, h.length, List.take_length]

theorem usesOf_foldl_record (leaves : List Leaf) (reference value : Text) :
    (leaves.foldl Leaf.record {}).table.usesOf reference value =
      leaves.countP fun l => name l.path = ofReference reference ∧ l.text = value := by
  rw [Leaf.foldl_record_table, UsageTable.usesOf_trackAll, List.count, List.countP_map]
  refine (Nat.zero_add _).trans (List.countP_congr fun l _ => ?_)
  simp [Leaf.use, name, ofReference]

/-- **Behind a style sheet, a table counts a literal behind a reference as often as it stands there
in the leaves that were collected since the last reset and in the chunks as they were compiled
since.** Each usage stands under its own literal, its count is the sum of those of its references,
and these come in the order in which they were first seen. -/
theorem uses_counted_once (config : Config) (calls : List Call) {call : Call}
    (h : call.generates ((start config).run calls).1 = true) :
    let table := ((start config).run (calls ++ [call])).1.registry.table
    let seen := (sightings (start config) {} (calls ++ [call])).seen
    (∀ reference value, table.usesOf reference value =
      ((leavesIn config calls).countP fun l =>
          name l.path = ofReference reference ∧ l.text = value) +
        ((chunksIn config calls).flatMap nestedReferences).count (reference, value)) ∧
    ∀ value u, table.get? value = some u →
      u.value = value ∧ u.count = (u.uses.entries.map Prod.snd).sum ∧
        u.uses.keys = ((seen.filter (·.2 = value)).map Prod.fst).eraseDups := by
  intro table seen
  constructor
  · intro reference value
    obtain ⟨cache, hstep⟩ := step_of_generates _ h
    have hfollows := (follows_sinceReset config calls).optimize.cache cache
    rw [← hstep, ← run_concat] at hfollows
    have hread : ((start config).run (calls ++ [call])).1.scanned =
        ((start config).run (calls ++ [call])).1.chunks.length := by
      rw [run_concat, hstep]
      exact (List.length_map _).symm
    rw [hfollows.usesOf_eq hread, usesOf_foldl_record, funext nestedReferences_eq]
  · intro value u hu
    exact ((Watches.empty config _).run (calls ++ [call])).tally.usage_eq hu

/-- A leaf that a reset forgets, the same leaf again, two chunks with a style sheet kept between them,
and the leaf's reference inside another one. -/
def recountCalls : List Call :=
  let gap : Call := .createVars (.map [(.text "gap", .scalar (.text "1px"))]) (.scalar (.text ""))
  let style (selector value : Text) : Call := .createStyle (.style (.rules [(.text selector,
    .rules [(.text "margin", .property (.scalar (.text value)))])])) none
  [gap, .reset, gap, style "a" "var(--gap, 1px) var(--gap, 1px)", .css true (some (.text "k")),
    style "b" "var(--side, var(--gap, 1px))", .css true (some (.text "k"))]

theorem uses_counted_once_gap :
    (Call.css true (some (.text "l"))).generates ((start {}).run recountCalls).1 = true ∧
    ((start {}).run (recountCalls ++ [.css true (some (.text "l"))])).1.registry.table.usesOf
      "gap" "1px" = 4 := by
  have h : (Call.css true (some (.text "l"))).generates ((start {}).run recountCalls).1 = true := by
    decide +kernel
  refine ⟨h, ((uses_counted_once {} recountCalls h).1 "gap" "1px").trans ?_⟩
  rw [funext nestedReferences_eq]
  decide +kernel

end ThemedCss.Session
