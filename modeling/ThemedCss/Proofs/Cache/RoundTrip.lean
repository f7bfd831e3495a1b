import Mathlib.Data.List.Induction
import ThemedCss.Cache.Request
import ThemedCss.Proofs.Cache.Comment
import ThemedCss.Proofs.Cache.InStep

/-!
# What a cache gives back

A cache holds under a key what was last written under it, however much else was written, read and
dropped. The text is given back as it was written, with its metadata, unless comments in it are taken
for the one that holds the metadata.

* `get?_set`, `get?_step`: the entries after a write and after any request;
* `lastWrite?`: what was last written under a key;
* `lastWrite?_of_get?`: an entry of a run is what was last written under its key;
* **`get?_run_iff`**: when a key that is present gives back what was last written under it;
* `comment_truncates_css`: a text with a comment in it.
-/

namespace ThemedCss

namespace OrderedMap

variable {κ α : Type} [DecidableEq κ]

theorem get?_erase_self (m : OrderedMap κ α) (k : κ) : (m.erase k).get? k = none := by
  refine get?_eq_none_iff.mpr fun hk => ?_
  obtain ⟨e, he, hek⟩ := List.mem_map.mp hk
  exact of_decide_eq_true (List.mem_filter.mp he).2 hek

theorem get?_of_get?_erase {m : OrderedMap κ α} {k j : κ} {v : α}
    (h : (m.erase k).get? j = some v) : k ≠ j ∧ m.get? j = some v := by
  refine ⟨?_, get?_eq_some_iff.mpr (List.mem_of_mem_filter (get?_eq_some_iff.mp h))⟩
  rintro rfl
  rw [get?_erase_self] at h
  cases h

end OrderedMap

namespace Cache

variable {κ : Type} [DecidableEq κ] {c : Cache κ} {key k : κ} {css metadata t : Text}

/-! ## One request -/

theorem get?_of_get?_evict {bound : Option Nat} {m : OrderedMap κ Text}
    (h : (evict bound m).get? k = some t) : m.get? k = some t := by
  rw [OrderedMap.get?_eq_some_iff, entries_evict] at h
  exact OrderedMap.get?_eq_some_iff.mpr (List.mem_of_mem_drop h)

theorem get?_set (h : (c.set key css metadata).entries.get? k = some t) :
    (key = k ∧ t = withMetadata css metadata) ∨ (key ≠ k ∧ c.entries.get? k = some t) := by
  have hwritten := get?_of_get?_evict h
  rw [written, OrderedMap.get?_insert] at hwritten
  split at hwritten
  · rename_i hk
    exact .inl ⟨hk, (Option.some.inj hwritten).symm⟩
  · exact .inr (OrderedMap.get?_of_get?_erase hwritten)

/-! ## A run -/

/-- What a request writes under a key. -/
def Request.write? (k : κ) : Request κ → Option (Text × Text)
  | .set key css metadata => if key = k then some (css, metadata) else none
  | _ => none

/-- The text and the metadata that were last written under a key. -/
def lastWrite? (requests : List (Request κ)) (k : κ) : Option (Text × Text) :=
  requests.reverse.findSome? (·.write? k)

theorem lastWrite?_concat (requests : List (Request κ)) (request : Request κ) (k : κ) :
    lastWrite? (requests ++ [request]) k = (request.write? k).or (lastWrite? requests k) := by
  unfold lastWrite?
  rw [List.reverse_append, List.reverse_singleton, List.singleton_append, List.findSome?_cons]
  cases request.write? k <;> rfl

theorem get?_step {request : Request κ} (h : (c.step request).1.entries.get? k = some t) :
    (request.write? k).map (fun w => withMetadata w.1 w.2) = some t ∨
      request.write? k = none ∧ c.entries.get? k = some t := by
  cases request with
  | set key css metadata =>
    rcases get?_set h with ⟨hk, rfl⟩ | ⟨hk, h⟩
    · exact .inl (by rw [Request.write?, if_pos hk, Option.map_some])
    · exact .inr ⟨if_neg hk, h⟩
  | invalidate key => exact .inr ⟨rfl, (OrderedMap.get?_of_get?_erase h).2⟩
  | clear => cases h
  | get key => exact .inr ⟨rfl, h⟩
  | metadata key => exact .inr ⟨rfl, h⟩
  | has key => exact .inr ⟨rfl, h⟩
  | shouldRegenerate key includeStyles => exact .inr ⟨rfl, h⟩

/-- **What a cache holds under a key is what was last written under it.** -/
theorem lastWrite?_of_get? {bound : Option Nat} {requests : List (Request κ)}
    (h : (run { bound := bound } requests).1.entries.get? k = some t) :
    (lastWrite? requests k).map (fun w => withMetadata w.1 w.2) = some t := by
  induction requests using List.reverseRecOn generalizing t with
  | nil => cases h
  | append_singleton requests request ih =>
    rw [run_concat] at h
    rw [lastWrite?_concat]
    rcases get?_step h with hwrite | ⟨hnone, h⟩
    · obtain ⟨w, hw, rfl⟩ := Option.map_eq_some_iff.mp hwrite
      rw [hw]
      rfl
    · rw [hnone, Option.none_or]
      exact ih h

/-- **A key that is present gives back the text that was last written under it exactly when that can
be told from what was put behind it, and then it gives back the metadata, too**: no comment opens in
a text with metadata, and a text without metadata does not end with a comment. -/
theorem get?_run_iff (bound : Option Nat) (requests : List (Request κ)) {k : κ}
    (h : (run { bound := bound } requests).1.has k = true) :
    let c := (run { bound := bound } requests).1
    ∃ css metadata, lastWrite? requests k = some (css, metadata) ∧
      (c.get? k = some css ↔ Separable css metadata) ∧
      (Separable css metadata → c.metadata? k = some metadata) := by
  intro c
  obtain ⟨t, ht⟩ := Option.isSome_iff_exists.mp h
  obtain ⟨⟨css, metadata⟩, hlast, rfl⟩ := Option.map_eq_some_iff.mp (lastWrite?_of_get? ht)
  obtain ⟨hcss, hmetadata⟩ := read_withMetadata_iff css metadata
  have hget : c.get? k = some (((comment? (withMetadata css metadata)).map Prod.fst).getD
      (withMetadata css metadata)) := congrArg (Option.map _) ht
  have hgetMetadata : c.metadata? k = some (((comment? (withMetadata css metadata)).map
      Prod.snd).getD []) := congrArg (Option.map _) ht
  refine ⟨css, metadata, hlast, ?_, fun hs => ?_⟩
  · rw [hget, Option.some_inj]
    exact hcss
  · rw [hgetMetadata, hmetadata hs]

/-- A text with a comment that is written over another one, and a write that drops the key before. -/
def commentRequests : List (Request Text) :=
  [.set "j" "x" [], .set "k" "y" needsStyles, .get "j", .set "k" "/* --> */ z" "<!-- m -->",
    .set "l" "<!-- w --> w" []]

theorem get?_run_iff_comment :
    (run { bound := some 2 } commentRequests).1.has "k" = true ∧
      (run { bound := some 2 } commentRequests).1.get? "k" = some ("/* --> */ z" : Text) ∧
      (run { bound := some 2 } commentRequests).1.metadata? "k" = some ("<!-- m -->" : Text) := by
  have h : (run { bound := some 2 } commentRequests).1.has "k" = true := by decide +kernel
  obtain ⟨css, metadata, hlast, hcss, hmetadata⟩ := get?_run_iff (some 2) commentRequests h
  have hwritten : lastWrite? commentRequests "k" =
      some (("/* --> */ z" : Text), ("<!-- m -->" : Text)) := by decide +kernel
  cases hwritten.symm.trans hlast
  have hs : Separable "/* --> */ z" "<!-- m -->" := by decide +kernel
  exact ⟨h, hcss.mpr hs, hmetadata hs⟩

/-- **A text is not always given back as it was written**: the comment with its metadata is looked for
from the first comment in the text on. -/
theorem comment_truncates_css : ¬ ∀ (bound : Option Nat) (requests : List (Request Text)) (k : Text),
    (∀ n ∈ bound, 1 ≤ n) → (run { bound := bound } requests).1.has k = true →
    ∀ css metadata, lastWrite? requests k = some (css, metadata) →
      (run { bound := bound } requests).1.get? k = some css ∧
        (run { bound := bound } requests).1.metadata? k = some metadata := by
  intro h
  have hread := h none [.set "k" "a <!-- b --> c" needsStyles] "k" nofun (by decide +kernel)
    "a <!-- b --> c" needsStyles (by decide +kernel)
  exact absurd hread.1 (by decide +kernel)

/-- A comment at the end of a text is taken for metadata. -/
example : (run { } [.set (0 : Nat) "a <!-- b -->" []]).1.get? 0 = some ("a " : Text) := by
  decide +kernel

end Cache

end ThemedCss
