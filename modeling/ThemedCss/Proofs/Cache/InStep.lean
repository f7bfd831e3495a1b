import Mathlib.Data.List.Forall2
import ThemedCss.Cache

/-!
# Caches that are written in step

Two caches that are written under the same keys drop the same keys, whatever texts they keep.

* `Cache.InStep`: one bound, the same keys in the same order, and texts that stand in a relation;
* **`InStep.set`**: a write of related texts;
* `InStep.rel_getD`: what the caches serve under a key;
* `InStep.shouldRegenerate_eq`: whether a style sheet has to be made again.
-/

namespace ThemedCss

namespace Entries

variable {κ α : Type} [DecidableEq κ]

/-- Entries with the same keys in the same order, and values that stand in a relation. -/
def InStep (R : α → α → Prop) (es fs : List (κ × α)) : Prop :=
  List.Forall₂ (fun e f => e.1 = f.1 ∧ R e.2 f.2) es fs

variable {R : α → α → Prop} {es fs : List (κ × α)}

theorem InStep.put {v w : α} (h : InStep R es fs) (hvw : R v w) (k : κ) :
    InStep R (put k v es) (put k w fs) := by
  induction h with
  | nil => exact .cons ⟨rfl, hvw⟩ .nil
  | @cons e f es fs hef htail ih =>
    obtain ⟨i, x⟩ := e
    obtain ⟨j, y⟩ := f
    obtain ⟨rfl, hxy⟩ := hef
    by_cases hk : i = k
    · subst hk
      simp only [Entries.put, if_true]
      exact .cons ⟨rfl, hvw⟩ htail
    · simp only [Entries.put, hk, if_false]
      exact .cons ⟨rfl, hxy⟩ ih

theorem InStep.rel_get? (h : InStep R es fs) (k : κ) : Option.Rel R (get? k es) (get? k fs) := by
  induction h with
  | nil => exact .none
  | @cons e f es fs hef htail ih =>
    obtain ⟨i, x⟩ := e
    obtain ⟨j, y⟩ := f
    obtain ⟨rfl, hxy⟩ := hef
    by_cases hk : i = k
    · simp only [Entries.get?, hk, if_true]
      exact .some hxy
    · simp only [Entries.get?, hk, if_false]
      exact ih

theorem InStep.erase (h : InStep R es fs) (k : κ) :
    InStep R (es.filter (·.1 ≠ k)) (fs.filter (·.1 ≠ k)) := by
  refine List.rel_filter (fun e f hef => ?_) h
  show decide (e.1 ≠ k) = true ↔ decide (f.1 ≠ k) = true
  rw [hef.1]

end Entries

namespace Cache

variable {κ : Type}

theorem entries_evict (bound : Option Nat) (m : OrderedMap κ Text) :
    (evict bound m).entries = m.entries.drop (bound.elim 0 (m.size - ·)) := by
  fun_induction evict bound m with
  | case1 m => rfl
  | case2 m n hlt ih =>
    have hsize : m.tail.size = m.size - 1 := List.length_tail
    have hentries : m.tail.entries = m.entries.drop 1 := (List.drop_one (l := m.entries)).symm
    rw [ih, hsize, hentries, List.drop_drop]
    congr 1
    simp only [Option.elim_some]
    omega
  | case3 m n hle =>
    have hzero : m.size - n = 0 := by omega
    rw [Option.elim_some, hzero, List.drop_zero]

/-- Two caches under one bound with the same keys in the same order, and with texts that stand in a
relation. -/
structure InStep (R : Text → Text → Prop) (c d : Cache κ) : Prop where
  bound : c.bound = d.bound
  entries : Entries.InStep R c.entries.entries d.entries.entries

namespace InStep

variable {R : Text → Text → Prop} {c d : Cache κ}

theorem empty (bound : Option Nat) : InStep R ({ bound := bound } : Cache κ) { bound := bound } :=
  ⟨rfl, .nil⟩

theorem clear (h : InStep R c d) : InStep R c.clear d.clear := ⟨h.bound, .nil⟩

variable [DecidableEq κ]

/-- **A write of related texts keeps two caches in step.** -/
theorem set (h : InStep R c d) (key : κ) {css css' metadata : Text}
    (hcss : R (withMetadata css metadata) (withMetadata css' metadata)) :
    InStep R (c.set key css metadata) (d.set key css' metadata) := by
  have hwritten : Entries.InStep R (c.written key css metadata).entries
      (d.written key css' metadata).entries := (h.entries.erase key).put hcss key
  have hsize : (c.written key css metadata).size = (d.written key css' metadata).size :=
    hwritten.length_eq
  refine ⟨h.bound, ?_⟩
  unfold Cache.set
  dsimp only
  rw [entries_evict, entries_evict, h.bound, hsize]
  exact List.forall₂_drop _ hwritten

theorem rel_get? (h : InStep R c d) (key : κ) :
    Option.Rel R (c.entries.get? key) (d.entries.get? key) := h.entries.rel_get? key

theorem shouldRegenerate_eq (h : InStep R c d)
    (hR : ∀ t u, R t u → (comment? t).map Prod.snd = (comment? u).map Prod.snd) (key : κ)
    (includeStyles : Bool) :
    c.shouldRegenerate key includeStyles = d.shouldRegenerate key includeStyles := by
  have hrel := h.rel_get? key
  unfold shouldRegenerate has metadata? OrderedMap.contains
  revert hrel
  cases c.entries.get? key with
  | none =>
    cases d.entries.get? key with
    | none => exact fun _ => rfl
    | some u => exact nofun
  | some t =>
    cases d.entries.get? key with
    | none => exact nofun
    | some u =>
      rintro ⟨htu⟩
      simp only [Option.isSome_some, Option.map_some, hR t u htu]

theorem rel_getD (h : InStep R c d) (hnil : R [] [])
    (hR : ∀ t u, R t u → R (((comment? t).map Prod.fst).getD t) (((comment? u).map Prod.fst).getD u))
    (key : κ) : R ((c.get? key).getD []) ((d.get? key).getD []) := by
  have hrel := h.rel_get? key
  unfold Cache.get?
  revert hrel
  cases c.entries.get? key with
  | none =>
    cases d.entries.get? key with
    | none => exact fun _ => hnil
    | some u => exact nofun
  | some t =>
    cases d.entries.get? key with
    | none => exact nofun
    | some u =>
      rintro ⟨htu⟩
      exact hR t u htu

end InStep

theorem comment?_eq_none {t : Text} (h : t.getLast? = some '\n') : comment? t = none := by
  obtain ⟨s, rfl⟩ := List.getLast?_eq_some_iff.mp h
  have hend : beforeEnd? (s ++ ['\n']) = none := by
    unfold beforeEnd?
    rw [List.reverse_append]
    rfl
  rw [comment?, hend]
  rfl

end Cache

end ThemedCss
