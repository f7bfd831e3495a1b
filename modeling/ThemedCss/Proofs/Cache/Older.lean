import ThemedCss.Proofs.Cache.InStep

/-!
# Older entries in a cache

Entries that were written before all others, under keys that are not asked for any more, never show:
they are the first ones to be dropped, so that a bounded cache drops none of the others on their
account.

* `Cache.entries_written`: the entries with a text written under a key;
* `Cache.HoldsBehind`: a cache that holds what another one does, behind older entries;
* `HoldsBehind.get?_eq`, `HoldsBehind.shouldRegenerate_eq`: what it serves under other keys;
* **`HoldsBehind.set`**: a write under another key.
-/

namespace ThemedCss

namespace Entries

variable {κ α : Type} [DecidableEq κ]

theorem get?_append_of_not_mem {k : κ} {es : List (κ × α)} (h : k ∉ keys es) (fs : List (κ × α)) :
    get? k (es ++ fs) = get? k fs := by
  induction es with
  | nil => rfl
  | cons e es ih =>
    obtain ⟨i, w⟩ := e
    obtain ⟨hi, hes⟩ := not_or.mp (mt List.mem_cons.mpr h)
    rw [List.cons_append, get?, if_neg (Ne.symm hi), ih hes]

end Entries

namespace Cache

variable {κ : Type}

/-- Whether a cache holds what another one does under the same bound, behind older entries under keys
that are not used. -/
structure HoldsBehind (used : κ → Prop) (c d : Cache κ) : Prop where
  bound : c.bound = d.bound
  entries : ∃ older, c.entries.entries = older ++ d.entries.entries ∧ ∀ e ∈ older, ¬ used e.1

variable [DecidableEq κ] {used : κ → Prop} {c d : Cache κ} {key : κ}

theorem entries_written (c : Cache κ) (key : κ) (css metadata : Text) :
    (c.written key css metadata).entries =
      c.entries.entries.filter (·.1 ≠ key) ++ [(key, withMetadata css metadata)] := by
  refine Entries.put_of_not_mem (fun hkey => ?_) _
  obtain ⟨e, he, hek⟩ := List.mem_map.mp hkey
  exact of_decide_eq_true (List.mem_filter.mp he).2 hek

namespace HoldsBehind

omit [DecidableEq κ] in
theorem clear (h : HoldsBehind used c d) : HoldsBehind used c.clear d.clear :=
  ⟨h.bound, [], rfl, nofun⟩

theorem get?_eq (h : HoldsBehind used c d) (hkey : used key) :
    c.entries.get? key = d.entries.get? key := by
  obtain ⟨older, hentries, holder⟩ := h.entries
  refine (congrArg (Entries.get? key) hentries).trans (Entries.get?_append_of_not_mem ?_ _)
  intro hmem
  obtain ⟨e, he, rfl⟩ := List.mem_map.mp hmem
  exact holder e he hkey

theorem shouldRegenerate_eq (h : HoldsBehind used c d) (hkey : used key) (includeStyles : Bool) :
    c.shouldRegenerate key includeStyles = d.shouldRegenerate key includeStyles := by
  unfold shouldRegenerate has metadata? OrderedMap.contains
  rw [h.get?_eq hkey]

/-- **A write under another key keeps the older entries in front**, as far as there is room for them. -/
theorem set (h : HoldsBehind used c d) (hkey : used key) (css metadata : Text) :
    HoldsBehind used (c.set key css metadata) (d.set key css metadata) := by
  obtain ⟨older, hentries, holder⟩ := h.entries
  have hother : older.filter (·.1 ≠ key) = older := by
    refine List.filter_eq_self.mpr fun e he => decide_eq_true ?_
    rintro rfl
    exact holder e he hkey
  have hwritten : (c.written key css metadata).entries =
      older ++ (d.written key css metadata).entries := by
    rw [entries_written, entries_written, hentries, List.filter_append, hother, List.append_assoc]
  have hsize : (c.written key css metadata).size =
      older.length + (d.written key css metadata).size := by
    have hlength := congrArg List.length hwritten
    rwa [List.length_append] at hlength
  have hdropped (e : Cache κ) : (e.set key css metadata).entries.entries =
      (e.written key css metadata).entries.drop
        (e.bound.elim 0 ((e.written key css metadata).size - ·)) := entries_evict _ _
  refine ⟨h.bound, older.drop (c.bound.elim 0 ((c.written key css metadata).size - ·)), ?_,
    fun e he => holder e (List.mem_of_mem_drop he)⟩
  rw [hdropped, hdropped, hwritten, List.drop_append, h.bound, hsize]
  cases d.bound with
  | none => rw [Option.elim_none, Option.elim_none, Nat.zero_sub]
  | some m =>
    have hbehind : older.length + (d.written key css metadata).size - m - older.length =
        (d.written key css metadata).size - m := by omega
    rw [Option.elim_some, Option.elim_some, hbehind]

end HoldsBehind

end Cache

end ThemedCss
