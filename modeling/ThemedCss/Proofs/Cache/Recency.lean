import ThemedCss.Proofs.Cache.Older
import ThemedCss.Proofs.Cache.RoundTrip

/-!
# Which keys a bounded cache keeps

The keys of a cache stand in the order of their last writes, and the first ones are dropped when there
are too many. So a key is dropped by the keys that are written behind it, as soon as these fill the
cache on their own; keys that are dropped by name make room again, and reading changes nothing.

* `Request.writes?`, `Request.spares`, `Request.reads`: what a request does to the keys;
* `during`: the keys that are present while a request is answered;
* `rivals`: those of them that were written behind a key;
* `IsRecent`: the keys behind a key are those that were written since;
* `IsRecent.step`, `isRecent_run`: one request, and a run since the last write of a key;
* `run_filter_reads`: reading changes nothing;
* **`has_run_iff`**: the keys that a bounded cache holds after a run.
-/

namespace ThemedCss

namespace OrderedMap

variable {κ α : Type} [DecidableEq κ]

theorem keys_erase (m : OrderedMap κ α) (k : κ) : (m.erase k).keys = m.keys.filter (· ≠ k) := by
  unfold keys erase
  rw [List.filter_map]
  rfl

end OrderedMap

namespace Cache

variable {κ : Type} [DecidableEq κ] {c : Cache κ} {k : κ} {m : Nat}

namespace Request

/-- The key that a request writes. -/
def writes? : Request κ → Option κ
  | set key _ _ => some key
  | _ => none

/-- Whether a request neither writes a key nor drops it by name. -/
def spares (k : κ) : Request κ → Bool
  | set key _ _ | invalidate key => key ≠ k
  | clear => false
  | _ => true

/-- Whether a request only reads. -/
def reads : Request κ → Bool
  | set _ _ _ | invalidate _ | clear => false
  | _ => true

end Request

/-- The keys that are written by some requests. -/
def writtenBy (requests : List (Request κ)) : List κ := requests.filterMap Request.writes?

/-- The keys that are present while a request is answered: one that is written is there before
another one is dropped for it. -/
def during (c : Cache κ) : Request κ → List κ
  | .set key css metadata => (c.written key css metadata).keys
  | request => (c.step request).1.entries.keys

/-- The keys that are present while a request is answered, but not behind it. -/
def evicted (c : Cache κ) (request : Request κ) : List κ :=
  (c.during request).filter fun k => !(c.step request).1.has k

/-- The keys that a run drops to keep within the bound, in order. -/
def evictions (c : Cache κ) : List (Request κ) → List κ
  | [] => []
  | request :: requests => c.evicted request ++ evictions (c.step request).1 requests

/-- The keys among some that requests have written, one key apart. -/
def others (k : κ) (requests : List (Request κ)) (keys : List κ) : List κ :=
  keys.filter fun j => j ≠ k ∧ j ∈ writtenBy requests

/-- The other keys that are present while a request is answered and were written behind a key: by the
request, or by one of those since the last write of the key. -/
def rivals (c : Cache κ) (k : κ) (since : List (Request κ)) (request : Request κ) : List κ :=
  others k (since ++ [request]) ((c.run since).1.during request)

/-- Whether a key had less than `m` rivals at every moment of some requests, the first of which is its
last write. -/
def Kept (m : Nat) (c : Cache κ) (k : κ) (since : List (Request κ)) : Prop :=
  ∀ earlier request later, since = earlier ++ request :: later →
    (rivals c k earlier request).length < m

/-! ## The keys behind a request -/

theorem has_iff_mem_keys : c.has k = true ↔ k ∈ c.entries.keys :=
  OrderedMap.contains_iff_mem_keys c.entries k

theorem keys_written (c : Cache κ) (key : κ) (css metadata : Text) :
    (c.written key css metadata).keys = c.entries.keys.filter (· ≠ key) ++ [key] := by
  unfold OrderedMap.keys
  rw [entries_written, List.map_append, List.filter_map]
  rfl

theorem keys_set (hbound : c.bound = some m) (key : κ) (css metadata : Text) :
    (c.set key css metadata).entries.keys = (c.during (.set key css metadata)).drop
      ((c.during (.set key css metadata)).length - m) := by
  have hentries := entries_evict c.bound (c.written key css metadata)
  have hsize : (c.written key css metadata).size = (c.during (.set key css metadata)).length :=
    (List.length_map Prod.fst).symm
  rw [hbound, Option.elim_some, hsize] at hentries
  change (evict c.bound (c.written key css metadata)).entries.map Prod.fst = _
  rw [hbound, hentries, List.map_drop]
  rfl

theorem keys_invalidate (c : Cache κ) (key : κ) :
    (c.invalidate key).entries.keys = c.entries.keys.filter (· ≠ key) :=
  OrderedMap.keys_erase c.entries key

theorem step_of_reads {request : Request κ} (h : request.reads = true) (c : Cache κ) :
    (c.step request).1 = c := by
  cases request with
  | set key css metadata => cases h
  | invalidate key => cases h
  | clear => cases h
  | _ => rfl

theorem during_of_reads {request : Request κ} (h : request.reads = true) (c : Cache κ) :
    c.during request = c.entries.keys := by
  cases request with
  | set key css metadata => cases h
  | invalidate key => cases h
  | clear => cases h
  | _ => rfl

/-! ## The bound -/

/-- Whether a cache has a bound and keeps within it. -/
structure Within (m : Nat) (c : Cache κ) : Prop where
  bound : c.bound = some m
  size_le : c.entries.keys.length ≤ m

theorem Within.step (h : Within m c) (request : Request κ) : Within m (c.step request).1 := by
  cases request with
  | set key css metadata =>
    refine ⟨h.bound, ?_⟩
    change (c.set key css metadata).entries.keys.length ≤ m
    rw [keys_set h.bound, List.length_drop]
    omega
  | invalidate key =>
    refine ⟨h.bound, ?_⟩
    change (c.invalidate key).entries.keys.length ≤ m
    rw [keys_invalidate]
    exact Nat.le_trans (List.length_filter_le _ _) h.size_le
  | clear => exact ⟨h.bound, Nat.zero_le m⟩
  | _ => exact h

theorem Within.run (h : Within m c) (requests : List (Request κ)) :
    Within m (c.run requests).1 := by
  induction requests generalizing c with
  | nil => exact h
  | cons request requests ih => exact ih (h.step request)

theorem within_run (m : Nat) (requests : List (Request κ)) :
    Within m (run { bound := some m } requests).1 :=
  Within.run ⟨rfl, Nat.zero_le m⟩ requests

/-! ## The keys behind a key -/

/-- Whether the keys behind a key are those that some requests have written. -/
def IsRecent (k : κ) (since : List (Request κ)) (c : Cache κ) : Prop :=
  ∃ older newer, c.entries.keys = older ++ k :: newer ∧
    (∀ j ∈ newer, j ∈ writtenBy since) ∧ ∀ j ∈ older, j ∉ writtenBy since

theorem IsRecent.has {since : List (Request κ)} (h : IsRecent k since c) : c.has k = true := by
  obtain ⟨older, newer, hkeys, -⟩ := h
  rw [has_iff_mem_keys, hkeys]
  exact List.mem_append_right _ List.mem_cons_self

omit [DecidableEq κ] in
theorem writtenBy_concat (since : List (Request κ)) (request : Request κ) :
    writtenBy (since ++ [request]) = writtenBy since ++ request.writes?.toList := by
  unfold writtenBy
  rw [List.filterMap_append]
  cases h : request.writes? <;> simp [h]

theorem others_eq {since : List (Request κ)} {older newer : List κ}
    (hnodup : (older ++ k :: newer).Nodup) (hnewer : ∀ j ∈ newer, j ∈ writtenBy since)
    (holder : ∀ j ∈ older, j ∉ writtenBy since) : others k since (older ++ k :: newer) = newer := by
  have hk : k ∉ newer := (List.nodup_cons.mp (List.nodup_append.mp hnodup).2.1).1
  have holder' : older.filter (fun j => j ≠ k ∧ j ∈ writtenBy since) = [] := by
    simpa using fun j hj _ => holder j hj
  have hnewer' : newer.filter (fun j => j ≠ k ∧ j ∈ writtenBy since) = newer := by
    simpa using fun j hj => ⟨ne_of_mem_of_not_mem hj hk, hnewer j hj⟩
  rw [others, List.filter_append, List.filter_cons_of_neg (by simp), holder', hnewer',
    List.nil_append]

omit [DecidableEq κ] in
theorem drop_around (older newer : List κ) (k : κ) (n : Nat) :
    (older ++ k :: newer).drop n =
      if n ≤ older.length then older.drop n ++ k :: newer else newer.drop (n - older.length - 1) := by
  rw [List.drop_append]
  split
  · rename_i h
    have hzero : n - older.length = 0 := by omega
    rw [hzero, List.drop_zero]
  · rename_i h
    obtain ⟨i, hi⟩ : ∃ i, n - older.length = i + 1 := ⟨n - older.length - 1, by omega⟩
    rw [List.drop_of_length_le (by omega), hi, List.drop_succ_cons, List.nil_append,
      Nat.add_sub_cancel]

/-- A request that writes nothing leaves a part of the keys on both sides of a key, and with it less
rivals than there is room for. -/
theorem IsRecent.shrink {since : List (Request κ)} {request : Request κ}
    {older newer older' newer' : List κ} (hc : Within m c)
    (hkeys : c.entries.keys = older ++ k :: newer) (hnewer : ∀ j ∈ newer, j ∈ writtenBy since)
    (holder : ∀ j ∈ older, j ∉ writtenBy since) (hwrites : request.writes? = none)
    (hold : older'.Sublist older) (hnew : newer'.Sublist newer)
    (hduring : c.during request = older' ++ k :: newer')
    (hstep : (c.step request).1.entries.keys = older' ++ k :: newer') :
    (others k (since ++ [request]) (c.during request)).length < m ∧
      IsRecent k (since ++ [request]) (c.step request).1 := by
  have hwritten : writtenBy (since ++ [request]) = writtenBy since := by
    rw [writtenBy_concat, hwrites]
    exact List.append_nil _
  have hnodup : (older' ++ k :: newer').Nodup := hstep ▸ (c.step request).1.entries.nodup_keys
  have hnewer' : ∀ j ∈ newer', j ∈ writtenBy (since ++ [request]) := fun j hj =>
    hwritten ▸ hnewer j (hnew.subset hj)
  have holder' : ∀ j ∈ older', j ∉ writtenBy (since ++ [request]) := fun j hj =>
    hwritten ▸ holder j (hold.subset hj)
  have hsize := hc.size_le
  rw [hkeys, List.length_append, List.length_cons] at hsize
  have hlength := hnew.length_le
  rw [hduring, others_eq hnodup hnewer' holder']
  exact ⟨by omega, older', newer', hstep, hnewer', holder'⟩

theorem exists_during_set {since : List (Request κ)} {key : κ} {older newer : List κ}
    (css metadata : Text) (hkeys : c.entries.keys = older ++ k :: newer)
    (hnewer : ∀ j ∈ newer, j ∈ writtenBy since) (holder : ∀ j ∈ older, j ∉ writtenBy since)
    (hne : key ≠ k) :
    ∃ older' newer', c.during (.set key css metadata) = older' ++ k :: newer' ∧
      (∀ j ∈ newer', j ∈ writtenBy (since ++ [.set key css metadata])) ∧
      ∀ j ∈ older', j ∉ writtenBy (since ++ [.set key css metadata]) := by
  have hwritten : ∀ j, j ∈ writtenBy (since ++ [.set key css metadata]) ↔
      j ∈ writtenBy since ∨ j = key := by
    intro j
    rw [writtenBy_concat]
    exact List.mem_append.trans (or_congr_right List.mem_singleton)
  refine ⟨older.filter (· ≠ key), newer.filter (· ≠ key) ++ [key], ?_, fun j hj => ?_, fun j hj => ?_⟩
  · rw [during, keys_written, hkeys, List.filter_append,
      List.filter_cons_of_pos (by simpa using hne.symm), List.append_assoc, List.cons_append]
  · rw [hwritten]
    exact (List.mem_append.mp hj).imp (fun h => hnewer j (List.mem_of_mem_filter h))
      List.mem_singleton.mp
  · obtain ⟨hj, hjkey⟩ := List.mem_filter.mp hj
    rw [hwritten]
    exact not_or_intro (holder j hj) (of_decide_eq_true hjkey)

theorem IsRecent.step_set {since : List (Request κ)} {key : κ} {css metadata : Text}
    {older newer : List κ} (hbound : c.bound = some m)
    (hkeys : c.entries.keys = older ++ k :: newer) (hnewer : ∀ j ∈ newer, j ∈ writtenBy since)
    (holder : ∀ j ∈ older, j ∉ writtenBy since) (hne : key ≠ k) :
    let rivals := others k (since ++ [.set key css metadata]) (c.during (.set key css metadata))
    (rivals.length < m →
        IsRecent k (since ++ [.set key css metadata]) (c.set key css metadata)) ∧
      (m ≤ rivals.length → (c.set key css metadata).has k = false) := by
  intro rivals
  obtain ⟨older', newer', hduring, hnewer', holder'⟩ :=
    exists_during_set css metadata hkeys hnewer holder hne
  have hnodup : (older' ++ k :: newer').Nodup := hduring ▸ (c.written key css metadata).nodup_keys
  have hrivals : rivals = newer' :=
    (congrArg (others k _) hduring).trans (others_eq hnodup hnewer' holder')
  have hset := keys_set hbound key css metadata
  rw [hduring, drop_around, List.length_append, List.length_cons] at hset
  rw [hrivals]
  refine ⟨fun hlt => ?_, fun hle => ?_⟩
  · rw [if_pos (by omega)] at hset
    exact ⟨_, _, hset, hnewer', fun j hj => holder' j (List.mem_of_mem_drop hj)⟩
  · rw [if_neg (by omega)] at hset
    refine Bool.eq_false_iff.mpr fun hhas => ?_
    rw [has_iff_mem_keys, hset] at hhas
    exact (List.nodup_cons.mp (List.nodup_append.mp hnodup).2.1).1 (List.mem_of_mem_drop hhas)

/-- **A request that spares a key leaves it where it is exactly if the key has less rivals then than
there is room for.** -/
theorem IsRecent.step {since : List (Request κ)} {request : Request κ} (h : IsRecent k since c)
    (hc : Within m c) (hspares : request.spares k = true) :
    ((others k (since ++ [request]) (c.during request)).length < m →
        IsRecent k (since ++ [request]) (c.step request).1) ∧
      (m ≤ (others k (since ++ [request]) (c.during request)).length →
        (c.step request).1.has k = false) := by
  obtain ⟨older, newer, hkeys, hnewer, holder⟩ := h
  by_cases hwrites : request.writes? = none
  · obtain ⟨older', newer', hold, hnew, hduring, hstep⟩ :
        ∃ older' newer', older'.Sublist older ∧ newer'.Sublist newer ∧
          c.during request = older' ++ k :: newer' ∧
          (c.step request).1.entries.keys = older' ++ k :: newer' := by
      cases request with
      | set key css metadata => cases hwrites
      | clear => cases hspares
      | invalidate key =>
        have hne : key ≠ k := of_decide_eq_true hspares
        have hfilter : c.entries.keys.filter (· ≠ key) =
            older.filter (· ≠ key) ++ k :: newer.filter (· ≠ key) := by
          rw [hkeys, List.filter_append, List.filter_cons_of_pos (by simpa using hne.symm)]
        have hinvalidate := (keys_invalidate c key).trans hfilter
        exact ⟨_, _, List.filter_sublist, List.filter_sublist, hinvalidate, hinvalidate⟩
      | _ => exact ⟨older, newer, .refl _, .refl _, hkeys, hkeys⟩
    obtain ⟨hlt, hrecent⟩ := shrink hc hkeys hnewer holder hwrites hold hnew hduring hstep
    exact ⟨fun _ => hrecent, fun hle => absurd hle (by omega)⟩
  · cases request with
    | set key css metadata =>
      exact step_set hc.bound hkeys hnewer holder (of_decide_eq_true hspares)
    | _ => exact absurd rfl hwrites

/-- The write of a key leaves it as the last one, unless there is no room at all. -/
theorem isRecent_set (hc : Within m c) (k : κ) (css metadata : Text) :
    (rivals c k [] (.set k css metadata)) = [] ∧
      (0 < m → IsRecent k [.set k css metadata] (c.set k css metadata)) ∧
      (m = 0 → (c.set k css metadata).has k = false) := by
  have hwritten : ∀ j, j ∈ writtenBy [Request.set k css metadata] ↔ j = k := fun j =>
    List.mem_singleton
  have hset := keys_set hc.bound k css metadata
  rw [during, keys_written, drop_around, List.length_append, List.length_singleton] at hset
  refine ⟨?_, fun hpos => ?_, ?_⟩
  · refine List.filter_eq_nil_iff.mpr fun j _ => ?_
    rw [decide_eq_true_eq]
    exact fun ⟨hne, hj⟩ => hne ((hwritten j).mp hj)
  · rw [if_pos (by omega)] at hset
    refine ⟨_, [], hset, nofun, fun j hj => ?_⟩
    rw [hwritten]
    exact of_decide_eq_true (List.mem_filter.mp (List.mem_of_mem_drop hj)).2
  · rintro rfl
    rw [if_neg (by omega), List.drop_nil] at hset
    refine Bool.eq_false_iff.mpr fun hhas => ?_
    rw [has_iff_mem_keys, hset] at hhas
    cases hhas

/-! ## A run -/

theorem Request.write?_of_spares {request : Request κ} (h : request.spares k = true) :
    request.write? k = none := by
  cases request with
  | set key css metadata => exact if_neg (of_decide_eq_true h)
  | _ => rfl

theorem has_of_has_step {request : Request κ} (hspares : request.spares k = true)
    (h : (c.step request).1.has k = true) : c.has k = true := by
  obtain ⟨t, ht⟩ := Option.isSome_iff_exists.mp h
  have hwrite := Request.write?_of_spares hspares
  rcases get?_step ht with hwritten | ⟨-, hbefore⟩
  · rw [hwrite] at hwritten
    cases hwritten
  · exact Option.isSome_iff_exists.mpr ⟨t, hbefore⟩

theorem kept_concat (since : List (Request κ)) (request : Request κ) :
    Kept m c k (since ++ [request]) ↔
      Kept m c k since ∧ (rivals c k since request).length < m := by
  refine ⟨fun h => ⟨fun earlier r later hsince => ?_, h since request [] rfl⟩, ?_⟩
  · refine h earlier r (later ++ [request]) ?_
    rw [hsince, List.append_assoc, List.cons_append]
  · rintro ⟨hsince, hlast⟩ earlier r later hconcat
    rcases List.eq_nil_or_concat later with rfl | ⟨later, r', rfl⟩
    · obtain ⟨rfl, hr⟩ := List.append_inj' hconcat rfl
      cases hr
      exact hlast
    · rw [List.concat_eq_append, ← List.cons_append, ← List.append_assoc] at hconcat
      obtain ⟨rfl, -⟩ := List.append_inj' hconcat rfl
      exact hsince earlier r later rfl

/-- **Since its last write a key stays in its place as long as it has less rivals at every moment than
there is room for; otherwise it is dropped.** -/
theorem isRecent_run (hc : Within m c) (k : κ) (css metadata : Text)
    {later : List (Request κ)} (hlater : ∀ r ∈ later, r.spares k = true) :
    let since := .set k css metadata :: later
    (Kept m c k since → IsRecent k since (c.run since).1) ∧
      (¬ Kept m c k since → (c.run since).1.has k = false) := by
  induction later using List.reverseRecOn with
  | nil =>
    obtain ⟨hrivals, hroom, hfull⟩ := isRecent_set hc k css metadata
    have hkept : Kept m c k [.set k css metadata] ↔ 0 < m := by
      have hconcat := kept_concat (m := m) (c := c) (k := k) [] (.set k css metadata)
      rw [hrivals] at hconcat
      refine hconcat.trans (and_iff_right ?_)
      exact fun earlier r rest hnil => absurd hnil (by simp)
    exact ⟨fun h => hroom (hkept.mp h), fun h => hfull (by rw [hkept] at h; omega)⟩
  | append_singleton later request ih =>
    intro since
    have hspares : request.spares k = true := hlater request (by simp)
    obtain ⟨hrecent, hgone⟩ := ih fun r hr => hlater r (List.mem_append_left _ hr)
    have hrun := run_concat c (.set k css metadata :: later) request
    have hkept := kept_concat (m := m) (c := c) (k := k) (.set k css metadata :: later) request
    have hwithin := hc.run (.set k css metadata :: later)
    rw [List.cons_append] at hrun hkept
    rw [hrun, hkept]
    by_cases hbefore : Kept m c k (.set k css metadata :: later)
    · obtain ⟨hstays, hgoes⟩ := (hrecent hbefore).step hwithin hspares
      refine ⟨fun h => hstays h.2, fun h => hgoes ?_⟩
      exact Nat.le_of_not_lt fun hlt => h ⟨hbefore, hlt⟩
    · refine ⟨fun h => absurd h.1 hbefore, fun _ => Bool.eq_false_iff.mpr fun hhas => ?_⟩
      have hhad := has_of_has_step hspares hhas
      rw [hgone hbefore] at hhad
      cases hhad

theorem exists_last_set {bound : Option Nat} {requests : List (Request κ)}
    (h : (run { bound := bound } requests).1.has k = true) :
    ∃ before css metadata later, requests = before ++ .set k css metadata :: later ∧
      ∀ r ∈ later, r.spares k = true := by
  induction requests using List.reverseRecOn with
  | nil => cases h
  | append_singleton requests request ih =>
    rw [run_concat] at h
    by_cases hspares : request.spares k = true
    · obtain ⟨before, css, metadata, later, rfl, hlater⟩ := ih (has_of_has_step hspares h)
      refine ⟨before, css, metadata, later ++ [request], by simp, fun r hr => ?_⟩
      rcases List.mem_append.mp hr with hr | hr
      · exact hlater r hr
      · rwa [List.mem_singleton.mp hr]
    · cases request with
      | set key css metadata =>
        obtain rfl : key = k := by simpa [Request.spares] using hspares
        exact ⟨requests, css, metadata, [], rfl, nofun⟩
      | invalidate key =>
        obtain rfl : key = k := by simpa [Request.spares] using hspares
        change (OrderedMap.get? (OrderedMap.erase _ key) key).isSome = true at h
        rw [OrderedMap.get?_erase_self] at h
        cases h
      | clear => cases h
      | _ => exact absurd rfl hspares

/-! ## Reading -/

theorem run_filter_reads (c : Cache κ) (requests : List (Request κ)) :
    (c.run (requests.filter fun r => !r.reads)).1 = (c.run requests).1 ∧
      c.evictions (requests.filter fun r => !r.reads) = c.evictions requests := by
  induction requests generalizing c with
  | nil => exact ⟨rfl, rfl⟩
  | cons request requests ih =>
    obtain ⟨hrun, hevictions⟩ := ih (c.step request).1
    cases hreads : request.reads with
    | false =>
      rw [List.filter_cons_of_pos (by simp [hreads])]
      exact ⟨hrun, congrArg (c.evicted request ++ ·) hevictions⟩
    | true =>
      rw [List.filter_cons_of_neg (by simp [hreads])]
      have hevicted : c.evicted request = [] := by
        refine List.filter_eq_nil_iff.mpr fun k hk => ?_
        rw [during_of_reads hreads, ← has_iff_mem_keys] at hk
        rw [step_of_reads hreads, hk]
        exact Bool.false_ne_true
      have hsame := step_of_reads hreads c
      rw [hsame] at hrun hevictions
      refine ⟨hrun.trans ?_, hevictions.trans ?_⟩
      · exact congrArg (fun d => (run d requests).1) hsame.symm
      · rw [evictions, hevicted, hsame, List.nil_append]

/-- **A bounded cache keeps what was written last.** It never holds more keys than its bound. A key is
present exactly if it was written, was spared by every request since its last write, and at no moment
since then there were as many other keys behind it as the bound: keys that are present, one that is
just being written among them, and were written since. Reading changes nothing of what is dropped. -/
theorem has_run_iff (m : Nat) (requests : List (Request κ)) :
    let empty : Cache κ := { bound := some m }
    (empty.run requests).1.size ≤ m ∧
      (∀ k, (empty.run requests).1.has k = true ↔ ∃ before css metadata later,
        requests = before ++ .set k css metadata :: later ∧ (∀ r ∈ later, r.spares k = true) ∧
        ∀ earlier request rest, .set k css metadata :: later = earlier ++ request :: rest →
          (rivals (empty.run before).1 k earlier request).length < m) ∧
      empty.evictions (requests.filter fun r => !r.reads) = empty.evictions requests := by
  intro empty
  have hsize := (within_run m requests).size_le
  rw [OrderedMap.keys, List.length_map] at hsize
  refine ⟨hsize, fun k => ⟨fun h => ?_, ?_⟩, (run_filter_reads empty requests).2⟩
  · obtain ⟨before, css, metadata, later, rfl, hlater⟩ := exists_last_set h
    refine ⟨before, css, metadata, later, rfl, hlater, ?_⟩
    have hgone := (isRecent_run (within_run m before) k css metadata hlater).2
    rw [run_append] at h
    by_contra hkept
    rw [hgone hkept] at h
    cases h
  · rintro ⟨before, css, metadata, later, rfl, hlater, hkept⟩
    rw [run_append]
    exact ((isRecent_run (within_run m before) k css metadata hlater).1 hkept).has

/-- A key that is written again stays, a key that is dropped by name makes room for an older one, and
reading the oldest one does not save it. -/
example : (run { bound := some 2 } [.set 0 "a" [], .set 1 "b" [], .set 0 "c" [], .set 2 "d" [],
    .invalidate 2, .set 3 "e" [], .get 0, .set 4 "f" []]).1.entries.keys = [3, 4] := by
  decide +kernel

end Cache

end ThemedCss
