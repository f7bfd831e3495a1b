import Mathlib.Data.List.Induction
import ThemedCss.Proofs.Cache.Comment
import ThemedCss.Proofs.Cache.RoundTrip
import ThemedCss.Proofs.Session.Restart
import ThemedCss.Proofs.Sheet.Ending

/-!
# Style sheets from the cache

The cache keeps beside a style sheet whether it was made without its rules. This can be read off
whatever the style sheet holds, since a style sheet ends with a line feed and the note behind it with
the end of a comment.

* `Session.timeline`: the calls of a run, each with the session that it is made in;
* `Call.keeps`: whether a call makes a style sheet and keeps it under a key;
* `get?_cache_step`, `get?_cache_run`: what is kept under a key is what the last such call made;
* `shouldRegenerate_of_get?`, `get?_of_get?_sheet`: how an entry of either kind is read;
* **`cached_css_cases`**: a style sheet with its rules is made from the session as it stands, or it is
  the one that was last made under the key.
-/

namespace ThemedCss

theorem Text.contains_iff {part t : Text} : Text.contains part t = true ↔ part <:+: t := by
  induction t with
  | nil =>
    rw [List.infix_nil]
    exact List.isEmpty_iff
  | cons c t ih =>
    rw [Text.contains, Bool.or_eq_true, ih, List.isPrefixOf_iff_prefix, List.infix_cons_iff]

namespace Call

/-- Whether a call makes a style sheet and keeps it under a key. -/
def keeps (s : Session) (k : Scalar) : Call → Bool
  | css includeStyles (some key) => key = k && s.cache.shouldRegenerate key includeStyles
  | _ => false

end Call

namespace Session

/-- The calls of a run, each with the session that it is made in. -/
def timeline (s : Session) : List Call → List (Session × Call)
  | [] => []
  | call :: calls => (s, call) :: timeline (s.step call).1 calls

theorem timeline_concat (s : Session) (calls : List Call) (call : Call) :
    s.timeline (calls ++ [call]) = s.timeline calls ++ [((s.run calls).1, call)] := by
  induction calls generalizing s with
  | nil => rfl
  | cons first calls ih =>
    rw [List.cons_append, timeline, ih, timeline]
    rfl

/-- The last call of a run that made a style sheet and kept it under a key, with the session that it
was made in. -/
def lastKept? (s : Session) (calls : List Call) (k : Scalar) : Option (Session × Call) :=
  (s.timeline calls).reverse.find? fun e => e.2.keeps e.1 k

theorem lastKept?_concat (s : Session) (calls : List Call) (call : Call) (k : Scalar) :
    s.lastKept? (calls ++ [call]) k =
      if call.keeps (s.run calls).1 k then some ((s.run calls).1, call)
      else s.lastKept? calls k := by
  unfold lastKept?
  rw [timeline_concat, List.reverse_append, List.reverse_singleton, List.singleton_append,
    List.find?_cons]
  cases call.keeps (s.run calls).1 k <;> rfl

variable {s : Session} {k : Scalar} {t : Text}

/-- What a style sheet that is kept has behind it. -/
def noteOf (includeStyles : Bool) : Text := if includeStyles then [] else Cache.needsStyles

theorem get?_cache_step {call : Call} (h : (s.step call).1.cache.entries.get? k = some t) :
    (∃ includeStyles, call = .css includeStyles (some k) ∧ call.keeps s k = true ∧
        t = Cache.withMetadata (s.optimize.1.sheet includeStyles) (noteOf includeStyles)) ∨
      call.keeps s k = false ∧ s.cache.entries.get? k = some t := by
  cases call with
  | css includeStyles key =>
    cases key with
    | none => exact .inr ⟨rfl, h⟩
    | some key =>
      change (s.css includeStyles (some key)).1.cache.entries.get? k = some t at h
      cases hk : s.cache.shouldRegenerate key includeStyles with
      | false =>
        rw [css_of_not_regenerates hk] at h
        exact .inr ⟨by rw [Call.keeps, hk, Bool.and_false], h⟩
      | true =>
        rw [css_of_regenerates hk] at h
        rcases Cache.get?_set h with ⟨rfl, rfl⟩ | ⟨hne, h⟩
        · exact .inl ⟨includeStyles, rfl, by rw [Call.keeps, hk, decide_eq_true rfl]; rfl, rfl⟩
        · exact .inr ⟨by rw [Call.keeps, decide_eq_false hne]; rfl, h⟩
  | clearCache => cases h
  | createTheme values name =>
    have hcache := congrArg Session.cache (after_collectWith ⟨true, .scope⟩ values name s)
    exact .inr ⟨rfl, hcache ▸ h⟩
  | createVars values name =>
    have hcache :=
      congrArg Session.cache (after_collectWith ⟨false, s.config.varsThemeKeys⟩ values name s)
    exact .inr ⟨rfl, hcache ▸ h⟩
  | createStyle subject styles =>
    have hcache := congrArg Session.cache (after_createStyle subject styles s)
    exact .inr ⟨rfl, hcache ▸ h⟩
  | generateStyles => exact .inr ⟨rfl, h⟩
  | optimize => exact .inr ⟨rfl, h⟩
  | reset => exact .inr ⟨rfl, h⟩

/-- **What is kept under a key is what the last call made that kept a style sheet under it.** -/
theorem get?_cache_run {config : Config} {calls : List Call}
    (h : ((start config).run calls).1.cache.entries.get? k = some t) :
    ∃ earlier includeStyles,
      (start config).lastKept? calls k = some (earlier, .css includeStyles (some k)) ∧
      earlier.cache.shouldRegenerate k includeStyles = true ∧
      t = Cache.withMetadata (earlier.optimize.1.sheet includeStyles) (noteOf includeStyles) := by
  induction calls using List.reverseRecOn with
  | nil => cases h
  | append_singleton calls call ih =>
    rw [run_concat] at h
    rw [lastKept?_concat]
    rcases get?_cache_step h with ⟨includeStyles, rfl, hkeeps, rfl⟩ | ⟨hkeeps, h⟩
    · rw [if_pos hkeeps]
      exact ⟨_, includeStyles, rfl, (Bool.and_eq_true_iff.mp hkeeps).2, rfl⟩
    · rw [hkeeps, if_neg Bool.false_ne_true]
      exact ih h

theorem shouldRegenerate_of_get? {c : Cache Scalar} {css : Text}
    (h : c.entries.get? k = some (Cache.withMetadata css (noteOf false))) :
    c.shouldRegenerate k true = true := by
  have hne : noteOf false ≠ [] := by decide
  -- the text may hold a comment of its own, but the note is at the end of what is read as metadata
  obtain ⟨a, b, hab, hnote⟩ := Cache.exists_comment?_withMetadata css hne
  have hmetadata : c.metadata? k = some b := by
    rw [Cache.metadata?, h, Option.map_some, hab]
    rfl
  have hfound : Text.contains Cache.needsStyles b = true := Text.contains_iff.mpr hnote.isInfix
  rw [Cache.shouldRegenerate, hmetadata, Option.getD_some, hfound, Bool.and_true, Bool.or_true]

theorem get?_of_get?_sheet {c : Cache Scalar}
    (h : c.entries.get? k = some (Cache.withMetadata (s.sheet true) (noteOf true))) :
    c.get? k = some (s.sheet true) := by
  have hnote : Cache.comment? (s.sheet true) = none := Cache.comment?_eq_none (getLast?_sheet s true)
  rw [Cache.get?, h, Option.map_some]
  change some (((Cache.comment? (s.sheet true)).map Prod.fst).getD _) = _
  rw [hnote]
  rfl

/-- **A style sheet with its rules is made from the session as it stands, or it is the one that was
last made under the key.** In the second case the call leaves the session as it was, and the last
style sheet that was made under the key, with or without rules, was made by a call for one with its
rules and was answered then as it is now. -/
theorem cached_css_cases (config : Config) (calls : List Call) (k : Text) :
    let s := ((start config).run calls).1
    let call : Call := .css true (some (.text k))
    let next := s.css true (some (.text k))
    (s.cache.shouldRegenerate (.text k) true = true ∧ next.2 = s.optimize.1.sheet true) ∨
      next.1 = s ∧ ∃ earlier, (start config).lastKept? calls (.text k) = some (earlier, call) ∧
        (earlier.css true (some (.text k))).2 = earlier.optimize.1.sheet true ∧
        next.2 = earlier.optimize.1.sheet true := by
  intro s call next
  cases hk : s.cache.shouldRegenerate (.text k) true with
  | true => exact .inl ⟨rfl, by simp only [next, css_of_regenerates hk]⟩
  | false =>
    have hnext : next = (s, (s.cache.get? (.text k)).getD []) := css_of_not_regenerates hk
    have hhas : s.cache.has (.text k) = true := by simpa using (Bool.or_eq_false_iff.mp hk).1
    obtain ⟨t, ht⟩ := Option.isSome_iff_exists.mp hhas
    obtain ⟨earlier, includeStyles, hlast, hmade, rfl⟩ := get?_cache_run ht
    cases includeStyles with
    | false =>
      rw [shouldRegenerate_of_get? ht] at hk
      cases hk
    | true =>
      refine .inr ⟨by rw [hnext], earlier, hlast, ?_, ?_⟩
      · rw [css_of_regenerates hmade]
      · rw [hnext, get?_of_get?_sheet ht]
        rfl

end Session

end ThemedCss
