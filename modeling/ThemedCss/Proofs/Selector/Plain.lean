import ThemedCss.Proofs.Css.Reading
import ThemedCss.Proofs.Style.Layout

/-!
# Headers without braces

Selectors, headers and property names hold no brace, semicolon or line feed when the texts that they
are made from hold none.

* `Selector.mem_of_mem_pieces`: the parts of a selector list hold nothing new;
* `Plain.nest`, `Plain.combined`: selectors of keys and markers below a parent;
* `Text.mem_of_mem_kebab`: names in kebab case hold hyphens and small letters beside their own;
* `Plain.kebab`, `Plain.header`: property names and at-rules.
-/

namespace ThemedCss

open Css

theorem Selector.mem_of_mem_pieces {c : Char} {p s : Text} {depth : Nat} (hp : p ∈ pieces depth s)
    (hc : c ∈ p) : c ∈ s := by
  induction s generalizing depth p with
  | nil =>
    rw [List.mem_singleton.mp hp] at hc
    cases hc
  | cons d s ih =>
    rw [pieces] at hp
    split at hp
    · rcases List.mem_cons.mp hp with rfl | hp
      · cases hc
      · exact List.mem_cons_of_mem d (ih hp hc)
    · cases hps : pieces (depthAfter depth d) s with
      | nil =>
        rw [hps] at hp
        rw [List.mem_singleton.mp hp] at hc
        exact List.mem_cons.mpr (.inl (List.mem_singleton.mp hc))
      | cons m ms =>
        rw [hps] at hp
        rcases List.mem_cons.mp hp with rfl | hp
        · rcases List.mem_cons.mp hc with rfl | hc
          · exact List.mem_cons_self
          · exact List.mem_cons_of_mem d (ih (hps ▸ List.mem_cons_self) hc)
        · exact List.mem_cons_of_mem d (ih (hps ▸ List.mem_cons_of_mem m hp) hc)

namespace Text

theorem exists_smallLetter_eq {c : Char} (hc : isCapital c = true) :
    ∃ n < 26, smallLetter c = Char.ofNat (65 + n + 32) := by
  rw [smallLetter, if_pos hc]
  rw [isCapital, Bool.and_eq_true, decide_eq_true_eq, decide_eq_true_eq, Char.le_def,
    Char.le_def, UInt32.le_iff_toNat_le, UInt32.le_iff_toNat_le] at hc
  obtain ⟨n, hn⟩ := Nat.exists_eq_add_of_le (show 65 ≤ c.toNat from hc.1)
  have hle : c.toNat ≤ 90 := hc.2
  exact ⟨n, by omega, by rw [hn]⟩

theorem mem_of_mem_hyphenate {c : Char} {key : Text} (h : c ∈ hyphenate key) :
    c = '-' ∨ c ∈ key ∨ ∃ n < 26, c = Char.ofNat (65 + n + 32) := by
  obtain ⟨d, hd, hc⟩ := List.mem_flatMap.mp h
  split at hc
  · rename_i hcapital
    rcases List.mem_cons.mp hc with rfl | hc
    · exact .inl rfl
    · rw [List.mem_singleton.mp hc]
      exact .inr (.inr (exists_smallLetter_eq hcapital))
  · rw [List.mem_singleton.mp hc]
    exact .inr (.inl hd)

/-- A name in kebab case holds nothing new but hyphens and small letters. -/
theorem mem_of_mem_kebab {c : Char} {key : Text} (h : c ∈ kebab key) :
    c = '-' ∨ c ∈ key ∨ ∃ n < 26, c = Char.ofNat (65 + n + 32) := by
  rw [kebab] at h
  split at h
  · exact .inr (.inl h)
  split at h
  · rcases List.mem_cons.mp h with rfl | h
    · exact .inl rfl
    · exact mem_of_mem_hyphenate h
  · exact mem_of_mem_hyphenate h

end Text

namespace Css.Plain

variable {key parent : Text} {ts : List Text}

theorem of_mem_split (h : Plain parent) {p : Text} (hp : p ∈ Selector.split parent) : Plain p := by
  intro c hc
  obtain ⟨m, hm, rfl⟩ := List.mem_map.mp (List.mem_filter.mp hp).1
  exact h c (Selector.mem_of_mem_pieces hm (Text.mem_of_mem_strip hc))

theorem join (hk : Plain key) (hp : Plain parent) : Plain (Selector.join key parent) := by
  have hspace : Plain [' '] := by decide
  unfold Selector.join
  split
  · exact hp.append fun c hc => hk c (List.mem_cons_of_mem _ hc)
  · split
    · exact hp.append hk
    · exact hp.append (hspace.append hk)
  · split
    · exact .nil
    · exact hp.append hspace

theorem create (hk : Plain key) (hp : Plain parent) : Plain (Selector.create key parent) := by
  rw [Selector.create]
  split
  · exact hk
  split
  · exact hk.join hp
  split
  · exact hk
  · exact hk.join hp

theorem intercalate (h : ∀ t ∈ ts, Plain t) : Plain (List.intercalate ", " ts) := by
  have hcomma : Plain ", " := by decide
  intro c hc
  rcases Text.mem_of_mem_intercalate hc with hc | ⟨t, ht, hc⟩
  · exact hcomma c hc
  · exact h t ht c hc

theorem nest (hk : Plain key) (hp : Plain parent) : Plain (Selector.nest key parent) := by
  rw [Selector.nest]
  split
  · refine intercalate fun t ht => ?_
    obtain ⟨part, hpart, rfl⟩ := List.mem_map.mp ht
    exact hk.create (hp.of_mem_split hpart)
  · exact hk.create hp

theorem combined (hts : ∀ t ∈ ts, Plain t) (hp : Plain parent) :
    ∀ t ∈ Selector.combined ts parent, Plain t := by
  intro t ht
  obtain ⟨part, hpart, ht⟩ := List.mem_flatMap.mp ht
  obtain ⟨key, hkey, rfl⟩ := List.mem_map.mp ht
  refine (hts key hkey).join ?_
  split at hpart
  · rw [List.mem_singleton.mp hpart]
    exact .nil
  · exact hp.of_mem_split hpart

theorem kebab (h : Plain key) : Plain (Text.kebab key) := by
  have hhyphen : Plain ['-'] := by decide
  have hsmall : ∀ n < 26, Plain [Char.ofNat (65 + n + 32)] := by decide
  intro c hc
  rcases Text.mem_of_mem_kebab hc with rfl | hc | ⟨n, hn, rfl⟩
  · exact hhyphen _ List.mem_cons_self
  · exact h c hc
  · exact hsmall n hn _ List.mem_cons_self

theorem header {themeKeys : ThemeKeys} {header : Text} (hk : Plain key)
    (h : AtRule.header? themeKeys key = some header) : Plain header := by
  rw [AtRule.header?] at h
  split at h
  · cases h
    exact hk
  split at h
  · cases h
    have hquery : Plain "@media (prefers-color-scheme: " := by decide
    have hend : Plain ")" := by decide
    exact (hquery.append hk).append hend
  · cases h

end Css.Plain

end ThemedCss
