import ThemedCss.Document.JsonText

/-!
# Quoted texts are told apart

No spelling of a code point starts another one, and none starts with the quote. So a quoted text ends
where its closing quote is, whatever stands behind it.

* `escape_append_inj`: a code point and what stands behind its spelling;
* **`quote_append_inj`**: a quoted text and what stands behind it.
-/

namespace ThemedCss.Json

/-- The code points that are not spelled as they are: the quote, the backslash and the controls. -/
def escaped : List Char := '"' :: '\\' :: (List.range 32).map Char.ofNat

variable {c d : Char} {s t r u v : Text}

theorem escape_of_not_mem (h : c ∉ escaped) : escape .unicode c = [c] := by
  obtain ⟨hquote, h⟩ := not_or.mp (mt List.mem_cons.mpr h)
  obtain ⟨hbackslash, hcontrol⟩ := not_or.mp (mt List.mem_cons.mpr h)
  have hge : ¬ c.toNat < 0x20 := fun hlt =>
    hcontrol (List.mem_map.mpr ⟨c.toNat, List.mem_range.mpr hlt, Char.ofNat_toNat c⟩)
  have hne (d : Char) (hd : d.toNat < 0x20) : c ≠ d := by
    rintro rfl
    exact hge hd
  rw [escape, if_neg hquote, if_neg hbackslash, if_neg (hne _ (by decide)), if_neg (hne _ (by decide)),
    if_neg (hne _ (by decide)), if_neg (hne _ (by decide)), if_neg (hne _ (by decide)),
    if_neg (not_or_intro hge (fun h => nomatch h.1))]

theorem head?_escape_of_mem (h : c ∈ escaped) : (escape .unicode c).head? = some '\\' := by
  have hall : escaped.all (fun c => (escape .unicode c).head? = some '\\') = true := by decide +kernel
  exact of_decide_eq_true (List.all_eq_true.mp hall c h)

theorem escape_prefix_inj (hc : c ∈ escaped) (hd : d ∈ escaped)
    (h : escape .unicode c <+: escape .unicode d) : c = d := by
  have hall : escaped.all (fun c => escaped.all fun d =>
      escape .unicode c <+: escape .unicode d → c = d) = true := by decide +kernel
  exact of_decide_eq_true (List.all_eq_true.mp (List.all_eq_true.mp hall c hc) d hd) h

theorem escape_append_ne (h : c ∈ escaped) (hd : d ≠ '\\') : escape .unicode c ++ u ≠ d :: v := by
  intro heq
  have hhead : (escape .unicode c ++ u).head? = some '\\' := by
    rw [List.head?_append, head?_escape_of_mem h]
    rfl
  rw [heq] at hhead
  exact hd (Option.some.inj hhead)

theorem escape_append_ne_quote (c : Char) : escape .unicode c ++ u ≠ '"' :: v := by
  by_cases hc : c ∈ escaped
  · exact escape_append_ne hc (by decide)
  · rw [escape_of_not_mem hc]
    rintro heq
    obtain rfl := (List.cons.inj heq).1
    exact hc List.mem_cons_self

/-- **A code point is told by its spelling**, whatever stands behind it. -/
theorem escape_append_inj (h : escape .unicode c ++ u = escape .unicode d ++ v) : c = d ∧ u = v := by
  have hslash {c : Char} (hc : c ∉ escaped) : c ≠ '\\' := by
    rintro rfl
    exact hc (List.mem_cons_of_mem _ List.mem_cons_self)
  by_cases hc : c ∈ escaped <;> by_cases hd : d ∈ escaped
  · obtain rfl : c = d := by
      have hprefix : escape .unicode d <+: escape .unicode c ++ u := ⟨v, h.symm⟩
      rcases List.prefix_or_prefix_of_prefix (List.prefix_append _ u) hprefix with hcd | hdc
      · exact escape_prefix_inj hc hd hcd
      · exact (escape_prefix_inj hd hc hdc).symm
    exact ⟨rfl, List.append_cancel_left h⟩
  · rw [escape_of_not_mem hd] at h
    exact absurd h (escape_append_ne hc (hslash hd))
  · rw [escape_of_not_mem hc] at h
    exact absurd h.symm (escape_append_ne hd (hslash hc))
  · rw [escape_of_not_mem hc, escape_of_not_mem hd] at h
    exact List.cons.inj h

theorem flatMap_escape_append_inj
    (h : s.flatMap (escape .unicode) ++ '"' :: u = t.flatMap (escape .unicode) ++ '"' :: v) :
    s = t ∧ u = v := by
  induction s generalizing t with
  | nil =>
    cases t with
    | nil => exact ⟨rfl, (List.cons.inj h).2⟩
    | cons d t =>
      rw [List.flatMap_cons, List.append_assoc] at h
      exact absurd h.symm (escape_append_ne_quote d)
  | cons c s ih =>
    rw [List.flatMap_cons, List.append_assoc] at h
    cases t with
    | nil => exact absurd h (escape_append_ne_quote c)
    | cons d t =>
      rw [List.flatMap_cons, List.append_assoc] at h
      obtain ⟨rfl, hrest⟩ := escape_append_inj h
      obtain ⟨rfl, hbehind⟩ := ih hrest
      exact ⟨rfl, hbehind⟩

theorem quote_append (t r : Text) :
    quote .unicode t ++ r = '"' :: (t.flatMap (escape .unicode) ++ '"' :: r) := by
  rw [quote, List.append_assoc]
  rfl

/-- **A quoted text is told from every other one**, whatever either goes on with. -/
theorem quote_append_inj (h : quote .unicode s ++ u = quote .unicode t ++ v) : s = t ∧ u = v := by
  rw [quote_append, quote_append] at h
  exact flatMap_escape_append_inj (List.cons.inj h).2

end ThemedCss.Json
