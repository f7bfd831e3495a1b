import Mathlib.Data.List.Basic
import Mathlib.Data.Nat.Init
import ThemedCss.Document.Json
import ThemedCss.Document.JsonText
import ThemedCss.Proofs.Number.Digits

/-!
# Written mappings are read back

A mapping that is written with each entry on a line of its own is read as this mapping: its keys, in
their order, and what was written for each.

* `ReadsBody`: what is read behind an opening quote;
* `readsBody_escape`: one code point more, by a letter, by a number or by the numbers of two surrogates;
* `Writes`: a text that is read as a value, whatever stands behind it;
* **`writes_quote`**: a quoted text;
* `readsMembers_line`, `readsMembers_linesOf`: an entry with what stands behind it, and all entries;
* `writes_lineOf`, `writes_singleton`: a mapping on one line, and a list of a single one;
* **`writes_indented`**, **`parse_indented`**: a mapping of written values, as a value and as a document.
-/

namespace ThemedCss

variable {t rest : Text}

namespace Json

/-! ## Escapes -/

theorem unit_append (n : Nat) (t : Text) :
    unit n ++ t = '\\' :: 'u' :: (Text.hexDigits 4 n ++ t) := rfl

theorem fourDigits?_hexDigits {n : Nat} (h : n < 0x10000) (ht : t ≠ []) :
    ∃ hlt, fourDigits? (Text.hexDigits 4 n ++ t) = some ⟨n, t, hlt⟩ := by
  obtain ⟨c, t, rfl⟩ := List.exists_cons_of_ne_nil ht
  have hall := Digits.all_isHex_hexDigits 4 n
  have hof := Digits.ofBase_hexDigits 4 n
  rw [Nat.mod_eq_of_lt (show n < 16 ^ 4 from h)] at hof
  simp only [Text.hexDigits, List.nil_append, List.cons_append] at hall hof ⊢
  refine ⟨by simp, ?_⟩
  rw [fourDigits?, if_pos hall]
  simp only [hof]

theorem unicodeEscape_of_lt {c : Char} (h : c.toNat < 0x10000) (ht : t ≠ []) :
    ∃ hlt, unicodeEscape (Text.hexDigits 4 c.toNat ++ t) = .ok ⟨c, t, hlt⟩ := by
  obtain ⟨hlt, hread⟩ := fourDigits?_hexDigits h ht
  -- The numbers of code points leave out those of the surrogates.
  have hno : ¬ (0xd800 ≤ c.toNat ∧ c.toNat < 0xdc00) := by
    rintro ⟨hle, hgt⟩
    obtain hvalid | ⟨hvalid, -⟩ := c.valid
    · exact absurd hle (Nat.not_le.mpr hvalid)
    · exact absurd (Nat.lt_trans hvalid hgt) (by decide)
  refine ⟨hlt, ?_⟩
  simp only [unicodeEscape, hread, if_neg hno, Char.ofNat_toNat]

/-- The escapes of a high and a low surrogate are read together. -/
theorem unicodeEscape_surrogates {m n : Nat} (hm : 0xd800 ≤ m ∧ m < 0xdc00)
    (hn : 0xdc00 ≤ n ∧ n < 0xe000) (ht : t ≠ []) :
    ∃ hlt, unicodeEscape (Text.hexDigits 4 m ++ (unit n ++ t)) =
      .ok ⟨Char.ofNat (0x10000 + (m - 0xd800) * 0x400 + (n - 0xdc00)), t, hlt⟩ := by
  rw [unit_append]
  obtain ⟨hlt, hreadHigh⟩ := fourDigits?_hexDigits (n := m)
    (t := '\\' :: 'u' :: (Text.hexDigits 4 n ++ t)) (by omega) (List.cons_ne_nil _ _)
  obtain ⟨hlt', hreadLow⟩ := fourDigits?_hexDigits (n := n) (by omega) ht
  have hlength : ¬ (Text.hexDigits 4 n ++ t).length < 5 := by
    have := List.length_pos_of_ne_nil ht
    simp [Text.hexDigits]
    omega
  refine ⟨by simp [Text.hexDigits]; omega, ?_⟩
  simp only [unicodeEscape, hreadHigh, if_pos hm, if_neg hlength, hreadLow, if_pos hn]

theorem unicodeEscape_of_le {c : Char} (h : 0x10000 ≤ c.toNat) (ht : t ≠ []) :
    ∃ hlt, unicodeEscape (Text.hexDigits 4 (0xd800 + (c.toNat - 0x10000) / 0x400) ++
      (unit (0xdc00 + (c.toNat - 0x10000) % 0x400) ++ t)) = .ok ⟨c, t, hlt⟩ := by
  have hmax : c.toNat < 0x110000 := by
    obtain hvalid | ⟨-, hvalid⟩ := c.valid
    · exact Nat.lt_trans hvalid (by decide)
    · exact hvalid
  have hread := unicodeEscape_surrogates (m := 0xd800 + (c.toNat - 0x10000) / 0x400)
    (n := 0xdc00 + (c.toNat - 0x10000) % 0x400) (by omega) (by omega) ht
  have hnumber : 0x10000 + (0xd800 + (c.toNat - 0x10000) / 0x400 - 0xd800) * 0x400 +
      (0xdc00 + (c.toNat - 0x10000) % 0x400 - 0xdc00) = c.toNat := by omega
  rwa [hnumber, Char.ofNat_toNat] at hread

/-! ## Quoted texts -/

/-- A text starts with what stands for some code points and the closing quote. -/
def ReadsBody (t v rest : Text) : Prop :=
  ∀ opened, ∃ hlt, textBody opened t = .ok ⟨v, rest, hlt⟩

variable {v : Text}

theorem readsBody_quote : ReadsBody ('"' :: rest) [] rest := fun opened =>
  ⟨Nat.lt_succ_self _, textBody.eq_2 opened rest⟩

theorem ReadsBody.ne_nil (h : ReadsBody t v rest) : t ≠ [] := by
  rintro rfl
  obtain ⟨hlt, -⟩ := h []
  exact absurd hlt (Nat.not_lt_zero _)

theorem readsBody_short {c e : Char} (hc : shortEscape? c = some e) (h : ReadsBody t v rest) :
    ReadsBody ('\\' :: c :: t) (e :: v) rest := by
  intro opened
  obtain ⟨hlt, hread⟩ := h opened
  have hu : c ≠ 'u' := by
    rintro rfl
    cases hc
  refine ⟨by simp only [List.length_cons]; omega, ?_⟩
  rw [textBody]
  · simp only [hc, hread]
    rfl
  · exact hu

theorem readsBody_unicode {c : Char} {s : Text} (hc : ∃ hlt, unicodeEscape s = .ok ⟨c, t, hlt⟩)
    (h : ReadsBody t v rest) : ReadsBody ('\\' :: 'u' :: s) (c :: v) rest := by
  intro opened
  obtain ⟨hlt, hread⟩ := h opened
  obtain ⟨hlt', hescape⟩ := hc
  refine ⟨by simp only [List.length_cons]; omega, ?_⟩
  rw [textBody]
  simp only [hescape, hread]
  rfl

theorem readsBody_self {c : Char} (hquote : c ≠ '"') (hslash : c ≠ '\\') (hcontrol : ¬ c.toNat < 0x20)
    (h : ReadsBody t v rest) : ReadsBody (c :: t) (c :: v) rest := by
  intro opened
  obtain ⟨hlt, hread⟩ := h opened
  refine ⟨Nat.lt_succ_of_lt hlt, ?_⟩
  rw [textBody]
  · simp only [if_neg hcontrol, hread]
    rfl
  all_goals simp_all

/-- **What stands for a code point is read as it**, as far as anything is read behind it. -/
theorem readsBody_escape (c : Char) (h : ReadsBody t v rest) :
    ReadsBody (escape .ascii c ++ t) (c :: v) rest := by
  unfold escape
  split_ifs with hquote hslash hfeed hreturn htab hpage hback hcontrol
  · exact hquote ▸ readsBody_short rfl h
  · exact hslash ▸ readsBody_short rfl h
  · exact hfeed ▸ readsBody_short rfl h
  · exact hreturn ▸ readsBody_short rfl h
  · exact htab ▸ readsBody_short rfl h
  · exact hpage ▸ readsBody_short rfl h
  · exact hback ▸ readsBody_short rfl h
  · unfold numeric
    dsimp only
    split_ifs with hlt
    · rw [unit_append]
      exact readsBody_unicode (unicodeEscape_of_lt hlt h.ne_nil) h
    · rw [List.append_assoc, unit_append]
      exact readsBody_unicode (unicodeEscape_of_le (Nat.not_lt.mp hlt) h.ne_nil) h
  · exact readsBody_self hquote hslash (fun hlt => hcontrol (.inl hlt)) h

theorem readsBody_flatMap (s : Text) :
    ReadsBody (s.flatMap (escape .ascii) ++ '"' :: rest) s rest := by
  induction s with
  | nil => exact readsBody_quote
  | cons c s ih =>
    rw [List.flatMap_cons, List.append_assoc]
    exact readsBody_escape c ih

/-! ## Values -/

/-- A text is read as a value, whatever stands behind it, with some room for lists and mappings. It
starts with no blank. -/
structure Writes (room : Nat) (written : Text) (v : Value) : Prop where
  reads : ∀ rest, ∃ hlt, value room (written ++ rest) = .ok ⟨v, rest, hlt⟩
  skip : ∀ rest, skip (written ++ rest) = written ++ rest

/-- **A quoted text is read as this text.** -/
theorem writes_quote (room : Nat) (s : Text) : Writes room (quote .ascii s) (.text s) := by
  have happend (rest : Text) :
      quote .ascii s ++ rest = '"' :: (s.flatMap (escape .ascii) ++ '"' :: rest) := by
    rw [quote, List.append_assoc]
    rfl
  refine ⟨fun rest => ?_, fun rest => by rw [happend]; rfl⟩
  rw [happend]
  have hbody : ReadsBody (s.flatMap (escape .ascii) ++ '"' :: rest) s rest := readsBody_flatMap s
  obtain ⟨hlt, hread⟩ := hbody ('"' :: (s.flatMap (escape .ascii) ++ '"' :: rest))
  refine ⟨Nat.lt_succ_of_lt hlt, ?_⟩
  rw [value, hread]
  rfl

/-! ## Mappings -/

/-- A key with what is written for its value, and the value. -/
structure Entry where
  key : Text
  written : Text
  value : Value

/-- The entry of a mapping. -/
def Entry.field (e : Entry) : Scalar × Value := (.text e.key, e.value)

/-- The line of an entry, without the blanks in front. -/
def Entry.line (e : Entry) : Text := quote .ascii e.key ++ ": " ++ e.written

variable {room : Nat} {fields : List (Scalar × Value)} {indent : Text}

theorem skip_append_of_blank (h : ∀ c ∈ indent, isBlank c = true) (t : Text) :
    skip (indent ++ t) = skip t :=
  List.dropWhile_append_of_pos h

/-- The entries at the front of a text, up to the closing brace, are read behind some others. -/
def ReadsMembers (room : Nat) (fields : List (Scalar × Value)) (t : Text)
    (all : List (Scalar × Value)) (rest : Text) : Prop :=
  ∃ hlt, members room fields t = .ok ⟨all, rest, hlt⟩

theorem reads_line {e : Entry} {behind : Text} (h : Writes room e.written e.value) :
    ∃ body, e.line ++ behind = '"' :: body ∧ ∃ after, ReadsBody body e.key (':' :: after) ∧
      ∃ hlt, value room (skip after) = .ok ⟨e.value, behind, hlt⟩ := by
  refine ⟨e.key.flatMap (escape .ascii) ++ '"' :: ':' :: ' ' :: (e.written ++ behind),
    by simp [Entry.line, quote], ' ' :: (e.written ++ behind), readsBody_flatMap e.key, ?_⟩
  have hskip : skip (' ' :: (e.written ++ behind)) = e.written ++ behind := h.skip behind
  rw [hskip]
  exact h.reads behind

theorem ReadsMembers.skip_ne {t after : Text} {all : List (Scalar × Value)}
    (h : ReadsMembers room fields t all rest) : t ≠ '\x7d' :: after := by
  rintro rfl
  obtain ⟨hlt, hread⟩ := h
  rw [members] at hread
  · cases hread
  · intro body hbody
    cases hbody

theorem readsMembers_line {e : Entry} {behind : Text} {all : List (Scalar × Value)}
    (h : Writes room e.written e.value)
    (hbehind : (skip behind = '\x7d' :: rest ∧ Value.put (.text e.key) e.value fields = all) ∨
      ∃ more, skip behind = ',' :: more ∧
        ReadsMembers room (Value.put (.text e.key) e.value fields) (skip more) all rest) :
    ReadsMembers room fields (e.line ++ behind) all rest := by
  obtain ⟨body, hline, after, hbody, hlt, hvalue⟩ := reads_line h
  obtain ⟨hkey, hbody⟩ := hbody ('"' :: body)
  have hafter := skip_length_le after
  have hshort : rest.length < behind.length := by
    obtain ⟨hclose, -⟩ | ⟨more, hcomma, hmore, -⟩ := hbehind
    · exact length_lt_of_skip_eq hclose
    · exact Nat.lt_trans hmore (skip_length_lt_of_skip_eq hcomma)
  rw [hline]
  refine ⟨?_, ?_⟩
  · simp only [List.length_cons] at hkey ⊢
    omega
  rw [members, hbody]
  dsimp only
  split
  case h_2 hno => exact absurd rfl (hno after)
  case h_1 heq =>
    cases heq
    rw [hvalue]
    dsimp only
    obtain ⟨hclose, hall⟩ | ⟨more, hcomma, hlt, hmore⟩ := hbehind <;> split <;> rename_i heq
    · cases heq.symm.trans hclose
      rw [hall]
    · cases heq.symm.trans hclose
    · rename_i hno
      exact absurd hclose (hno rest)
    · cases heq.symm.trans hcomma
    · cases heq.symm.trans hcomma
      rw [hmore]
      rfl
    · exact absurd hcomma (heq more)

/-! ## Lines -/

/-- Entries written one after the other. -/
def putAll (fields : List (Scalar × Value)) (es : List Entry) : List (Scalar × Value) :=
  es.foldl (fun fields e => Value.put (.text e.key) e.value fields) fields

/-- The lines of some entries. -/
def linesOf (indent : Text) (es : List Entry) : Text :=
  List.intercalate ",\n" (es.map fun e => entryLine indent e.key e.written)

theorem skip_entryLine (hindent : ∀ c ∈ indent, isBlank c = true) (e : Entry) (t : Text) :
    skip (entryLine indent e.key e.written ++ t) = e.line ++ t := by
  have hline : entryLine indent e.key e.written ++ t = indent ++ (' ' :: ' ' :: (e.line ++ t)) := by
    simp [entryLine, Entry.line]
  rw [hline, skip_append_of_blank hindent]
  rfl

theorem readsMembers_linesOf {es : List Entry} (hindent : ∀ c ∈ indent, isBlank c = true)
    (hne : es ≠ []) (h : ∀ e ∈ es, Writes room e.written e.value) :
    ReadsMembers room fields (skip (linesOf indent es ++ '\n' :: (indent ++ '\x7d' :: rest)))
      (putAll fields es) rest := by
  induction es generalizing fields with
  | nil => exact absurd rfl hne
  | cons e es ih =>
    obtain ⟨he, hes⟩ := List.forall_mem_cons.mp h
    cases es with
    | nil =>
      rw [linesOf, List.map_singleton, List.intercalate_singleton, skip_entryLine hindent]
      exact readsMembers_line he (.inl ⟨skip_append_of_blank hindent _, rfl⟩)
    | cons e' es =>
      have hlines : linesOf indent (e :: e' :: es) = entryLine indent e.key e.written ++
          (',' :: '\n' :: linesOf indent (e' :: es)) := by
        simp [linesOf, List.intercalate_cons_cons]
      rw [hlines, List.append_assoc, skip_entryLine hindent]
      refine readsMembers_line he (.inr ⟨_, rfl, ?_⟩)
      exact ih (List.cons_ne_nil e' es) hes

theorem putAll_of_nodup {es : List Entry} (hnodup : (es.map Entry.key).Nodup)
    (h : ∀ e ∈ es, ∀ f ∈ fields, f.1 ≠ .text e.key) :
    putAll fields es = fields ++ es.map Entry.field := by
  induction es generalizing fields with
  | nil => rw [List.map_nil, List.append_nil]; rfl
  | cons e es ih =>
    obtain ⟨he, hes⟩ := List.forall_mem_cons.mp h
    obtain ⟨hfresh, hnodup⟩ := List.nodup_cons.mp hnodup
    rw [putAll, List.foldl_cons, Value.put_of_not_mem _ he]
    have hnext : ∀ e' ∈ es, ∀ f ∈ fields ++ [(.text e.key, e.value)], f.1 ≠ .text e'.key := by
      intro e' he' f hf
      obtain hf | hf := List.mem_append.mp hf
      · exact hes e' he' f hf
      · obtain rfl := List.mem_singleton.mp hf
        intro heq
        obtain heq := Scalar.text.inj heq
        exact hfresh (List.mem_map.mpr ⟨e', he', heq.symm⟩)
    rw [← putAll, ih hnodup hnext, List.append_assoc]
    rfl

theorem indented_append {es : List Entry} (hne : es ≠ []) :
    indented indent (es.map fun e => (e.key, e.written)) ++ rest =
      '\x7b' :: '\n' :: (linesOf indent es ++ '\n' :: (indent ++ '\x7d' :: rest)) := by
  have hne' : (es.map fun e => (e.key, e.written)).isEmpty = false := by
    rw [List.isEmpty_eq_false_iff]
    exact mt List.map_eq_nil_iff.mp hne
  simp [indented, hne', linesOf, List.map_map, Function.comp_def]

theorem reads_brace {t : Text} {all : List (Scalar × Value)}
    (hopen : ∀ after, skip t ≠ '\x7d' :: after) (h : ReadsMembers room [] (skip t) all rest) :
    ∃ hlt, value (room + 1) ('\x7b' :: t) = .ok ⟨.map all, rest, hlt⟩ := by
  obtain ⟨hlt, hread⟩ := h
  refine ⟨Nat.lt_succ_of_lt (Nat.lt_of_lt_of_le hlt (skip_length_le t)), ?_⟩
  rw [value, if_neg (Nat.succ_ne_zero room)]
  split
  · rename_i after heq
    exact absurd heq (hopen after)
  · rw [Nat.add_sub_cancel, hread]
    rfl

theorem reads_braces :
    ∃ hlt, value (room + 1) ('\x7b' :: '\x7d' :: rest) = .ok ⟨.map [], rest, hlt⟩ := by
  refine ⟨Nat.lt_succ_of_lt (Nat.lt_succ_self _), ?_⟩
  rw [value, if_neg (Nat.succ_ne_zero room)]
  split
  · rename_i after heq
    cases heq
    rfl
  · rename_i hno
    exact absurd rfl (hno rest)

/-- **A mapping of written values is read as the mapping of the values.** -/
theorem writes_indented {es : List Entry} (hindent : ∀ c ∈ indent, isBlank c = true)
    (hnodup : (es.map Entry.key).Nodup) (h : ∀ e ∈ es, Writes room e.written e.value) :
    Writes (room + 1) (indented indent (es.map fun e => (e.key, e.written)))
      (.map (es.map Entry.field)) := by
  cases es with
  | nil => exact ⟨fun rest => reads_braces, fun rest => rfl⟩
  | cons e es =>
    have hne : e :: es ≠ [] := List.cons_ne_nil e es
    refine ⟨fun rest => ?_, fun rest => by rw [indented_append hne]; rfl⟩
    have hread : ReadsMembers room [] (skip (linesOf indent (e :: es) ++
        '\n' :: (indent ++ '\x7d' :: rest))) (putAll [] (e :: es)) rest :=
      readsMembers_linesOf hindent hne h
    have hall : putAll [] (e :: es) = (e :: es).map Entry.field :=
      putAll_of_nodup hnodup fun _ _ _ hf => nomatch hf
    rw [hall] at hread
    rw [indented_append hne]
    exact reads_brace (fun after => hread.skip_ne) hread

/-! ## On one line -/

/-- Some entries on one line. -/
def lineOf (es : List Entry) : Text := List.intercalate ", " (es.map Entry.line)

theorem lineOf_cons_cons (e e' : Entry) (es : List Entry) :
    lineOf (e :: e' :: es) = e.line ++ (',' :: ' ' :: lineOf (e' :: es)) := by
  simp [lineOf, List.intercalate_cons_cons]

theorem skip_lineOf {es : List Entry} (hne : es ≠ []) (t : Text) :
    skip (lineOf es ++ t) = lineOf es ++ t := by
  obtain ⟨e, es, rfl⟩ := List.exists_cons_of_ne_nil hne
  have hquote : ∃ body, lineOf (e :: es) = '"' :: body := by
    cases es with
    | nil => exact ⟨_, by rw [lineOf, List.map_singleton, List.intercalate_singleton]; rfl⟩
    | cons e' es => exact ⟨_, by rw [lineOf_cons_cons]; rfl⟩
  obtain ⟨body, hbody⟩ := hquote
  rw [hbody]
  rfl

theorem readsMembers_lineOf {es : List Entry} (hne : es ≠ [])
    (h : ∀ e ∈ es, Writes room e.written e.value) :
    ReadsMembers room fields (lineOf es ++ '\x7d' :: rest) (putAll fields es) rest := by
  induction es generalizing fields with
  | nil => exact absurd rfl hne
  | cons e es ih =>
    obtain ⟨he, hes⟩ := List.forall_mem_cons.mp h
    cases es with
    | nil =>
      rw [lineOf, List.map_singleton, List.intercalate_singleton]
      exact readsMembers_line he (.inl ⟨rfl, rfl⟩)
    | cons e' es =>
      have hnext : skip (' ' :: (lineOf (e' :: es) ++ '\x7d' :: rest)) =
          lineOf (e' :: es) ++ '\x7d' :: rest := skip_lineOf (List.cons_ne_nil e' es) _
      rw [lineOf_cons_cons, List.append_assoc]
      refine readsMembers_line he (.inr ⟨_, rfl, ?_⟩)
      exact hnext ▸ ih (List.cons_ne_nil e' es) hes

theorem writes_lineOf {es : List Entry} (hne : es ≠ []) (hnodup : (es.map Entry.key).Nodup)
    (h : ∀ e ∈ es, Writes room e.written e.value) :
    Writes (room + 1) ("\x7b" ++ lineOf es ++ "\x7d") (.map (es.map Entry.field)) := by
  have happend (rest : Text) : ("\x7b" ++ lineOf es ++ "\x7d" : Text) ++ rest =
      '\x7b' :: (lineOf es ++ '\x7d' :: rest) := by
    simp
  have hall : putAll [] es = es.map Entry.field := putAll_of_nodup hnodup fun _ _ _ hf => nomatch hf
  refine ⟨fun rest => ?_, fun rest => by rw [happend]; rfl⟩
  have hread : ReadsMembers room [] (skip (lineOf es ++ '\x7d' :: rest)) (putAll [] es) rest := by
    rw [skip_lineOf hne]
    exact readsMembers_lineOf hne h
  rw [hall] at hread
  rw [happend]
  exact reads_brace (fun after => hread.skip_ne) hread

theorem writes_one {written : Text} {v : Value} (key : Text) (h : Writes room written v) :
    Writes (room + 1) ("\x7b" ++ lineOf [⟨key, written, v⟩] ++ "\x7d") (.map [(.text key, v)]) :=
  writes_lineOf (List.cons_ne_nil _ _) (List.pairwise_singleton _ key)
    fun _ he => List.mem_singleton.mp he ▸ h

theorem writes_two {w w' : Text} {v v' : Value} {key key' : Text} (hkeys : key ≠ key')
    (h : Writes room w v) (h' : Writes room w' v') :
    Writes (room + 1) ("\x7b" ++ lineOf [⟨key, w, v⟩, ⟨key', w', v'⟩] ++ "\x7d")
      (.map [(.text key, v), (.text key', v')]) := by
  refine writes_lineOf (List.cons_ne_nil _ _) (List.pairwise_pair.mpr hkeys) fun e he => ?_
  obtain rfl | rfl := List.mem_pair.mp he
  · exact h
  · exact h'

theorem writes_singleton {w : Text} {v : Value} (h : Writes room w v)
    (hbrace : w.head? = some '\x7b') : Writes (room + 1) ("[" ++ w ++ "]") (.list [v]) := by
  have happend (rest : Text) : ("[" ++ w ++ "]" : Text) ++ rest = '[' :: (w ++ ']' :: rest) := by
    simp
  refine ⟨fun rest => ?_, fun rest => by rw [happend]; rfl⟩
  obtain ⟨hlt, hread⟩ := h.reads (']' :: rest)
  have hitems : ∃ hlt, items room (skip (w ++ ']' :: rest)) = .ok ⟨[v], rest, hlt⟩ := by
    rw [h.skip]
    refine ⟨Nat.lt_trans (Nat.lt_succ_self _) hlt, ?_⟩
    rw [items, hread]
    dsimp only
    split
    · rename_i heq
      cases heq
      rfl
    · rename_i heq
      cases heq
    · rename_i hno _
      exact absurd rfl (hno rest)
  obtain ⟨hlt, hitems⟩ := hitems
  rw [happend]
  refine ⟨Nat.lt_succ_of_lt (Nat.lt_of_lt_of_le hlt (skip_length_le _)), ?_⟩
  rw [value, if_neg (Nat.succ_ne_zero room)]
  split
  · rename_i after heq
    rw [h.skip] at heq
    obtain ⟨t, rfl⟩ : ∃ t, w = '\x7b' :: t := List.head?_eq_some_iff.mp hbrace
    cases heq
  · rw [Nat.add_sub_cancel, hitems]
    rfl

/-! ## Documents -/

/-- What is written of a value is a document, with blanks behind it and no byte order mark. -/
theorem parse_of_writes {w : Text} {v : Value} (h : Writes maxDepth w v) (blanks : Text)
    (hblanks : skip blanks = []) (hmark : ∀ t, w ++ blanks ≠ '\ufeff' :: t) :
    parse (w ++ blanks) = .ok v := by
  have hread : ∃ hlt, value maxDepth (skip (w ++ blanks)) = .ok ⟨v, blanks, hlt⟩ := by
    rw [h.skip blanks]
    exact h.reads blanks
  obtain ⟨hlt, hread⟩ := hread
  rw [parse]
  · rw [hread]
    dsimp only
    rw [hblanks]
  · exact hmark

/-- **A written mapping of values is a document**, when these leave room for it. -/
theorem parse_indented {es : List Entry} (hnodup : (es.map Entry.key).Nodup)
    (h : ∀ e ∈ es, Writes (maxDepth - 1) e.written e.value) :
    parse (indented "" (es.map fun e => (e.key, e.written)) ++ "\n") =
      .ok (.map (es.map Entry.field)) := by
  have hwrites : Writes maxDepth (indented "" (es.map fun e => (e.key, e.written)))
      (.map (es.map Entry.field)) := writes_indented (fun _ hc => nomatch hc) hnodup h
  refine parse_of_writes hwrites "\n" rfl fun t => ?_
  unfold indented
  split <;> exact fun heq => absurd (List.cons.inj heq).1 (by decide)

end Json

end ThemedCss
