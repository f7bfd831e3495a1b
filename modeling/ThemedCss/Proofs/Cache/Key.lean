import ThemedCss.Cache.Key
import ThemedCss.Proofs.Document.JsonNumber
import ThemedCss.Proofs.Document.JsonText

/-!
# Cache keys are told apart

Each part of a key can be told from every other one by its text, whatever stands behind it. So the key
of plain data gives the data back: two pages have one key when they are described by the same ordered
tree.

* `Material.isPlain`: words, numbers, texts, lists, mappings, and markers with texts as selectors;
* `Material.Told`: what is told from others of its kind by its text;
* `Material.commas_append_inj`: items between commas;
* `Material.told_key`: plain data, by one lemma for each kind;
* **`Material.key_inj`**: equal keys are the keys of equal data.
-/

namespace ThemedCss

open Json (EndsWord)

/-- Whether a scalar is written as a word or as a number with digits. -/
def Scalar.isWord : Scalar → Bool
  | null => true
  | bool _ => true
  | int _ => true
  | float x => x.isNormal
  | _ => false

namespace Material

/-! ## Plain data -/

/-- Whether data are a text. -/
def isText : Material → Bool
  | scalar s => s.isText
  | _ => false

/-- The keys of a marker that is written as a mapping. -/
def markerKeys : List Text := [Style.selectorsKey, Style.stylesKey]

mutual

/-- Whether data are made of words, numbers, texts, lists, mappings and markers, where all selectors
are texts and no mapping has the keys of a marker. -/
def isPlain : Material → Bool
  | scalar s => s.isWord || s.isText
  | list items => arePlain items
  | map entries => decide (entries.map Prod.fst ≠ markerKeys) && holdPlain entries
  | marker selectors styles => selectors.all isText && styles.isPlain
  | _ => false

/-- Whether the items of a list are plain. -/
def arePlain : List Material → Bool
  | [] => true
  | m :: items => m.isPlain && arePlain items

/-- Whether the values of a mapping are plain. -/
def holdPlain : List (Text × Material) → Bool
  | [] => true
  | (_, m) :: entries => m.isPlain && holdPlain entries

end

variable {a b m : Material} {items : List Material} {entries : List (Text × Material)} {s : Scalar}
variable {r r' : Text}

theorem arePlain_iff : arePlain items = true ↔ ∀ m ∈ items, m.isPlain = true := by
  induction items with
  | nil => exact iff_of_true rfl (fun _ h => nomatch h)
  | cons m items ih => rw [arePlain, Bool.and_eq_true, ih, List.forall_mem_cons]

theorem holdPlain_iff : holdPlain entries = true ↔ ∀ e ∈ entries, e.2.isPlain = true := by
  induction entries with
  | nil => exact iff_of_true rfl (fun _ h => nomatch h)
  | cons e entries ih => rw [holdPlain, Bool.and_eq_true, ih, List.forall_mem_cons]

theorem isPlain_of_isText (h : m.isText = true) : m.isPlain = true := by
  match m with
  | scalar s => exact Bool.or_eq_true_iff.mpr (.inr h)

/-! ## The parts of a key -/

theorem keys_eq_map : keys items = items.map key := by
  induction items with
  | nil => rfl
  | cons m items ih => rw [keys, ih, List.map_cons]

theorem entryKeys_eq_map : entryKeys entries = entries.map fun e => entryKey e.1 e.2.key := by
  induction entries with
  | nil => rfl
  | cons e entries ih => rw [entryKeys, ih, List.map_cons]

/-- The entries that a mapping or a marker is written with. -/
def entries? : Material → Option (List (Text × Material))
  | map entries => some entries
  | marker selectors styles => some [(Style.selectorsKey, list selectors), (Style.stylesKey, styles)]
  | _ => none

theorem key_append_of_entries? (h : m.entries? = some entries) :
    m.key ++ r = '\x7b' :: (commas (entries.map fun e => entryKey e.1 e.2.key) ++ '\x7d' :: r) := by
  match m with
  | map entries =>
    obtain rfl := Option.some.inj h
    rw [key, entryKeys_eq_map]
    exact congrArg _ (List.append_assoc _ _ _)
  | marker selectors styles =>
    obtain rfl := Option.some.inj h
    rw [key]
    exact congrArg _ (List.append_assoc _ _ _)

theorem isPlain_of_entries? (hm : m.isPlain = true) (h : m.entries? = some entries) :
    ∀ e ∈ entries, e.2.isPlain = true := by
  match m with
  | map entries =>
    obtain rfl := Option.some.inj h
    exact holdPlain_iff.mp (Bool.and_eq_true_iff.mp hm).2
  | marker selectors styles =>
    obtain rfl := Option.some.inj h
    obtain ⟨hselectors, hstyles⟩ := Bool.and_eq_true_iff.mp hm
    have hlist : (list selectors).isPlain = true :=
      arePlain_iff.mpr fun m hm => isPlain_of_isText (List.all_eq_true.mp hselectors m hm)
    exact List.forall_mem_cons.mpr ⟨hlist, List.forall_mem_singleton.mpr hstyles⟩

theorem eq_of_entries? (ha : a.isPlain = true) (hb : b.isPlain = true)
    (h : a.entries? = some entries) (h' : b.entries? = some entries) : a = b := by
  have hkeys {entries : List (Text × Material)} (h : (map entries).isPlain = true) :
      entries.map Prod.fst ≠ markerKeys := of_decide_eq_true (Bool.and_eq_true_iff.mp h).1
  match a, b with
  | map _, map _ => rw [Option.some.inj (h.trans h'.symm)]
  | map _, marker _ _ =>
    obtain rfl := Option.some.inj (h.trans h'.symm)
    exact absurd rfl (hkeys ha)
  | marker _ _, map _ =>
    obtain rfl := Option.some.inj (h.trans h'.symm)
    exact absurd rfl (hkeys hb)
  | marker _ _, marker _ _ =>
    obtain ⟨hselectors, hrest⟩ := List.cons.inj (Option.some.inj (h.trans h'.symm))
    obtain ⟨hstyles, -⟩ := List.cons.inj hrest
    obtain rfl := list.inj (Prod.mk.inj hselectors).2
    obtain rfl := (Prod.mk.inj hstyles).2
    rfl

theorem scalar?_scalarKey (hs : s.isWord = true) (hr : EndsWord r) :
    Json.scalar? (scalarKey s ++ r) = some (s, r) := by
  match s with
  | .null => exact Json.scalar?_null r
  | .bool b => exact Json.scalar?_bool b r
  | .int n => exact Json.scalar?_ofInt hr n
  | .float x => exact Json.scalar?_write hr hs

/-! ## What opens a key -/

/-- The mark that opens the key of data other than a word or a number. -/
def opening? : Material → Option Char
  | scalar s => if s.isText then some '"' else none
  | list _ => some '['
  | map _ => some '\x7b'
  | marker _ _ => some '\x7b'
  | _ => none

/-- Whether a code point opens a text, a list or a mapping. -/
def opens (c : Char) : Bool := c = '"' || c = '[' || c = '\x7b'

theorem isWord_or_text (h : (scalar s).isPlain = true) : s.isWord = true ∨ ∃ t, s = .text t := by
  refine (Bool.or_eq_true_iff.mp h).imp_right fun htext => ?_
  match s with
  | .text t => exact ⟨t, rfl⟩

theorem isText_of_isWord (h : s.isWord = true) : s.isText = false := by
  cases s with
  | text t => cases h
  | _ => rfl

theorem exists_cons_scalarKey (hs : s.isWord = true) (hr : EndsWord r) :
    ∃ c t, scalarKey s ++ r = c :: t ∧ opens c = false ∧ ¬ EndsWord (c :: t) := by
  obtain ⟨c, t, hkey, hc⟩ := Json.exists_cons_of_scalar? (scalar?_scalarKey hs hr)
  simp only [List.mem_cons, not_or] at hc
  refine ⟨c, t, hkey, ?_, fun hends => ?_⟩
  · simp only [opens, hc, decide_false, Bool.or_self]
  · obtain rfl | rfl | rfl := hends c rfl
    · exact hc.2.2.2.1 rfl
    · exact hc.2.2.2.2.1 rfl
    · exact hc.2.2.2.2.2.1 rfl

theorem opening?_eq (hm : m.isPlain = true) (hr : EndsWord r) :
    m.opening? = (m.key ++ r).head?.filter opens := by
  match m with
  | scalar s =>
    obtain hword | ⟨t, rfl⟩ := isWord_or_text hm
    · obtain ⟨c, t, hkey, hopens, -⟩ := exists_cons_scalarKey hword hr
      rw [opening?, isText_of_isWord hword, key, hkey, List.head?_cons, Option.filter_some, hopens]
      rfl
    · rfl
  | list items => rfl
  | map entries => rfl
  | marker selectors styles => rfl

theorem not_endsWord_key (hm : m.isPlain = true) : ¬ EndsWord m.key := by
  have hmark {c : Char} {t : Text} (hc : c ≠ ',' ∧ c ≠ ']' ∧ c ≠ '\x7d') : ¬ EndsWord (c :: t) :=
    fun hends => hends.head?_ne hc rfl
  match m with
  | scalar s =>
    obtain hword | ⟨t, rfl⟩ := isWord_or_text hm
    · obtain ⟨c, t, hkey, -, hends⟩ := exists_cons_scalarKey hword EndsWord.nil
      rw [List.append_nil] at hkey
      rwa [key, hkey]
    · exact hmark (by decide)
  | list items => exact hmark (by decide)
  | map entries => exact hmark (by decide)
  | marker selectors styles => exact hmark (by decide)

/-! ## Items between commas -/

/-- Whether something is told from all others of its kind by what is written of it, when a list or a
mapping goes on behind it. -/
def Told {α : Type} (write : α → Text) (p : α → Bool) (x : α) : Prop :=
  ∀ y r r', p y = true → EndsWord r → EndsWord r' → write x ++ r = write y ++ r' → x = y ∧ r = r'

section Commas

variable {α : Type} {write : α → Text} {p : α → Bool} {close : Char} {t : Text} {ts : List Text}

/-- What stands behind the first of some items, up to the closing bracket and beyond it. -/
def behind (close : Char) (r : Text) : List Text → Text
  | [] => close :: r
  | t :: ts => ',' :: (commas (t :: ts) ++ close :: r)

theorem commas_cons_append : commas (t :: ts) ++ close :: r = t ++ behind close r ts := by
  cases ts with
  | nil => exact congrArg (· ++ _) (List.append_nil t)
  | cons u ts =>
    rw [commas, List.intercalate_cons_cons, List.append_assoc, List.append_assoc]
    rfl

theorem endsWord_close (hclose : close = ']' ∨ close = '\x7d') (r : Text) : EndsWord (close :: r) := by
  intro c hc
  obtain rfl := Option.some.inj hc
  exact .inr hclose

theorem endsWord_behind (hclose : close = ']' ∨ close = '\x7d') : EndsWord (behind close r ts) := by
  intro c hc
  match ts with
  | [] => exact endsWord_close hclose r c hc
  | t :: ts => exact .inl (Option.some.inj hc).symm

theorem not_endsWord_append (h : ¬ EndsWord t) : ¬ EndsWord (t ++ r) := by
  match t with
  | [] => exact absurd (fun c hc => nomatch hc) h
  | c :: t => exact h

/-- **Items between commas are told apart** when each of them is, and none starts like what can stand
behind an item. -/
theorem commas_append_inj (hclose : close = ']' ∨ close = '\x7d')
    (hopen : ∀ x, p x = true → ¬ EndsWord (write x)) {xs ys : List α}
    (hxs : ∀ x ∈ xs, p x = true ∧ Told write p x) (hys : ∀ y ∈ ys, p y = true)
    (h : commas (xs.map write) ++ close :: r = commas (ys.map write) ++ close :: r') :
    xs = ys ∧ r = r' := by
  have hcomma : ',' ≠ close := by
    rintro rfl
    exact absurd hclose (by decide)
  induction xs generalizing ys with
  | nil =>
    cases ys with
    | nil => exact ⟨rfl, (List.cons.inj h).2⟩
    | cons y ys =>
      have hends := endsWord_close hclose r
      change close :: r = _ at h
      rw [List.map_cons, commas_cons_append] at h
      rw [h] at hends
      exact absurd hends (not_endsWord_append (hopen y (hys y List.mem_cons_self)))
  | cons x xs ih =>
    obtain ⟨⟨hx, htold⟩, htail⟩ := List.forall_mem_cons.mp hxs
    rw [List.map_cons, commas_cons_append] at h
    cases ys with
    | nil =>
      have hends := endsWord_close hclose r'
      change _ = close :: r' at h
      rw [← h] at hends
      exact absurd hends (not_endsWord_append (hopen x hx))
    | cons y ys =>
      obtain ⟨hy, htail'⟩ := List.forall_mem_cons.mp hys
      rw [List.map_cons, commas_cons_append] at h
      obtain ⟨rfl, hbehind⟩ :=
        htold y _ _ hy (endsWord_behind hclose) (endsWord_behind hclose) h
      match xs, ys with
      | [], [] => exact ⟨rfl, (List.cons.inj hbehind).2⟩
      | [], _ :: _ => exact absurd (List.cons.inj hbehind).1.symm hcomma
      | _ :: _, [] => exact absurd (List.cons.inj hbehind).1 hcomma
      | _ :: _, _ :: _ =>
        obtain ⟨hrest, rfl⟩ := ih htail htail' (List.cons.inj hbehind).2
        exact ⟨congrArg _ hrest, rfl⟩

end Commas

/-! ## Plain data are told apart -/

theorem opening?_congr (ha : a.isPlain = true) (hb : b.isPlain = true) (hr : EndsWord r)
    (hr' : EndsWord r') (h : a.key ++ r = b.key ++ r') : a.opening? = b.opening? := by
  rw [opening?_eq ha hr, opening?_eq hb hr', h]

theorem told_word (hs : s.isWord = true) : Told key isPlain (scalar s) := by
  intro b r r' hb hr hr' h
  have hplain : (scalar s).isPlain = true := Bool.or_eq_true_iff.mpr (.inl hs)
  have hopening := opening?_congr hplain hb hr hr' h
  rw [opening?, isText_of_isWord hs] at hopening
  match b with
  | scalar s' =>
    obtain hs' | ⟨t, rfl⟩ := isWord_or_text hb
    · have hread := scalar?_scalarKey hs hr
      have hread' := scalar?_scalarKey hs' hr'
      rw [← key, h, key, hread'] at hread
      obtain ⟨rfl, rfl⟩ := Prod.mk.inj (Option.some.inj hread)
      exact ⟨rfl, rfl⟩
    · cases hopening
  | list items => cases hopening
  | map entries => cases hopening
  | marker selectors styles => cases hopening

theorem told_text (t : Text) : Told key isPlain (scalar (.text t)) := by
  intro b r r' hb hr hr' h
  have hopening := opening?_congr rfl hb hr hr' h
  match b with
  | scalar s =>
    obtain hs | ⟨t', rfl⟩ := isWord_or_text hb
    · rw [opening?, opening?, isText_of_isWord hs] at hopening
      cases hopening
    · obtain ⟨rfl, rfl⟩ := Json.quote_append_inj h
      exact ⟨rfl, rfl⟩
  | list items => cases hopening
  | map entries => cases hopening
  | marker selectors styles => cases hopening

theorem key_list_append (items : List Material) (r : Text) :
    (list items).key ++ r = '[' :: (commas (items.map key) ++ ']' :: r) := by
  rw [key, keys_eq_map]
  exact congrArg _ (List.append_assoc _ _ _)

theorem told_list (hitems : ∀ m ∈ items, m.isPlain = true ∧ Told key isPlain m) :
    Told key isPlain (list items) := by
  intro b r r' hb hr hr' h
  have hplain : (list items).isPlain = true := arePlain_iff.mpr fun m hm => (hitems m hm).1
  have hopening := opening?_congr hplain hb hr hr' h
  match b with
  | scalar s =>
    rw [opening?, opening?] at hopening
    split at hopening
    · cases hopening
    · cases hopening
  | list items' =>
    rw [key_list_append, key_list_append] at h
    obtain ⟨rfl, rfl⟩ := commas_append_inj (.inl rfl) (fun _ => not_endsWord_key) hitems
      (arePlain_iff.mp hb) (List.cons.inj h).2
    exact ⟨rfl, rfl⟩
  | map entries => cases hopening
  | marker selectors styles => cases hopening

/-- What is written of an entry. -/
def writeEntry (e : Text × Material) : Text := entryKey e.1 e.2.key

theorem told_entry {e : Text × Material} (he : Told key isPlain e.2) :
    Told writeEntry (fun e => e.2.isPlain) e := by
  intro e' r r' he' hr hr' h
  have happend (e : Text × Material) (r : Text) :
      writeEntry e ++ r = Json.quote .unicode e.1 ++ ':' :: (e.2.key ++ r) := by
    rw [writeEntry, entryKey, List.append_assoc, List.append_assoc]
    rfl
  rw [happend, happend] at h
  obtain ⟨hname, hbehind⟩ := Json.quote_append_inj h
  obtain ⟨hvalue, rfl⟩ := he e'.2 r r' he' hr hr' (List.cons.inj hbehind).2
  exact ⟨Prod.ext hname hvalue, rfl⟩

theorem exists_entries (h : m.opening? = some '\x7b') : ∃ entries, m.entries? = some entries := by
  match m with
  | scalar s =>
    rw [opening?] at h
    split at h
    · cases h
    · cases h
  | map entries => exact ⟨_, rfl⟩
  | marker selectors styles => exact ⟨_, rfl⟩

theorem opening?_of_entries? (h : m.entries? = some entries) : m.opening? = some '\x7b' := by
  match m with
  | map _ => rfl
  | marker _ _ => rfl

theorem told_entries (hm : m.isPlain = true) (h : m.entries? = some entries)
    (hentries : ∀ e ∈ entries, Told key isPlain e.2) : Told key isPlain m := by
  intro b r r' hb hr hr' hkey
  have hopening := opening?_congr hm hb hr hr' hkey
  obtain ⟨entries', h'⟩ := exists_entries (hopening.symm.trans (opening?_of_entries? h))
  have hplain := isPlain_of_entries? hm h
  have hopen (e : Text × Material) (_ : e.2.isPlain = true) : ¬ EndsWord (writeEntry e) :=
    fun hends => hends.head?_ne (c := '"') (by decide) rfl
  have htold : ∀ e ∈ entries, e.2.isPlain = true ∧ Told writeEntry (fun e => e.2.isPlain) e :=
    fun e he => ⟨hplain e he, told_entry (hentries e he)⟩
  rw [key_append_of_entries? h, key_append_of_entries? h'] at hkey
  obtain ⟨rfl, rfl⟩ := commas_append_inj (.inr rfl) hopen htold (isPlain_of_entries? hb h')
    (List.cons.inj hkey).2
  exact ⟨eq_of_entries? hm hb h h', rfl⟩

theorem told_of_isText (h : m.isText = true) : Told key isPlain m := by
  match m with
  | scalar (.text t) => exact told_text t

mutual

/-- **Plain data are told from all other plain data by their key.** -/
theorem told_key : ∀ {m : Material}, m.isPlain = true → Told key isPlain m
  | scalar s, h => by
    obtain hs | ⟨t, rfl⟩ := isWord_or_text h
    · exact told_word hs
    · exact told_text t
  | list items, h => told_list fun m hm => ⟨arePlain_iff.mp h m hm, told_keys h m hm⟩
  | map entries, h => told_entries h rfl (told_entryKeys (Bool.and_eq_true_iff.mp h).2)
  | marker selectors styles, h => by
    obtain ⟨htexts, hstyles⟩ := Bool.and_eq_true_iff.mp h
    have hselectors : Told key isPlain (list selectors) := told_list fun m hm =>
      have htext := List.all_eq_true.mp htexts m hm
      ⟨isPlain_of_isText htext, told_of_isText htext⟩
    exact told_entries h rfl
      (List.forall_mem_cons.mpr ⟨hselectors, List.forall_mem_singleton.mpr (told_key hstyles)⟩)

theorem told_keys : ∀ {items : List Material}, arePlain items = true →
    ∀ m ∈ items, Told key isPlain m
  | m :: items, h => by
    obtain ⟨hm, hitems⟩ := Bool.and_eq_true_iff.mp h
    exact List.forall_mem_cons.mpr ⟨told_key hm, told_keys hitems⟩
  | [], _ => fun _ h => nomatch h

theorem told_entryKeys : ∀ {entries : List (Text × Material)}, holdPlain entries = true →
    ∀ e ∈ entries, Told key isPlain e.2
  | (_, m) :: entries, h => by
    obtain ⟨hm, hentries⟩ := Bool.and_eq_true_iff.mp h
    exact List.forall_mem_cons.mpr ⟨told_key hm, told_entryKeys hentries⟩
  | [], _ => fun _ h => nomatch h

end

/-- **Plain data have one key exactly when they are one ordered tree.** -/
theorem key_inj (ha : a.isPlain = true) (hb : b.isPlain = true) : a.key = b.key ↔ a = b := by
  refine ⟨fun h => ?_, congrArg key⟩
  exact (told_key ha b [] [] hb EndsWord.nil EndsWord.nil (congrArg (· ++ []) h)).1

/-- Two pages whose keys differ in the sign of a zero below a marker. -/
theorem key_inj_zeros :
    let page (zero : Double) : Material := .map
      [("x", .marker [.scalar (.text "&:hover")] (.map [("top", .scalar (.float zero))])),
        ("y", .list [.scalar (.int 1), .scalar (.float (.finite false (2 ^ 52) 1022)),
          .scalar (.bool true), .scalar .null])]
    (page (.finite false 0 0)).isPlain = true ∧ (page (.finite true 0 0)).isPlain = true ∧
      (page (.finite false 0 0)).key ≠ (page (.finite true 0 0)).key := by
  intro page
  have ha : (page (.finite false 0 0)).isPlain = true := by decide +kernel
  have hb : (page (.finite true 0 0)).isPlain = true := by decide +kernel
  have hne : page (.finite false 0 0) ≠ page (.finite true 0 0) := by simp [page]
  exact ⟨ha, hb, fun h => hne ((key_inj ha hb).mp h)⟩

end Material

end ThemedCss
