import ThemedCss.Proofs.Variable.Promotion
import ThemedCss.Proofs.Variable.Shortening
import ThemedCss.Session.Call

/-!
# Making a style sheet twice

A session that has made a style sheet has counted and hoisted everything. Making it again shortens
the chunks once more, and nothing else; this changes them when the first shortening has turned the
fallback of a reference into the value that the root holds.

* `optimize_optimize`: all that a second optimization does;
* **`css_css_eq_iff`**: when a second style sheet is the first one and the session stays as it is;
* `css_css_chain`: a reference whose fallback is shortened into the root's value.
-/

namespace ThemedCss.Session

open Variable

theorem optimize_eq (s : Session) : s.optimize =
    ({ s.scanChunks with
      registry := (s.scanChunks.registry.hoist s.config.hoistThreshold).1
      chunks := s.chunks.map
        (shorten (s.scanChunks.registry.hoist s.config.hoistThreshold).1.store.root) },
      (s.scanChunks.registry.hoist s.config.hoistThreshold).2) := rfl

theorem scanChunks_optimize (s : Session) : s.optimize.1.scanChunks = s.optimize.1 := by
  have hlength : s.optimize.1.chunks.length = s.optimize.1.scanned := List.length_map _
  unfold scanChunks
  rw [← hlength, List.drop_length, List.foldl_nil, hlength]

theorem optimize_optimize (s : Session) : s.optimize.1.optimize =
    ({ s.optimize.1 with
      chunks := s.optimize.1.chunks.map (shorten s.optimize.1.registry.store.root) }, []) := by
  have hhoist : s.optimize.1.registry.hoist s.optimize.1.config.hoistThreshold =
      (s.optimize.1.registry, []) := Registry.hoist_hoist s.scanChunks.registry
  rw [optimize_eq s.optimize.1, scanChunks_optimize, hhoist]

/-- **A second optimization leaves the chunks alone exactly when they were settled.** -/
theorem chunks_optimize_optimize (s : Session) :
    s.optimize.1.optimize.1.chunks = s.optimize.1.chunks ↔
      ∀ chunk ∈ s.chunks, IsSettled s.optimize.1.registry.store.root chunk := by
  have htwice : s.optimize.1.optimize.1.chunks =
      (s.chunks.map (shorten s.optimize.1.registry.store.root)).map
        (shorten s.optimize.1.registry.store.root) :=
    congrArg (fun r : Session × List Text => r.1.chunks) (optimize_optimize s)
  have honce : s.optimize.1.chunks = s.chunks.map (shorten s.optimize.1.registry.store.root) := rfl
  rw [htwice, honce, List.map_map, List.map_inj_left]
  exact forall₂_congr fun chunk _ => shorten_shorten_eq_self_iff

/-- **A second style sheet is the first one, and leaves the variables, the uses and the chunks as
they are, exactly when every chunk was settled.** The variables and the uses stay in any case, and
so does the style sheet when it has no chunks in it. -/
theorem css_css_eq_iff (s : Session) (includeStyles : Bool) :
    let once := s.css includeStyles none
    let twice := once.1.css includeStyles none
    (twice.2 = once.2 ∧ twice.1.registry.store = once.1.registry.store ∧
        twice.1.registry.table = once.1.registry.table ∧ twice.1.chunks = once.1.chunks ↔
      ∀ chunk ∈ s.chunks, IsSettled once.1.registry.store.root chunk) ∧
    twice.1 = { once.1 with chunks := twice.1.chunks } ∧
    (includeStyles = false → twice.2 = once.2) := by
  intro once twice
  have hsession : twice.1 = { once.1 with chunks := twice.1.chunks } := by
    change s.optimize.1.optimize.1 = { s.optimize.1 with chunks := s.optimize.1.optimize.1.chunks }
    rw [optimize_optimize]
  have hsame : twice.1.chunks = once.1.chunks → twice.1 = once.1 := by
    intro hchunks
    rw [hsession, hchunks]
  refine ⟨Iff.trans ?_ (chunks_optimize_optimize s), hsession, ?_⟩
  · refine ⟨fun h => h.2.2.2, fun hchunks => ?_⟩
    have htwice := hsame hchunks
    refine ⟨?_, congrArg (fun t : Session => t.registry.store) htwice,
      congrArg (fun t : Session => t.registry.table) htwice, hchunks⟩
    exact congrArg (fun t : Session => t.sheet includeStyles) htwice
  · rintro rfl
    change twice.1.sheet false = once.1.sheet false
    rw [hsession]
    rfl

/-- A theme whose first variable refers to its second one, and a style that writes the reference to
the second one out behind the first one. -/
def chainCalls : List Call :=
  [.createTheme (.map [(.text "a", .scalar (.text "var(--b)")), (.text "b", .scalar (.text "x"))])
      (.scalar (.text "")),
    .createStyle (.style (.rules [(.text "p", .rules [(.text "color",
      .property (.scalar (.text "var(--a, var(--b, x))")))])])) none]

/-- **A second style sheet need not be the first one**: the fallback of a reference is shortened into
the root's value, and is taken away only when the reference is looked at again. -/
theorem css_css_chain : ¬ ∀ (config : Config) (calls : List Call) (includeStyles : Bool),
    let once := ((start config).run calls).1.css includeStyles none
    let twice := once.1.css includeStyles none
    twice.2 = once.2 ∧ twice.1.registry.store = once.1.registry.store ∧
      twice.1.registry.table = once.1.registry.table ∧ twice.1.chunks = once.1.chunks := by
  intro h
  exact absurd (h {} chainCalls true).1 (by decide +kernel)

end ThemedCss.Session
