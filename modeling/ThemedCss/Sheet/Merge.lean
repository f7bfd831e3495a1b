import ThemedCss.Css.Block
import ThemedCss.Text.Blank

/-!
# Merging rules with one body

Rules at the top level whose bodies are the same text become one rule with all their selectors.
A rule is recognised by its lines: a header that starts in the first column, a body without
braces, and a closing brace alone on its line. Whatever else a style sheet holds stays as it is.

* `Piece`: a rule, or another line;
* `Sheet.pieces`: the rules and other lines of a style sheet;
* `Sheet.sharing`: the selectors of the rules with a body;
* `Sheet.collapse`: at most one blank line in a row;
* **`Sheet.merge`**: the style sheet with such rules merged.
-/

namespace ThemedCss.Sheet

/-- A rule at the top level, or any other line. -/
inductive Piece
  | rule (selector : Text) (body : List Text)
  | line (text : Text)
  deriving DecidableEq

/-- The selector of a line that opens a rule in the first column. -/
def selectorOf? (line : Text) : Option Text :=
  match ("\x7b ".toList).isPrefixOf? line.reverse with
  | none => none
  | some reversed =>
    let selector := reversed.reverse
    match selector with
    | [] => none
    | c :: _ =>
      if Text.isBlank c ∨ c = '@' ∨ selector.any Block.isBrace then none else some selector

/-- The lines up to the first one that is a closing brace, when no brace stands in them, and the
lines behind it. -/
def body? : List Text → Option (List Text × List Text)
  | [] => none
  | l :: ls =>
    if l = Block.closing then some ([], ls)
    else if l.any Block.isBrace then none
    else (body? ls).map fun (body, rest) => (l :: body, rest)

/-- The rule that starts with a line, and the lines behind it. -/
def rule? (line : Text) (ls : List Text) : Option (Text × List Text × List Text) :=
  match selectorOf? line, body? ls with
  | some selector, some (l :: body, rest) => some (selector, l :: body, rest)
  | _, _ => none

theorem body?_eq_append {ls body rest : List Text} (h : body? ls = some (body, rest)) :
    ls = body ++ Block.closing :: rest := by
  induction ls generalizing body with
  | nil => cases h
  | cons l ls ih =>
    simp only [body?] at h
    split at h
    · cases h; simp_all
    · split at h
      · cases h
      · obtain ⟨⟨a, b⟩, hab, he⟩ := Option.map_eq_some_iff.mp h
        cases he; simp [ih hab]

theorem rule?_rest_lt {line selector : Text} {ls body rest : List Text}
    (h : rule? line ls = some (selector, body, rest)) : rest.length < ls.length := by
  unfold rule? at h
  split at h
  · rename_i hb
    cases h
    rw [body?_eq_append hb]; simp; omega
  · cases h

/-- The rules and the other lines of a style sheet, in order. -/
def pieces : List Text → List Piece
  | [] => []
  | line :: ls =>
    match h : rule? line ls with
    | some (selector, body, rest) =>
      have := rule?_rest_lt h
      .rule selector body :: pieces rest
    | none => .line line :: pieces ls
termination_by ls => ls.length

/-- The body of a rule whose selector is no list. -/
def Piece.body? : Piece → Option (List Text)
  | rule selector body => if ',' ∈ selector then none else some body
  | line _ => none

/-- The selectors of the rules with a body, each once, in the order in which they came. -/
def sharing (body : List Text) (ps : List Piece) : List Text :=
  ps.foldl (fun selectors p =>
    match p with
    | .rule selector _ =>
      if p.body? = some body ∧ ¬ Text.strip selector ∈ selectors then
        selectors ++ [Text.strip selector]
      else selectors
    | .line _ => selectors) []

/-- Whether rules with two or more selectors share a body. -/
def isShared (body : List Text) (ps : List Piece) : Bool := 1 < (sharing body ps).length

/-- The lines of a piece among all the pieces: the first rule of a shared body carries the
selectors of all, and an empty line is left of the others. -/
def linesOf (all : List Piece) (merged : List (List Text)) : Piece → List Text
  | .line text => [text]
  | .rule selector body =>
    if (Piece.rule selector body).body? = none ∨ !isShared body all then Block.lines selector body
    else if body ∈ merged then [[]]
    else Block.lines (List.intercalate ", " (sharing body all)) body

/-- The lines of pieces among all the pieces, after the bodies that have been merged before. -/
def mergedLines (all : List Piece) : List (List Text) → List Piece → List Text
  | _, [] => []
  | merged, p :: ps => linesOf all merged p ++ mergedLines all (p.body?.toList ++ merged) ps

/-- A text with at most two line feeds in a row, after a number of them. -/
def collapseFrom (before : Nat) : Text → Text
  | [] => []
  | c :: t =>
    if c = '\n' then
      if before < 2 then c :: collapseFrom (before + 1) t else collapseFrom before t
    else c :: collapseFrom 0 t

/-- A text with at most one blank line in a row. -/
def collapse (css : Text) : Text := collapseFrom 0 css

/-- A text without line feeds at its end. -/
def dropLastFeeds (t : Text) : Text := (t.reverse.dropWhile (· = '\n')).reverse

/-- A style sheet with the rules merged that share a body. One that ends with a line feed ends
with exactly one afterwards, if any rules were merged. -/
def merge (css : Text) : Text :=
  let ps := pieces (Text.lines css)
  let merged := collapse (Text.unlines (mergedLines ps [] ps))
  if css.getLast? = some '\n' ∧ ps.any fun p => p.body?.any fun body => isShared body ps then
    dropLastFeeds merged ++ "\n"
  else merged

end ThemedCss.Sheet
