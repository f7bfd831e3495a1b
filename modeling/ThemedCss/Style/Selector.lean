import ThemedCss.Text.Blank

/-!
# Selectors

Selector lists and the selector of a nested key.

* `Selector.split`: the parts of a selector list, between its commas outside brackets;
* `Selector.join`: a key below one parent: `&` stands for the parent, pseudo-classes and
  combinators follow it directly, anything else is a descendant;
* **`Selector.nest`**: a key below a parent that may be a list.
-/

namespace ThemedCss.Selector

/-- The bracket depth after a code point; it never falls below zero. -/
def depthAfter (depth : Nat) (c : Char) : Nat :=
  if c = '(' ∨ c = '[' then depth + 1 else if c = ')' ∨ c = ']' then depth - 1 else depth

/-- The text between the commas outside brackets, starting at a given depth. -/
def pieces (depth : Nat) : Text → List Text
  | [] => [[]]
  | c :: t =>
    if c = ',' ∧ depth = 0 then [] :: pieces depth t
    else Text.consHead c (pieces (depthAfter depth c) t)

/-- The parts of a selector list: trimmed, and without the empty ones. -/
def split (selector : Text) : List Text :=
  ((pieces 0 selector).map Text.strip).filter (· ≠ [])

/-- Whether a selector is a list of two or more parts. -/
def isList (selector : Text) : Bool := 1 < (split selector).length

/-- The code points that attach a key to its parent without a space. -/
def attaches (c : Char) : Bool := c = ':' || c = '>' || c = '+' || c = '~'

/-- A key below one parent; at the top level the parent is empty. -/
def join (key parent : Text) : Text :=
  match key with
  | '&' :: rest => parent ++ rest
  | c :: rest => if attaches c ∨ parent = [] then parent ++ c :: rest else parent ++ ' ' :: c :: rest
  | [] => if parent = [] then [] else parent ++ [' ']

/-- The selector of a key below one parent: at-rules and lists stand for themselves. -/
def create (key parent : Text) : Text :=
  if key.head? = some '@' then key
  else if key.head? = some '&' then join key parent
  else if isList key then key
  else join key parent

/-- The selector of a key below a parent, which is split when it is a list. -/
def nest (key parent : Text) : Text :=
  if isList parent then List.intercalate ", " ((split parent).map (create key)) else create key parent

end ThemedCss.Selector
