import ThemedCss.OrderedMap
import ThemedCss.Text

/-!
# The cache of generated style sheets

Texts under keys, in the order of their last writes. A text may carry metadata in a comment at its
end, which reading takes off again. A bounded cache drops the entries that were written first.

* `Cache`: the entries and their bound;
* `Cache.withMetadata`, `Cache.comment?`: the comment put on and found;
* **`Cache.set`**, `Cache.get?`, `Cache.metadata?`, `Cache.shouldRegenerate`;
* `Cache.dropped?`: the key that a write drops.
-/

namespace ThemedCss

/-- Generated texts under keys. -/
structure Cache (κ : Type) where
  /-- The largest number of entries, if there is one. -/
  bound : Option Nat := none
  /-- The texts, the one last written at the end. -/
  entries : OrderedMap κ Text := ∅
  deriving DecidableEq

namespace Cache

variable {κ : Type} [DecidableEq κ]

/-- The metadata of a style sheet that was generated without its rules. -/
def needsStyles : Text := "NEEDS_STYLES"

/-- A text with metadata in a comment at its end, if there are any. -/
def withMetadata (css metadata : Text) : Text :=
  if metadata = [] then css else css ++ "<!--" ++ metadata ++ "-->"

/-- What stands before the end of a comment that ends a text. -/
def beforeEnd? (t : Text) : Option Text :=
  (("-->" : Text).reverse.isPrefixOf? t.reverse).map List.reverse

/-- A text split at the first opening of a comment. -/
def splitOpening? : Text → Option (Text × Text)
  | [] => none
  | c :: t =>
    match ("<!--" : Text).isPrefixOf? (c :: t) with
    | some rest => some ([], rest)
    | none => (splitOpening? t).map fun (before, rest) => (c :: before, rest)

/-- A text split into what stands before the comment at its end, and what stands in it. The
comment reaches back to the first opening. -/
def comment? (t : Text) : Option (Text × Text) := beforeEnd? t >>= splitOpening?

/-- The text under a key without its metadata. -/
def get? (c : Cache κ) (key : κ) : Option Text :=
  (c.entries.get? key).map fun t => ((comment? t).map Prod.fst).getD t

/-- The metadata under a key; a text without a comment has empty ones. -/
def metadata? (c : Cache κ) (key : κ) : Option Text :=
  (c.entries.get? key).map fun t => ((comment? t).map Prod.snd).getD []

/-- Whether there is a text under a key. -/
def has (c : Cache κ) (key : κ) : Bool := c.entries.contains key

/-- The number of entries. -/
def size (c : Cache κ) : Nat := c.entries.size

/-- The entries that stay within a bound: the ones written last. -/
def evict (bound : Option Nat) (entries : OrderedMap κ Text) : OrderedMap κ Text :=
  match bound with
  | none => entries
  | some n =>
    if n < entries.size then evict (some n) entries.tail else entries
termination_by entries.size
decreasing_by
  simp only [OrderedMap.size, OrderedMap.tail, List.length_tail] at *
  omega

/-- The entries with a text written under a key, before any of them is dropped. -/
def written (c : Cache κ) (key : κ) (css metadata : Text) : OrderedMap κ Text :=
  (c.entries.erase key).insert key (withMetadata css metadata)

/-- The cache with a text written under a key. -/
def set (c : Cache κ) (key : κ) (css metadata : Text) : Cache κ :=
  { c with entries := evict c.bound (c.written key css metadata) }

/-- The key that is dropped first when a text is written under a key. -/
def dropped? (c : Cache κ) (key : κ) : Option κ :=
  let keys := (c.written key [] []).keys
  if c.bound.any (· < keys.length) then keys.head? else none

/-- Whether the text of a key has to be generated: there is none, or rules are asked for and it
was generated without them. -/
def shouldRegenerate (c : Cache κ) (key : κ) (includeStyles : Bool) : Bool :=
  !c.has key || (includeStyles && Text.contains needsStyles ((c.metadata? key).getD []))

/-- The cache without a key. -/
def invalidate (c : Cache κ) (key : κ) : Cache κ := { c with entries := c.entries.erase key }

/-- The cache without entries. -/
def clear (c : Cache κ) : Cache κ := { c with entries := ∅ }

end Cache

end ThemedCss
