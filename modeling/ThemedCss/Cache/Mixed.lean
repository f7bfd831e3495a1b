import ThemedCss.Cache
import ThemedCss.Value.Count
import ThemedCss.Value.Items

/-!
# Caches of values of any kind

A cache whose keys and contents need not be texts. Contents of another kind are kept, but cannot be
read; null reads as nothing. A key of another kind cannot be named, so that dropping it is a fault.

* `MixedCache`: texts, and the keys under which something else stands;
* `MixedCache.get?`, `MixedCache.metadata?`, `MixedCache.shouldRegenerate`, `MixedCache.invalidate`;
* **`MixedCache.set`**: a write under a bound of any kind.
-/

namespace ThemedCss

/-- A cache whose contents are of any kind. -/
structure MixedCache where
  /-- The contents, with an empty text for each that is no text. -/
  cache : Cache Scalar := {}
  /-- The keys under which no text was written last, and whether it was null. -/
  others : OrderedMap Scalar Bool := ∅

namespace MixedCache

/-- The outcome of dropping a key. -/
def dropping (key : Option Scalar) : Except Fault Unit :=
  if key.all Scalar.isText then .ok () else .error .notSequence

/-- The cache with a text written under a key, and a bound of any kind put up. No cache keeps a
bound below zero: entries go until there is none left to go. -/
def writeWithin (bound : Value) (c : Cache Scalar) (key : Scalar) (css metadata : Text) :
    Cache Scalar × Except Fault Unit :=
  match bound with
  | .scalar .null => (c.set key css metadata, .ok ())
  | bound => match bound.greatestCount with
    | .error f => (c.set key css metadata, .error f)
    | .ok none => (c.set key css metadata, .ok ())
    | .ok (some (.negSucc _)) => (c.clear, dropping (some key) *> .error .missing)
    | .ok (some (.ofNat n)) =>
      let bounded : Cache Scalar := { c with bound := some n }
      ({ bounded.set key css metadata with bound := none }, dropping (bounded.dropped? key))

/-- The cache with something written under a key; it becomes a text when metadata are put behind
it. -/
def set (bound : Value) (c : MixedCache) (key : Scalar) (css metadata : Value) :
    MixedCache × Except Fault Unit :=
  let note := if metadata.isTrue then metadata.display else []
  let (content, others) := match css, note with
    | .scalar (.text t), _ => (t, c.others.erase key)
    | css, [] => ([], c.others.insert key css.isNull)
    | css, _ => (css.display, c.others.erase key)
  let (cache, outcome) := writeWithin bound c.cache key content note
  (⟨cache, others⟩, outcome)

/-- What is read under a key, when a text stands there. -/
def read {α : Type} (c : MixedCache) (key : Scalar) (nothing : α) (f : Cache Scalar → α) :
    Except Fault α :=
  if !c.cache.has key then .ok nothing
  else match c.others.get? key with
    | some true => .ok nothing
    | some false => .error .notJoinable
    | none => .ok (f c.cache)

/-- The text under a key without its metadata. -/
def get? (c : MixedCache) (key : Scalar) : Except Fault (Option Text) :=
  c.read key none (·.get? key)

/-- The metadata under a key. -/
def metadata? (c : MixedCache) (key : Scalar) : Except Fault (Option Text) :=
  c.read key none (·.metadata? key)

/-- Whether the text of a key has to be generated. -/
def shouldRegenerate (c : MixedCache) (key : Scalar) (includeStyles : Bool) : Except Fault Bool :=
  if c.cache.has key && includeStyles then
    c.read key false (·.shouldRegenerate key includeStyles)
  else .ok (c.cache.shouldRegenerate key includeStyles)

/-- The cache without a key, and whether anything but null stood there. -/
def invalidate (c : MixedCache) (key : Scalar) : MixedCache × Bool :=
  ({ c with cache := c.cache.invalidate key },
    c.cache.has key && c.others.get? key != some true)

/-- The cache without entries. -/
def clear (c : MixedCache) : MixedCache := { c with cache := c.cache.clear }

end MixedCache

end ThemedCss
