import ThemedCss.OrderedMap
import ThemedCss.Text

/-!
# The use of fallbacks

How often each literal stands as the fallback of a reference, and of which references.

* `Usage`: the uses of one literal;
* `UsageTable`: a usage for each literal, in the order in which the literals came;
* **`UsageTable.track`**: one more use.
-/

namespace ThemedCss

/-- The uses of one literal as a fallback. -/
structure Usage where
  /-- The literal. -/
  value : Text
  /-- The number of its uses. -/
  count : Nat := 0
  /-- The number of its uses behind each reference, in the order in which these came. -/
  uses : OrderedMap Text Nat := ∅
  /-- Whether the literal has become the value of a root variable. -/
  promoted : Bool := false
  deriving DecidableEq

/-- The literal with one more use behind a reference. -/
def Usage.track (u : Usage) (reference : Text) : Usage :=
  { u with
    uses := u.uses.insert reference ((u.uses.get? reference).getD 0 + 1)
    count := u.count + 1 }

/-- The usage of each literal. -/
abbrev UsageTable := OrderedMap Text Usage

namespace UsageTable

/-- The usage of a literal, which is new when it has none. -/
def entryD (t : UsageTable) (value : Text) : Usage := (t.get? value).getD { value := value }

/-- The table with one more use of a literal behind a reference. -/
def track (t : UsageTable) (reference value : Text) : UsageTable :=
  t.insert value ((t.entryD value).track reference)

theorem get?_track (t : UsageTable) (reference value other : Text) :
    (t.track reference value).get? other =
      if value = other then some ((t.entryD value).track reference) else t.get? other :=
  t.get?_insert value other _

end UsageTable

end ThemedCss
