import ThemedCss.Text

/-!
# Line ends

* `Text.joinLineEnds`: a carriage return in front of a line feed is left out;
* `Text.unifyLineEnds`: every line end is a line feed;
* `Text.not_mem_unifyLineEnds`: no carriage return is left.
-/

namespace ThemedCss.Text

/-- The text with a line feed for each pair of carriage return and line feed. -/
def joinLineEnds : Text → Text
  | '\r' :: '\n' :: t => '\n' :: joinLineEnds t
  | c :: t => c :: joinLineEnds t
  | [] => []

/-- The text with a line feed for each line end: such a pair, or a carriage return alone. -/
def unifyLineEnds (t : Text) : Text := (joinLineEnds t).map fun c => if c = '\r' then '\n' else c

theorem not_mem_unifyLineEnds (t : Text) : '\r' ∉ unifyLineEnds t := by
  simp only [unifyLineEnds, List.mem_map, not_exists, not_and]
  intro c _
  by_cases h : c = '\r' <;> simp [h]

end ThemedCss.Text
