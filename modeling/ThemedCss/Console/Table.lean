import ThemedCss.Console.Lines
import ThemedCss.Number.Double

/-!
# Tables on a console

A column is as wide as its widest line and a space on both sides. When the columns are wider than
the console together, the widest ones are made narrower. A cell with several lines makes its row
as high.

* `Console.measure`: the cells that a text needs in a column;
* `Console.narrowed`, `Console.squeezed`: widths that fit together;
* `Console.rowLines`: the lines of a row, cell by cell;
* **`Console.tableLines`**: the lines of a table, cell by cell.
-/

namespace ThemedCss.Console

/-- The largest of some numbers. -/
def largest (ns : List Nat) : Nat := ns.foldl max 0

/-- The code points that end a line when a text is measured. -/
def endsLine (c : Char) : Bool :=
  let n := c.toNat
  (10 ≤ n && n ≤ 13) || (28 ≤ n && n ≤ 30) || n == 0x85 || n == 0x2028 || n == 0x2029

/-- The parts of a text between line ends. -/
def parts : Text → List Text
  | [] => [[]]
  | c :: t => if endsLine c then [] :: parts t else Text.consHead c (parts t)

/-- The cells that a text needs in a column; a tab counts for none. -/
def measure (t : Text) : Nat := largest ((parts t).map Text.cells)

/-- The width of a column. -/
def columnWidth (texts : List Text) : Nat := largest (texts.map measure)

/-! ## Widths that fit together -/

/-- The width of the widest column, and that of the widest ones below it. -/
def widest (widths : List Nat) : Nat × Nat :=
  let first := largest widths
  (first, largest (widths.filter (· ≠ first)))

/-- Some cells taken away from the columns of a width, of which there are `count`, in shares that
are as equal as they can be and at most some number of cells. -/
def shared (width most : Nat) (cells count : Nat) : List Nat → List Nat
  | [] => []
  | w :: ws =>
    if w = width && 0 < count then
      let share := min most (Double.roundDiv cells count)
      (w - share) :: shared width most (cells - share) (count - 1) ws
    else w :: shared width most cells count ws

/-- Some widths with some cells less, taken from the widest ones and at most down to those below
them. -/
def narrowed (cells : Nat) (widths : List Nat) : List Nat :=
  let (first, second) := widest widths
  shared first (min cells (first - second)) cells (widths.count first) widths

/-- The cells of some widths together. -/
def total (widths : List Nat) : Nat := widths.foldl (· + ·) 0

/-- Some widths made narrower, at most `steps` times, until they fit in a number of cells. -/
def squeezed (room : Nat) : (steps : Nat) → (widths : List Nat) → List Nat
  | 0, widths => widths
  | steps + 1, widths =>
    if total widths ≤ room then widths
    else squeezed room steps (narrowed (total widths - room) widths)

/-- The cells beside the text of a column. -/
def padding : Nat := 2

/-- The cells for text in columns whose widest lines are known: each column has an edge, and the
last one has two. A step takes a cell away, so that there are no more steps than cells. -/
def textWidths (measures : List Nat) : List Nat :=
  let room := width - (measures.length + 1)
  let widths := measures.map fun n => min (n + padding) room
  (squeezed room (total widths) widths).map (· - padding)

/-! ## Rows -/

/-- The lines of a row in columns of some widths; short cells end in empty lines. -/
def rowLines (widths : List Nat) (row : List Text) : List (List Text) :=
  let columns := List.zipWith (linesWithin .ellipsis) widths row
  (List.range (largest (columns.map List.length))).map fun i => columns.map (·.getD i [])

/-- The lines of the rows of a table below its headings. -/
def tableLines (headings : List Text) (rows : List (List Text)) : List (List Text) :=
  let cells (heading : Text × Nat) : Nat :=
    columnWidth (heading.1 :: rows.map (·.getD heading.2 []))
  rows.flatMap (rowLines (textWidths (headings.zipIdx.map cells)))

end ThemedCss.Console
