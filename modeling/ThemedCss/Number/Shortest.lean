import ThemedCss.Number.Double

/-!
# Shortest decimals

The decimal with the fewest digits that reads back as a given double. For each number of digits
the two neighbours of the value on that decimal grid are tried, in exact arithmetic; of two that
read back the nearer one is taken, and of two equally near ones the even one.

* `Double.onGrid?`: the decimal with a given last place that reads back;
* `Double.shortest`: the decimal with the fewest digits;
* **`Double.ofDecimal_of_onGrid?`**: what is found on a grid reads back.
-/

namespace ThemedCss.Double

/-- The place of the leading digit: the magnitude lies in `[10 ^ (p - 1), 10 ^ p)`. The smallest
double exceeds `10 ^ (-330)`. -/
def leadingPlace (m k : Nat) : Int :=
  (Text.ofNat (numerator m k * Nat.pow 10 330 / denominator)).length - 330

/-- The magnitude in units of `10 ^ e`, as a fraction. -/
def inUnits (m k : Nat) (e : Int) : Nat × Nat :=
  if 0 ≤ e then (numerator m k, denominator * Nat.pow 10 e.toNat)
  else (numerator m k * Nat.pow 10 (-e).toNat, denominator)

/-- The two multiples of `10 ^ e` next to the magnitude, the nearer one first. -/
def neighbours (m k : Nat) (e : Int) : List Nat :=
  let (n, d) := inUnits m k e
  let near := roundDiv n d
  [near, if near = n / d then near + 1 else n / d]

/-- The multiple of `10 ^ e` next to the magnitude that reads back, if there is one. -/
def onGrid? (m k : Nat) (e : Int) : Option (Nat × Int) :=
  ((neighbours m k e).find? fun q => ofDecimal false q e = finite false m k).map (·, e)

/-- The decimal `q · 10 ^ e` with the fewest digits that reads back as the magnitude. -/
def shortest (m k : Nat) : Nat × Int :=
  let place := leadingPlace m k
  ((List.range' 1 17).findSome? fun digits : Nat => onGrid? m k (place - digits)).getD (0, 0)

/-- A decimal found on a grid reads back as the number. -/
theorem ofDecimal_of_onGrid? {m k : Nat} {e : Int} {d : Nat × Int}
    (h : onGrid? m k e = some d) : ofDecimal false d.1 d.2 = finite false m k := by
  obtain ⟨q, hq, rfl⟩ := Option.map_eq_some_iff.mp h
  simpa using List.find?_some hq

end ThemedCss.Double
