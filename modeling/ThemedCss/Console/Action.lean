import ThemedCss.Console.Action.Token
import ThemedCss.Number.Double
import ThemedCss.Text.Blank
import ThemedCss.Text.WordPart

/-!
# Actions

A tag may hold an action: a name, a name with values in parentheses, or values alone. What the
values are does not matter to what is shown, but they must be well formed.

* `Action.Kind`: what matters of a value;
* `Action.value?`: one value;
* `Action.areValues`: a text of values with commas between them;
* **`Action.isReadable`**: whether a text is an action.
-/

namespace ThemedCss.Action

/-- What matters of a value. -/
inductive Kind
  /-- A number with or without a sign of its own. -/
  | number (isSigned : Bool) (n : Number)
  /-- Any other value that can be a member of a set, or a key. -/
  | fixed
  /-- A value that holds a set or a mapping. -/
  | changing
  /-- The name of sets, which is no value yet. -/
  | setName
  deriving DecidableEq

namespace Kind

/-- Whether a value can be a member of a set, or a key. -/
def isFixed : Kind → Bool
  | number .. | fixed => true
  | changing | setName => false

/-- What matters of a value that holds others. -/
def holding (areFixed : Bool) : Kind := if areFixed then fixed else changing

end Kind

/-- A value at the front of some tokens, and those behind it. -/
abbrev Parsed := Option (Kind × List Token)

/-- A text of several parts, which are all bytes or none of them. -/
def texts? (isBytes : Bool) : List Token → Parsed
  | .text isBytes' :: ts => if isBytes' = isBytes then texts? isBytes ts else none
  | ts => some (.fixed, ts)

/-- The number behind a sign. -/
def signed? : Kind → Option Kind
  | .number false n => some (.number true n)
  | _ => none

/-- Whether a number can have an imaginary part: it must be within the range of doubles. -/
def isRealPart : Kind → Bool
  | .number _ (.whole n) => Double.ofInt n ≠ .infinite false
  | .number _ .real => true
  | _ => false

/-- Two numbers with a sign between them: a real part and an imaginary one. -/
def sum? (left right : Kind) : Option Kind :=
  if isRealPart left && right = .number false .imaginary then some .fixed else none

/-- A sign between two numbers, or in front of one. -/
def isPlusOrMinus (token : Token) : Bool := token = .sign '+' || token = .sign '-'

mutual

/-- A value without a sign in front of it. The fuel bounds the depth. -/
def atom? : (fuel : Nat) → List Token → Parsed
  | 0, _ | _, [] => none
  | fuel + 1, token :: ts =>
    match token with
    | .number n => some (.number false n, ts)
    | .text isBytes => texts? isBytes ts
    | .constant => some (.fixed, ts)
    | .setName => some (.setName, ts)
    | .sign '(' => round? fuel ts
    | .sign '\x7b' => braced? fuel ts
    | _ => none

/-- A value without a sign in front of it, or a set without members. -/
def primary? : (fuel : Nat) → List Token → Parsed
  | 0, _ => none
  | fuel + 1, ts => do
    match ← atom? fuel ts with
    | (.setName, .sign '(' :: .sign ')' :: ts) => return (.changing, ts)
    | taken => return taken

/-- A value with or without a sign in front of it. -/
def factor? : (fuel : Nat) → List Token → Parsed
  | 0, _ | _, [] => none
  | fuel + 1, token :: ts => do
    if isPlusOrMinus token then
      let (kind, ts) ← primary? fuel ts
      return (← signed? kind, ts)
    else primary? fuel (token :: ts)

/-- A value, or the name of sets. -/
def operand? : (fuel : Nat) → List Token → Parsed
  | 0, _ => none
  | fuel + 1, ts => do
    let (left, ts) ← factor? fuel ts
    match ts with
    | token :: behind =>
      if isPlusOrMinus token then
        let (right, ts) ← factor? fuel behind
        return (← sum? left right, ts)
      else return (left, ts)
    | [] => return (left, ts)

/-- A value. -/
def value? : (fuel : Nat) → List Token → Parsed
  | 0, _ => none
  | fuel + 1, ts => do
    let (kind, ts) ← operand? fuel ts
    if kind = .setName then none else return (kind, ts)

/-- The values up to a closing sign, behind others or none; a comma may stand behind the last one.
What is read is whether all of them are fixed. -/
def values? : (fuel : Nat) → (close : Char) → (areFixed : Bool) → List Token → Option (Bool × List Token)
  | 0, _, _, _ | _, _, _, [] => none
  | fuel + 1, close, areFixed, token :: ts => do
    if token = .sign close then return (areFixed, ts)
    let (kind, ts) ← value? fuel (token :: ts)
    match ts with
    | .sign ',' :: ts => values? fuel close (areFixed && kind.isFixed) ts
    | token :: ts => if token = .sign close then return (areFixed && kind.isFixed, ts) else none
    | [] => none

/-- The value of a key, and the further keys with their values up to a closing brace. -/
def entry? : (fuel : Nat) → List Token → Parsed
  | 0, _ => none
  | fuel + 1, ts => do
    let (_, ts) ← value? fuel ts
    match ts with
    | .sign '\x7d' :: ts => return (.changing, ts)
    | .sign ',' :: .sign '\x7d' :: ts => return (.changing, ts)
    | .sign ',' :: ts =>
      match ← value? fuel ts with
      | (key, .sign ':' :: ts) => if key.isFixed then entry? fuel ts else none
      | _ => none
    | _ => none

/-- What stands behind an opening parenthesis: one value in parentheses, or several values. -/
def round? : (fuel : Nat) → List Token → Parsed
  | 0, _ | _, [] => none
  | fuel + 1, token :: ts => do
    if token = .sign ')' then return (.fixed, ts)
    let (kind, ts) ← operand? fuel (token :: ts)
    match ts with
    | .sign ')' :: ts => return (kind, ts)
    | .sign ',' :: ts =>
      if kind = .setName then none
      else
        let (areFixed, ts) ← values? fuel ')' kind.isFixed ts
        return (.holding areFixed, ts)
    | _ => none

/-- What stands behind an opening brace: a mapping, or a set with members. -/
def braced? : (fuel : Nat) → List Token → Parsed
  | 0, _ | _, [] => none
  | fuel + 1, token :: ts => do
    if token = .sign '\x7d' then return (.changing, ts)
    let (first, ts) ← value? fuel (token :: ts)
    match first.isFixed, ts with
    | true, .sign ':' :: ts => entry? fuel ts
    | true, .sign ',' :: ts =>
      let (areFixed, ts) ← values? fuel '\x7d' true ts
      if areFixed then return (.changing, ts) else none
    | true, .sign '\x7d' :: ts => return (.changing, ts)
    | _, _ => none

end

/-- The fuel for some tokens: between two tokens there are at most eight calls. -/
def fuelFor (ts : List Token) : Nat := 8 * (ts.length + 1)

/-- Whether a text is a value, or values with commas between them. Line ends may stand around
them. -/
def areValues (t : Text) : Bool :=
  match tokens? t with
  | none => false
  | some ts =>
    let ts := ts.dropWhile (· = .lineEnd)
    let ts := (ts.reverse.dropWhile (· = .lineEnd)).reverse
    let all := ts ++ [.sign ')']
    ts ≠ [] && match round? (fuelFor all) all with
      | some (kind, []) => kind ≠ .setName
      | _ => false

/-- Whether a text is an action. Values behind a name stand on its line. -/
def isReadable (action : Text) : Bool :=
  let action := Text.strip action
  let behind := action.dropWhile fun c => Text.isWordPart c || c = '.'
  if behind = [] then true
  else if behind.head? = some '(' && behind.getLast? = some ')' && !behind.contains '\n' then
    areValues behind
  else areValues action

end ThemedCss.Action
