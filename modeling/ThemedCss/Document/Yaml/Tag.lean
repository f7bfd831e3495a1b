import ThemedCss.Document.Yaml.Stamp

/-!
# Tags of YAML documents

A tag says what a node stands for. A plain text without a tag has the one that its form implies.

* `Yaml.Tag`: the tags that documents know;
* `Tag.ofName`: the tag of a full name;
* `Yaml.isTruth`, `Yaml.isInteger`, `Yaml.isFloat`: the forms of plain texts;
* **`Tag.implied`**: the tag of a plain text.
-/

namespace ThemedCss.Yaml

/-- What a node stands for. -/
inductive Tag
  | null
  | truth
  | integer
  | float
  | moment
  | bytes
  | text
  | sequence
  | mapping
  | set
  /-- Pairs with an order. -/
  | pairs
  /-- The key of mappings that are merged into another. -/
  | merge
  /-- The key of the value that a mapping has as a whole. -/
  | value
  | unknown
  deriving DecidableEq

/-- The beginning of the names of the tags that every document knows. -/
def coreTag : Text := "tag:yaml.org,2002:"

namespace Tag

/-- The names of the tags that every document knows, behind their common beginning. -/
def names : List (Text × Tag) :=
  [("null", null), ("bool", truth), ("int", integer), ("float", float), ("timestamp", moment),
    ("binary", bytes), ("str", text), ("seq", sequence), ("map", mapping), ("set", set),
    ("omap", pairs), ("pairs", pairs), ("merge", merge), ("value", value)]

/-- The tag of a full name. -/
def ofName (name : Text) : Tag :=
  match coreTag.isPrefixOf? name with
  | some short => ((names.find? (·.1 = short)).map Prod.snd).getD unknown
  | none => unknown

/-- Whether a tag is one of nodes that hold others. -/
def isCollection : Tag → Bool
  | sequence | mapping | set | pairs => true
  | _ => false

end Tag

/-! ## Forms of plain texts -/

/-- A word in small letters, with a capital first letter, and in capital letters. -/
def spellings (word : Text) : List Text :=
  [word, word.take 1 |>.map Char.toUpper |>.append (word.drop 1), word.map Char.toUpper]

/-- Whether a text is a word for null. -/
def isNull (t : Text) : Bool := t = [] || t = ("~" : Text) || t ∈ spellings "null"

/-- Whether a text is a word for a truth value. -/
def isTruth (t : Text) : Bool :=
  t ∈ (["yes", "no", "true", "false", "on", "off"] : List Text).flatMap spellings

/-- A text behind its sign, if it has one. -/
def unsigned : Text → Text
  | '-' :: t => t
  | '+' :: t => t
  | t => t

/-- A digit, or an underscore between digits. -/
def isNumeral (c : Char) : Bool := Digits.isDecimal c || c = '_'

/-- Whether a text is made of digits of a base and underscores. -/
def isOfBase (base : Nat) (t : Text) : Bool :=
  t ≠ [] && t.all fun c => Digits.isDigitOf base c || c = '_'

/-- Whether a text is made of digits and underscores, and starts with a digit. -/
def startsNumeral (t : Text) : Bool := t.head?.any Digits.isDecimal && t.all isNumeral

/-- Whether a text is a part of sixty: one digit, or two with the first below six. -/
def isSixtieth : Text → Bool
  | [a] => Digits.isDecimal a
  | [a, b] => Digits.isDigitOf 6 a && Digits.isDecimal b
  | _ => false

/-- Whether a text is a number in parts of sixty. -/
def isSixties (t : Text) : Bool :=
  match t.splitOnP (· = ':') with
  | first :: rest => startsNumeral first && rest.all isSixtieth
  | [] => false

/-- Whether a text has the form of an integer. A zero in front means another base than ten, and
then no colons may follow. -/
def isInteger (t : Text) : Bool :=
  match unsigned t with
  | ['0'] => true
  | '0' :: 'b' :: digits => isOfBase 2 digits
  | '0' :: 'x' :: digits => isOfBase 16 digits
  | '0' :: digits => isOfBase 8 digits
  | t => isSixties t

/-- Whether a text is an exponent, which has a sign, or empty. -/
def isExponent : Text → Bool
  | [] => true
  | e :: s :: digits =>
    (e = 'e' || e = 'E') && (s = '-' || s = '+') && digits ≠ [] && digits.all Digits.isDecimal
  | _ => false

/-- Whether a text is a number with a point. Without digits in front of the point it has some
behind it, and no sign. -/
def isPointed (t : Text) : Bool :=
  match (unsigned t).span isNumeral with
  | (whole, '.' :: behind) =>
    let (fraction, power) := behind.span isNumeral
    let starts := if whole = [] ∧ unsigned t = t then fraction else whole
    starts.head?.any Digits.isDecimal && isExponent power
  | _ => false

/-- Whether a text is a number in parts of sixty, with a point in the last part. -/
def isPointedSixties (t : Text) : Bool :=
  match (unsigned t).span (· ≠ '.') with
  | (whole, '.' :: fraction) => whole.contains ':' && isSixties whole && fraction.all isNumeral
  | _ => false

/-- Whether a text has the form of a number with a point, or is a word for one without digits. -/
def isFloat (t : Text) : Bool :=
  isPointed t || isPointedSixties t || unsigned t ∈ ([".inf", ".Inf", ".INF"] : List Text) ||
    t ∈ ([".nan", ".NaN", ".NAN"] : List Text)

/-- The tag of a plain text. -/
def Tag.implied (plain : Text) : Tag :=
  let t := if plain.length ≤ 1 then plain else withoutFinalBreak plain
  if isTruth t then truth
  else if isFloat t then float
  else if isInteger t then integer
  else if t = ("<<" : Text) then merge
  else if isNull t then null
  else if impliesMoment t then moment
  else if t = ("=" : Text) then value
  else if t ∈ (["!", "&", "*"] : List Text) then unknown
  else text

end ThemedCss.Yaml
