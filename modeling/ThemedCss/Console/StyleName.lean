import ThemedCss.Fault
import ThemedCss.Text.Blank
import ThemedCss.Text.DecimalDigit
import ThemedCss.Text.SmallForm

/-!
# Names of styles

A tag names a style by words: switches such as `bold` and `not dim`, a colour, a colour behind
`on`, and an address behind `link`. Names with the same effect have the same normal form.

* `StyleName.isColor`: the spellings of colours;
* `StyleName.read`: the words of a name;
* **`StyleName.normal`**: the normal form of a name.
-/

namespace ThemedCss

/-- A style as the words of its name give it. -/
structure StyleName where
  /-- The switches that are on or off; the first entry for one counts. -/
  switches : List (Text × Bool) := []
  color : Option Text := none
  background : Option Text := none
  link : Option Text := none
  deriving DecidableEq

namespace StyleName

/-! ## Colours -/

/-- The names of colours. -/
def colorNames : List Text := Text.words
  "black red green yellow blue magenta cyan white bright_black bright_red bright_green
  bright_yellow bright_blue bright_magenta bright_cyan bright_white grey0 gray0 navy_blue
  dark_blue blue3 blue1 dark_green deep_sky_blue4 dodger_blue3 dodger_blue2 green4 spring_green4
  turquoise4 deep_sky_blue3 dodger_blue1 green3 spring_green3 dark_cyan light_sea_green
  deep_sky_blue2 deep_sky_blue1 spring_green2 cyan3 dark_turquoise turquoise2 green1
  spring_green1 medium_spring_green cyan2 cyan1 dark_red deep_pink4 purple4 purple3 blue_violet
  orange4 grey37 gray37 medium_purple4 slate_blue3 royal_blue1 chartreuse4 dark_sea_green4
  pale_turquoise4 steel_blue steel_blue3 cornflower_blue chartreuse3 cadet_blue sky_blue3
  steel_blue1 pale_green3 sea_green3 aquamarine3 medium_turquoise chartreuse2 sea_green2
  sea_green1 aquamarine1 dark_slate_gray2 dark_magenta dark_violet purple light_pink4 plum4
  medium_purple3 slate_blue1 yellow4 wheat4 grey53 gray53 light_slate_grey light_slate_gray
  medium_purple light_slate_blue dark_olive_green3 dark_sea_green light_sky_blue3 sky_blue2
  dark_sea_green3 dark_slate_gray3 sky_blue1 chartreuse1 light_green pale_green1
  dark_slate_gray1 red3 medium_violet_red magenta3 dark_orange3 indian_red hot_pink3
  medium_orchid3 medium_orchid medium_purple2 dark_goldenrod light_salmon3 rosy_brown grey63
  gray63 medium_purple1 gold3 dark_khaki navajo_white3 grey69 gray69 light_steel_blue3
  light_steel_blue yellow3 dark_sea_green2 light_cyan3 light_sky_blue1 green_yellow
  dark_olive_green2 dark_sea_green1 pale_turquoise1 deep_pink3 magenta2 hot_pink2 orchid
  medium_orchid1 orange3 light_pink3 pink3 plum3 violet light_goldenrod3 tan misty_rose3
  thistle3 plum2 khaki3 light_goldenrod2 light_yellow3 grey84 gray84 light_steel_blue1 yellow2
  dark_olive_green1 honeydew2 light_cyan1 red1 deep_pink2 deep_pink1 magenta1 orange_red1
  indian_red1 hot_pink dark_orange salmon1 light_coral pale_violet_red1 orchid2 orchid1 orange1
  sandy_brown light_salmon1 light_pink1 pink1 plum1 gold1 navajo_white1 misty_rose1 thistle1
  yellow1 light_goldenrod1 khaki1 wheat1 cornsilk1 grey100 gray100 grey3 gray3 grey7 gray7
  grey11 gray11 grey15 gray15 grey19 gray19 grey23 gray23 grey27 gray27 grey30 gray30 grey35
  gray35 grey39 gray39 grey42 gray42 grey46 gray46 grey50 gray50 grey54 gray54 grey58 gray58
  grey62 gray62 grey66 gray66 grey70 gray70 grey74 gray74 grey78 gray78 grey82 gray82 grey85
  gray85 grey89 gray89 grey93 gray93"

/-- The digits of a number from 0 to 255. -/
def isByte (digits : Text) : Bool :=
  let n := (digits.map Text.asciiDigit).foldl (fun n c => n * 10 + (c.toNat - 48)) 0
  n ≤ 255

/-- Whether a code point is a decimal digit of some script. -/
def isDigit (c : Char) : Bool := (Text.asciiDigit c).isDigit

/-- Six hexadecimal digits in small letters. -/
def isHex (digits : Text) : Bool :=
  digits.length = 6 && digits.all fun c => c.isDigit || ('a' ≤ c && c ≤ 'f')

/-- What stands between an opening with its parenthesis and a closing one at the end. -/
def between? (opening t : Text) : Option Text := do
  let inner ← opening.isPrefixOf? t
  if inner.getLast? = some ')' then some inner.dropLast else none

/-- The parts between commas. -/
def parts : Text → List Text
  | [] => [[]]
  | c :: t => if c = ',' then [] :: parts t else Text.consHead c (parts t)

/-- Whether three parts with digits are a colour; a part without digits is a fault. -/
def isTriple (inner : Text) : Except Fault Bool :=
  if inner = [] || !inner.all fun c => isDigit c || c = ',' then .ok false
  else
    let components := parts inner
    if components.length ≠ 3 then .ok false
    else if components.any (· = []) then .error (.unreadableInteger 10 [])
    else .ok (components.all isByte)

/-- Whether a word in small letters is a colour. -/
def isColor (word : Text) : Except Fault Bool :=
  if word = "default".toList || word ∈ colorNames then .ok true
  else match ("#".toList).isPrefixOf? word, between? "color(" word, between? "rgb(" word with
    | some digits, _, _ => .ok (isHex digits)
    | _, some digits, _ =>
      .ok (1 ≤ digits.length && digits.length ≤ 3 && digits.all Char.isDigit && isByte digits)
    | _, _, some inner => isTriple inner
    | _, _, _ => .ok false

/-! ## Switches -/

/-- The switches, in the order in which a normal form has them. -/
def switchNames : List Text :=
  ["bold", "dim", "italic", "underline", "blink", "blink2", "reverse", "conceal", "strike",
    "underline2", "frame", "encircle", "overline"]

/-- The short names of switches. -/
def shortNames : List (Text × Text) :=
  [("b", "bold"), ("d", "dim"), ("i", "italic"), ("u", "underline"), ("r", "reverse"),
    ("c", "conceal"), ("s", "strike"), ("uu", "underline2"), ("o", "overline")]

/-- The switch that a word names. -/
def switch? (word : Text) : Option Text :=
  if word ∈ switchNames then some word else shortNames.lookup word

/-! ## Whole names -/

/-- The style that some words name, on top of another; `none` when they name none. -/
def read (s : StyleName) : List Text → Except Fault (Option StyleName)
  | [] => .ok (some s)
  | word :: rest =>
    let small := Text.small word
    if small = "on".toList then
      match rest with
      | [] => .ok none
      | color :: rest => do
        if ← isColor (Text.small color) then
          read { s with background := some (Text.small color) } rest
        else return none
    else if small = "not".toList then
      match rest with
      | [] => .ok none
      | name :: rest =>
        match switch? name with
        | some name => read { s with switches := (name, false) :: s.switches } rest
        | none => .ok none
    else if small = "link".toList then
      match rest with
      | [] => .ok none
      | address :: rest => read { s with link := some address } rest
    else
      match switch? small with
      | some name => read { s with switches := (name, true) :: s.switches } rest
      | none => do
        if ← isColor small then read { s with color := some small } rest else return none

/-- The words of a style in their order. -/
def write (s : StyleName) : Text :=
  let switches := switchNames.filterMap fun name =>
    (s.switches.lookup name).map fun isOn => if isOn then name else "not " ++ name
  let words := switches ++ s.color.toList ++ s.background.toList.map ("on ".toList ++ ·) ++
    s.link.toList.map ("link ".toList ++ ·)
  if words = [] then "none" else List.intercalate " " words

/-- The normal form of a name; one that names no style keeps its words. -/
def normal (name : Text) : Except Fault Text := do
  match ← read {} (Text.words name) with
  | some s => return s.write
  | none => return Text.small (Text.strip name)

end StyleName

end ThemedCss
