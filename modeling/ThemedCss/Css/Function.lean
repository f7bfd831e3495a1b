import ThemedCss.Fault
import ThemedCss.Value.Property

/-!
# Functions

Calls of the functions of style sheets, as texts for use in styles and themes.

* `Slot`: how one argument is written;
* `CssFunction`, `CssFunction.form`: the functions, and the form of each one's call;
* **`CssFunction.call`**: the text of a call, or why the arguments do not fit.
-/

namespace ThemedCss

/-- How an argument is written. -/
inductive Slot
  /-- As a property value; null as nothing. -/
  | number
  /-- As a property value with a percent sign. -/
  | percent
  /-- As the text of the value. -/
  | shown
  deriving DecidableEq

/-- An argument as its slot asks. -/
def Slot.write : Slot → Value → Text
  | number, v => v.css?.getD []
  | percent, v => v.css?.getD [] ++ "%"
  | shown, v => v.display

/-- The form of a call. -/
inductive Form
  /-- One argument for each slot; the last ones may be null or missing. -/
  | slots (separator : Text) (required optional : List Slot)
  /-- Texts to join: some that come first, and any number more. -/
  | texts (first : List Slot)
  /-- Texts to join with spaces: two, and two more that may be null or missing. -/
  | shadow
  /-- A method, two colours, and the share of the second one, which may be null or missing. -/
  | mix
  /-- A name, and a fallback that counts when it is true. -/
  | named
  /-- The name of a custom property, and a fallback that counts when it is true. -/
  | custom

/-- A function of style sheets. -/
inductive CssFunction
  | rgb | rgba | hsl | hsla | hwb | lab | lch | oklab | oklch | colorMix
  | calculation | min | max | clamp | minmax | fitContent | repetition
  | translate | translateX | translateY | rotate | scale | skew
  | blur | brightness | dropShadow | linearGradient | url
  | var | env | attr | counter
  deriving DecidableEq

namespace CssFunction

/-- The name that a call starts with. -/
def name : CssFunction → Text
  | rgb => "rgb"
  | rgba => "rgba"
  | hsl => "hsl"
  | hsla => "hsla"
  | hwb => "hwb"
  | lab => "lab"
  | lch => "lch"
  | oklab => "oklab"
  | oklch => "oklch"
  | colorMix => "color-mix"
  | calculation => "calc"
  | min => "min"
  | max => "max"
  | clamp => "clamp"
  | minmax => "minmax"
  | fitContent => "fit-content"
  | repetition => "repeat"
  | translate => "translate"
  | translateX => "translateX"
  | translateY => "translateY"
  | rotate => "rotate"
  | scale => "scale"
  | skew => "skew"
  | blur => "blur"
  | brightness => "brightness"
  | dropShadow => "drop-shadow"
  | linearGradient => "linear-gradient"
  | url => "url"
  | var => "var"
  | env => "env"
  | attr => "attr"
  | counter => "counter"

/-- The form of a function's call. -/
def form : CssFunction → Form
  | rgb => .slots ", " [.number, .number, .number] []
  | rgba => .slots ", " [.number, .number, .number, .number] []
  | hsl => .slots ", " [.number, .percent, .percent] []
  | hsla => .slots ", " [.number, .percent, .percent, .number] []
  | hwb => .slots " " [.number, .percent, .percent] []
  | lab | lch => .slots " " [.percent, .number, .number] []
  | oklab | oklch => .slots " " [.number, .number, .number] []
  | colorMix => .mix
  | calculation | fitContent | translateX | translateY | rotate | blur | url | attr =>
    .slots ", " [.shown] []
  | min | max => .texts []
  | clamp => .slots ", " [.shown, .shown, .shown] []
  | minmax | repetition | translate => .slots ", " [.shown, .shown] []
  | scale => .slots ", " [.number] [.number]
  | skew => .slots ", " [.shown] [.shown]
  | brightness => .slots ", " [.number] []
  | dropShadow => .shadow
  | linearGradient => .texts [.shown]
  | var => .custom
  | env | counter => .named

end CssFunction

namespace Form

/-- The texts that are to be joined; anything else cannot be. -/
def joinable (separator : Text) (values : List Value) : Except Fault Text := do
  let texts ← values.mapM fun
    | .scalar (.text t) => Except.ok t
    | _ => .error Fault.notJoinable
  return List.intercalate separator texts

/-- The values that are not null. -/
def present (values : List Value) : List Value :=
  values.filter fun
    | .scalar .null => false
    | _ => true

/-- A name, and behind it a fallback that counts when it is true. -/
def withFallback (name : Text) : List Value → Except Fault Text
  | [] => .ok name
  | [fallback] => .ok (if fallback.isTrue then name ++ ", " ++ fallback.display else name)
  | _ => .error .argument

/-- What stands between the parentheses of a call. -/
def arguments : Form → List Value → Except Fault Text
  | slots separator required optional, values =>
    if values.length < required.length ∨ required.length + optional.length < values.length then
      .error .argument
    else
      let given := values.take required.length ++ present (values.drop required.length)
      .ok (List.intercalate separator (List.zipWith Slot.write (required ++ optional) given))
  | texts first, values =>
    if values.length < first.length then .error .argument
    else do
      let others ← joinable ", " (values.drop first.length)
      return List.intercalate ", " (List.zipWith Slot.write first values ++ [others])
  | shadow, values =>
    if values.length < 2 ∨ 4 < values.length then .error .argument
    else joinable " " (values.take 2 ++ present (values.drop 2))
  | mix, values =>
    match values with
    | [method, first, second] =>
      .ok (List.intercalate ", " [method.display, first.display, second.display])
    | [method, first, second, share] =>
      let behind := (present [share]).flatMap fun v => ' ' :: Slot.percent.write v
      .ok (List.intercalate ", " [method.display, first.display, second.display ++ behind])
    | _ => .error .argument
  | named, values =>
    match values with
    | [] => .error .argument
    | name :: fallback => withFallback name.display fallback
  | custom, values =>
    match values with
    | [] => .error .argument
    | name :: fallback =>
      if 1 < fallback.length then .error .argument
      else match name with
        | .scalar (.text t) =>
          withFallback (if ("--" : Text).isPrefixOf t then t else "--" ++ t) fallback
        | _ => .error .notText

end Form

/-- The text of a call. -/
def CssFunction.call (f : CssFunction) (values : List Value) : Except Fault Text := do
  return f.name ++ "(" ++ (← f.form.arguments values) ++ ")"

end ThemedCss
