import ThemedCss.Fault

/-!
# Themes

The partitions of the theme variables, and the two readings of the keys `light` and `dark`.

* `Mode`: root, light and dark, in this order;
* `ThemeKeys`: whether `light` and `dark` scope what is below them or are ordinary names;
* `Mode.ofThemeKey?`: the mode that a theme key names.
-/

namespace ThemedCss

/-- A partition of the theme variables. -/
inductive Mode
  | root
  | light
  | dark
  deriving DecidableEq

namespace Mode

/-- The partitions in their order. -/
def all : List Mode := [root, light, dark]

/-- The name of a partition. -/
def name : Mode → Text
  | root => "root"
  | light => "light"
  | dark => "dark"

/-- The partition with a given name. -/
def ofName (t : Text) : Except Fault Mode :=
  match all.find? fun m => m.name = t with
  | some m => .ok m
  | none => .error (.unknownMode t.quoted)

/-- The partition that a value names. -/
def ofValue : Value → Except Fault Mode
  | .scalar (.text t) => ofName t
  | v => .error (.unknownMode v.literal)

/-- The mode that a key names, when it is a theme key. -/
def ofThemeKey? (key : Text) : Option Mode :=
  if key = light.name then some light else if key = dark.name then some dark else none

theorem ofName_name (m : Mode) : ofName m.name = .ok m := by cases m <;> rfl

theorem ofThemeKey?_eq_some {key : Text} {m : Mode} :
    ofThemeKey? key = some m ↔ key = m.name ∧ m ≠ root := by
  unfold ofThemeKey?
  split
  · subst_vars; cases m <;> decide
  · split
    · subst_vars; cases m <;> decide
    · cases m <;> simp_all

end Mode

/-- How a literal `light` or `dark` key is read. -/
inductive ThemeKeys
  /-- The key scopes what is below it. -/
  | scope
  /-- The key is an ordinary name. -/
  | literal
  deriving DecidableEq

namespace ThemeKeys

/-- The name of a reading. -/
def name : ThemeKeys → Text
  | scope => "scope"
  | literal => "literal"

/-- The reading with a given name. -/
def ofName (t : Text) : Except Fault ThemeKeys :=
  match [scope, literal].find? fun k => k.name = t with
  | some k => .ok k
  | none => .error (.unknownThemeKeys t.quoted)

/-- The reading that a value names. -/
def ofValue : Value → Except Fault ThemeKeys
  | .scalar (.text t) => ofName t
  | v => .error (.unknownThemeKeys v.literal)

end ThemeKeys

end ThemedCss
