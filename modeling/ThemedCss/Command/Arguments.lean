import ThemedCss.Command

/-!
# Arguments of commands

Options may stand anywhere among the arguments of a command. A long option takes its value behind
an equals sign or from the next argument; short ones can be written together, and the last of
them may take a value. Two hyphens alone end the options.

* `Command.Option_`, `Command.Given`: the options that there are, and what was given;
* `Command.scan`: the options and the other arguments;
* **`Command.ofArguments?`**: the command that some arguments spell.
-/

namespace ThemedCss.Command

/-- An option: its names, and whether it takes a value. -/
structure Option_ where
  long : Text
  short : Option Char := none
  takesValue : Bool := false
  deriving DecidableEq

/-- What was given: options with their values, and other arguments. -/
structure Given where
  options : List (Text × Text) := []
  others : List Text := []

namespace Given

/-- One more option; of the values of one option the last one counts. -/
def add (g : Given) (o : Option_) (value : Text) : Given :=
  { g with options := (o.long, value) :: g.options }

/-- Some more arguments that are no options. -/
def addOthers (g : Given) (arguments : List Text) : Given :=
  { g with others := g.others ++ arguments }

/-- Whether an option was given. -/
def has (g : Given) (long : Text) : Bool := g.options.any (·.1 = long)

end Given

/-- The path that a text spells; no file has a name with the null control. -/
def pathOf? (t : Text) : Option Path := if '\x00' ∈ t then none else some (Path.ofText t)

/-- The path that an option was given, if it was given any. -/
def Given.path? (g : Given) (long : Text) : Option (Option Path) :=
  match g.options.find? (·.1 = long) with
  | some (_, value) => (pathOf? value).map some
  | none => some none

/-- What was given, and the arguments behind it. -/
abbrev Scanned := Option (Given × List Text)

/-- An option whose value stands behind it. -/
def withNext (g : Given) (o : Option_) : List Text → Scanned
  | value :: rest => some (g.add o value, rest)
  | [] => none

/-- Short options that are written together. -/
def cluster (options : List Option_) (g : Given) (rest : List Text) : Text → Scanned
  | [] => some (g, rest)
  | c :: letters =>
    match options.find? (·.short = some c) with
    | none => none
    | some o =>
      if !o.takesValue then cluster options (g.add o []) rest letters
      else if letters = [] then withNext g o rest
      else some (g.add o letters, rest)

/-- The option that an argument with a hyphen spells. -/
def option (options : List Option_) (g : Given) (argument : Text) (rest : List Text) : Scanned :=
  let (long, attached) := argument.span (· ≠ '=')
  match options.find? (·.long = long) with
  | some o =>
    match o.takesValue, attached with
    | true, _ :: value => some (g.add o value, rest)
    | true, [] => withNext g o rest
    | false, [] => some (g.add o [], rest)
    | false, _ :: _ => none
  | none =>
    if ("--".toList).isPrefixOf argument then none else cluster options g rest (argument.drop 1)

/-- Whether an argument spells an option. -/
def isOption (argument : Text) : Bool := argument.head? = some '-' && 1 < argument.length

/-- The options among some arguments, and the other arguments. -/
def scan (options : List Option_) (g : Given) (arguments : List Text) : Option Given :=
  match arguments with
  | [] => some g
  | argument :: rest =>
    if argument = ("--".toList) then some (g.addOthers rest)
    else if isOption argument then
      match option options g argument rest with
      | none => none
      | some (g, behind) =>
        if _h : behind.length < rest.length + 1 then scan options g behind else none
    else scan options (g.addOthers [argument]) rest
termination_by arguments.length

/-! ## Commands -/

/-- The option for a settings file. -/
def configOption : Option_ := { long := "--config", short := some 'c', takesValue := true }

/-- The options for building. -/
def buildOptions : List Option_ :=
  [{ long := "--output", short := some 'o', takesValue := true }, configOption,
    { long := "--no-styles" }, { long := "--no-dedupe" },
    { long := "--verbose", short := some 'v' }]

/-- The options for listing. -/
def listOptions : List Option_ := [configOption, { long := "--json" }]

/-- The option for the version. -/
def versionOption : Text := "--version"

/-- The one argument that is no option, as a path. -/
def Given.source? (g : Given) : Option Path :=
  match g.others with
  | [source] => pathOf? source
  | _ => none

/-- The command for building. -/
def build? (arguments : List Text) : Option Command := do
  let g ← scan buildOptions {} arguments
  return .build
    { source := ← g.source?
      output := ← g.path? "--output"
      config := ← g.path? "--config"
      noStyles := g.has "--no-styles"
      noDedupe := g.has "--no-dedupe"
      verbose := g.has "--verbose" }

/-- The command for listing. -/
def list? (arguments : List Text) : Option Command := do
  let g ← scan listOptions {} arguments
  return .list
    { source := ← g.source?
      config := ← g.path? "--config"
      json := g.has "--json" }

/-- The command of a name. -/
def named? : List Text → Option Command
  | [] => none
  | name :: arguments =>
    if name = ("build".toList) then build? arguments
    else if name = ("vars".toList) then list? arguments
    else none

/-- The options in front of the name of a command, none of which takes a value. -/
def leadingOptions : List Text :=
  [versionOption, "--help", "--install-completion", "--show-completion"]

/-- Whether the options in front of the name of a command are all known. -/
def leadingOptionsAreKnown : List Text → Bool
  | [] => true
  | argument :: rest =>
    if argument ∈ leadingOptions then leadingOptionsAreKnown rest
    else argument = ("--".toList) || !isOption argument

/-- The command for the version, when it is the first option in front of a name. -/
def version? : List Text → Option Command
  | argument :: rest =>
    if argument = versionOption && leadingOptionsAreKnown rest then some .version else none
  | [] => none

/-- The command that some arguments spell; the version comes before any other. Behind two hyphens
stands the name of a command, or else an option for the program itself. -/
def ofArguments? : List Text → Option Command
  | [] => none
  | argument :: rest =>
    if argument = ("--".toList) then (named? rest).or (version? rest)
    else if isOption argument then version? (argument :: rest)
    else named? (argument :: rest)

end ThemedCss.Command
