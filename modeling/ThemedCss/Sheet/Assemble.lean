import ThemedCss.Css.Block
import ThemedCss.Value.Items
import ThemedCss.Variable.Store

/-!
# Assembling a style sheet

The variables of the light mode, those of the dark mode in a media query, and chunks of rules.

* `Sheet.Options`: the media query and the indentation;
* `Sheet.rootLines`, `Sheet.darkLines`: the blocks of the variables;
* **`Sheet.assemble`**: the blocks with blank lines between them and a line feed at the end;
* `Sheet.innerIndent`: what stands in front of a declaration inside two blocks.
-/

namespace ThemedCss.Sheet

/-- The media query of the dark mode, unless another one is asked for. -/
def darkQuery : Text := "(prefers-color-scheme: dark)"

/-- How a style sheet is assembled. -/
structure Options where
  /-- Whether the chunks of rules follow the variables. -/
  includeStyles : Bool := true
  /-- The media query around the variables of the dark mode. -/
  mediaQuery : Text := darkQuery
  /-- What declarations are indented by. -/
  indent : Text := "  "

/-- The declarations of variables. -/
def declarations (indent : Text) (b : Bindings) : List Text :=
  b.entries.map fun (name, value) => Block.declaration indent name value

/-- The variables that hold in the light mode: those of the root, under those of light. -/
def lightBindings (s : Store) : Bindings := s.root.overlay s.light

/-- The block of the variables that hold in the light mode. -/
def rootLines (o : Options) (s : Store) : List Text :=
  Block.lines ":root" (declarations o.indent (lightBindings s))

/-- The block of the variables of the dark mode, in its media query, when the declarations have an
indentation of their own. -/
def darkLinesWithin (o : Options) (inner : Text) (s : Store) : List Text :=
  Block.lines ("@media " ++ o.mediaQuery) <|
    (o.indent ++ Block.opening ":root") :: declarations inner s.dark ++ [o.indent ++ Block.closing]

/-- The block of the variables of the dark mode, in its media query. -/
def darkLines (o : Options) (s : Store) : List Text :=
  darkLinesWithin o (o.indent ++ o.indent) s

/-- The style sheet of a store and chunks of rules around the block of the dark mode. -/
def assembleAround (o : Options) (dark : List Text) (s : Store) (chunks : List Text) : Text :=
  let themes := [Text.unlines (rootLines o s)] ++
    (if s.dark.isEmpty then [] else [Text.unlines dark])
  let rules := if o.includeStyles then chunks.filter (· ≠ []) else []
  List.intercalate "\n\n" (themes ++ rules) ++ "\n"

/-- The style sheet of a store and chunks of rules. -/
def assemble (o : Options) (s : Store) (chunks : List Text) : Text :=
  assembleAround o (darkLines o s) s chunks

/-! ## Indentations of any kind -/

/-- The indentation of the declarations of the dark mode, when there are any: an indentation of any
kind twice. -/
def innerIndent (indent : Value) (s : Store) : Except Fault Text :=
  if s.dark.isEmpty then .ok [] else Value.display <$> indent.twice

end ThemedCss.Sheet
