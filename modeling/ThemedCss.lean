import ThemedCss.Text.Blank
import ThemedCss.Text.Kebab
import ThemedCss.Text.Quoted
import ThemedCss.Number.Written
import ThemedCss.Value.Property
import ThemedCss.Style.Compile
import ThemedCss.Document.Json
import ThemedCss.Css.Function
import ThemedCss.Css.Piece
import ThemedCss.Css.Unit
import ThemedCss.Variable.Name
import ThemedCss.Variable.Reference
import ThemedCss.Variable.Store
import ThemedCss.Variable.Usage
import ThemedCss.Variable.Collect
import ThemedCss.Cache
import ThemedCss.Sheet.Assemble
import ThemedCss.Sheet.Merge
import ThemedCss.Cache.Key
import ThemedCss.Config.Check
import ThemedCss.Session
import ThemedCss.Source
import ThemedCss.Document.Yaml.Scalar
import ThemedCss.Document.Yaml.Token
import ThemedCss.Document.Calendar
import ThemedCss.Document.Yaml
import ThemedCss.Document.Toml
import ThemedCss.Source.Load
import ThemedCss.Config.File
import ThemedCss.Log.Session
import ThemedCss.Command.Run
import ThemedCss.Command.Show
import ThemedCss.Main
import ThemedCss.Cache.Mixed
import ThemedCss.Value.Decimal
import ThemedCss.Proofs.Session.Meaning
import ThemedCss.Proofs.Sheet.Merging
import ThemedCss.Proofs.Style.Flattening
import ThemedCss.Proofs.Style.Union
import ThemedCss.Proofs.Session.Repetition
import ThemedCss.Proofs.Session.Counting
import ThemedCss.Proofs.Session.Bare
import ThemedCss.Proofs.Session.Cycle
import ThemedCss.Proofs.Variable.Expansion
import ThemedCss.Proofs.Session.Timing
import ThemedCss.Proofs.Sheet.Assembled
import ThemedCss.Proofs.Session.MergedSheet
import ThemedCss.Cache.Request
import ThemedCss.Proofs.Cache.Comment
import ThemedCss.Proofs.Cache.RoundTrip
import ThemedCss.Proofs.Session.Cached
import ThemedCss.Proofs.Session.ThemeReferences
import ThemedCss.Proofs.Cache.Recency
import ThemedCss.Proofs.Cache.Key
import ThemedCss.Proofs.Session.Fresh
import ThemedCss.Proofs.Session.Malformed
import ThemedCss.Proofs.Session.InlineReferences
import ThemedCss.Proofs.Session.Division
import ThemedCss.Proofs.Style.ParentReference
import ThemedCss.Proofs.Variable.Hoisting
import ThemedCss.Proofs.Selector.Nesting
import ThemedCss.Proofs.Selector.Cut
import ThemedCss.Proofs.Style.Layers
import ThemedCss.Proofs.Style.ColorScheme
import ThemedCss.Proofs.Session.Failure
import ThemedCss.Proofs.Variable.Wrapping
import ThemedCss.Proofs.Sheet.ReadBack
import ThemedCss.Proofs.Sheet.Remerging
import ThemedCss.Proofs.Variable.Outermost
import ThemedCss.Proofs.Variable.LastWrite
import ThemedCss.Proofs.Config.Discovery
import ThemedCss.Proofs.Document.Indented
import ThemedCss.Proofs.Command.Listing
