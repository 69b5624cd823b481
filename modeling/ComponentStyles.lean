import ComponentStyles.Main
import ComponentStyles.Proofs.Stylesheet.Alike
import ComponentStyles.Proofs.Variable.Usage
import ComponentStyles.Proofs.Variable.Evaluation
import ComponentStyles.Proofs.Variable.Expansion
import ComponentStyles.Proofs.Variable.Cycle
import ComponentStyles.Proofs.Scope.Names
import ComponentStyles.Proofs.Stylesheet.Matching
import ComponentStyles.Proofs.Text.Words
import ComponentStyles.Proofs.Scope.Attributes
import ComponentStyles.Proofs.Scope.Matching
import ComponentStyles.Proofs.Scope.Collision
import ComponentStyles.Proofs.Variable.Following
import ComponentStyles.Proofs.Variable.Agreement
import ComponentStyles.Proofs.Variable.Relocation
import ComponentStyles.Proofs.Component.Written
import ComponentStyles.Proofs.Component.Located
import ComponentStyles.Proofs.Build.Imports
import ComponentStyles.Proofs.Build.Overwriting
import ComponentStyles.Proofs.Build.Verdict
import ComponentStyles.Proofs.Stylesheet.Stability
import ComponentStyles.Proofs.Template.Reread
import ComponentStyles.Proofs.Template.Built
import ComponentStyles.Proofs.Stylesheet.Reread.Printable
import ComponentStyles.Proofs.Component.Names
import ComponentStyles.Proofs.Reference.Relocation
import ComponentStyles.Proofs.Scope.Map
import ComponentStyles.Proofs.Stylesheet.Spacing
import ComponentStyles.Proofs.Stylesheet.Braces.Ending
import ComponentStyles.Proofs.Variable.Collection
import ComponentStyles.Proofs.Variable.Report
import ComponentStyles.Proofs.Variable.Silence
import ComponentStyles.Proofs.Stylesheet.Shifted.Statement
import ComponentStyles.Proofs.Build.SelectorTables
import ComponentStyles.Proofs.Scope.Run
import ComponentStyles.Proofs.Token.Munch
import ComponentStyles.Proofs.Stylesheet.Spans.Statement
import ComponentStyles.Proofs.Source.Positions
import ComponentStyles.Proofs.Json.Comment
import ComponentStyles.Proofs.Build.Joining
import ComponentStyles.Proofs.Template.Progress
import ComponentStyles.Proofs.Path.Normal
import ComponentStyles.Proofs.Variable.Origin
import ComponentStyles.Proofs.Stylesheet.Regular.Reading
