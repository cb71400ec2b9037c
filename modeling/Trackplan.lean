import Trackplan.Text.Clip
import Trackplan.Text.Escape
import Trackplan.Text.Lowercase
import Trackplan.Text.Occurrence
import Trackplan.Text.Trim
import Trackplan.Expr.Soundness
import Trackplan.Expr.Peg
import Trackplan.Name
import Trackplan.Diagram.OfExpr
import Trackplan.Plan
import Trackplan.Drawing
import Trackplan.Contents
import Trackplan.Grammar.Diagram
import Trackplan.Grammar.References
import Trackplan.Python
import Trackplan.Likeness
import Trackplan.Search.ByText
import Trackplan.Unicode.ByName
import Trackplan.Regex.Escape
import Trackplan.Regex.Pattern
import Trackplan.Regex.Bracket
import Trackplan.Regex.Reading
import Trackplan.Regex
import Trackplan.Search.ByPattern
import Trackplan.Diagram.Json
import Trackplan.CommandLine.Audit
import Trackplan.CommandLine.Run
import Trackplan.Main
import Trackplan.Proofs.Arrangement
import Trackplan.Proofs.Bounds
import Trackplan.Proofs.Continuity
import Trackplan.Proofs.Separation
import Trackplan.Proofs.Glyphs
import Trackplan.Proofs.Leaves
import Trackplan.Proofs.Lines
import Trackplan.Proofs.Language
import Trackplan.Proofs.Meaning
import Trackplan.Proofs.Labels
import Trackplan.Proofs.Sizes
import Trackplan.Proofs.Definitions
import Trackplan.Proofs.References
import Trackplan.Proofs.Readability
import Trackplan.Proofs.Validity
import Trackplan.Proofs.Soundness
import Trackplan.Proofs.Grouping
import Trackplan.Proofs.Closure
import Trackplan.Proofs.Selection
import Trackplan.Proofs.Printing
import Trackplan.Proofs.Pages
import Trackplan.Proofs.Assembly
import Trackplan.Proofs.Faults
import Trackplan.Proofs.Wholeness
import Trackplan.Proofs.Traces
import Trackplan.Proofs.Frames
import Trackplan.Proofs.Cells
import Trackplan.Proofs.Verdict
import Trackplan.Proofs.Ranking
import Trackplan.Proofs.Suggestions
import Trackplan.Proofs.IgnoredCase
import Trackplan.Proofs.ArgumentOrder
import Trackplan.Proofs.Sections
import Trackplan.Proofs.UsageLines
import Trackplan.Proofs.Placeholder
import Trackplan.Proofs.Trimming
