import Highlighter.Context
import Highlighter.Translator
import Highlighter.Proofs.Keyed
import Highlighter.Proofs.Offsets
import Highlighter.Proofs.Matchers
import Highlighter.Proofs.Unicode.Ranges
import Highlighter.Proofs.Unicode.WordChars
import Highlighter.Proofs.Regex.Passage
import Highlighter.Proofs.Regex.Preference
import Highlighter.Proofs.Regex.Choice
import Highlighter.Proofs.Words.Reading
import Highlighter.Proofs.Words.Finding
import Highlighter.Proofs.Words.Boundary
import Highlighter.Proofs.Text.Escaping
import Highlighter.Proofs.Text.Entities
import Highlighter.Proofs.Text.Readable
import Highlighter.Proofs.Rules
import Highlighter.Proofs.Builder
import Highlighter.Proofs.Transformer
import Highlighter.Proofs.Context
import Highlighter.Proofs.Scan.Step
import Highlighter.Proofs.Scan.Run
import Highlighter.Proofs.Scan.Registration
import Highlighter.Proofs.Scan.Stream
import Highlighter.Proofs.Scan.Length
import Highlighter.Proofs.Scan.Calls
import Highlighter.Proofs.Scan.Priority
import Highlighter.Proofs.Scan.Asking
import Highlighter.Proofs.Scan.Ending
import Highlighter.Proofs.Scan.Tiling
import Highlighter.Proofs.Scan.Comparison
import Highlighter.Proofs.Scan.Extension
import Highlighter.Proofs.Scan.Marking
import Highlighter.Proofs.Scan.Hook
import Highlighter.Proofs.Scan.Progress
import Highlighter.Proofs.Words.Lexemes
import Highlighter.Proofs.Tree.Rendering
import Highlighter.Proofs.Tree.Delivery
import Highlighter.Proofs.Tree.Joining
import Highlighter.Proofs.Tree.Input
import Highlighter.Proofs.Tree.Leaves
import Highlighter.Proofs.Tree.TextContent
import Highlighter.Proofs.Tree.Normal
import Highlighter.Proofs.Tree.Grouping
import Highlighter.Proofs.Tree.Legible
import Highlighter.Proofs.Tree.Unambiguous
import Highlighter.Proofs.Translation.Outcome
import Highlighter.Proofs.Translation.Disciplines
import Highlighter.Proofs.Translation.NormalForm
import Highlighter.Proofs.Translation.Highlighting
import Highlighter.Proofs.Translation.Markup
import Highlighter.Proofs.Translation.AllOrNothing
import Highlighter.Proofs.Json.Lists
import Highlighter.Proofs.Json.Numbers
import Highlighter.Proofs.Json.Strings
import Highlighter.Proofs.Json.Records
import Highlighter.Proofs.Json.RoundTrip
import Highlighter.Proofs.Context.FiniteMap
import Highlighter.Proofs.Tree.Attributes
import Highlighter.Proofs.Spans
