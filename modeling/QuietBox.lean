import QuietBox.Arguments
import QuietBox.Double.Basic
import QuietBox.Double.Reader
import QuietBox.Double.Rounding
import QuietBox.Double.Shortest
import QuietBox.Double.Single
import QuietBox.Double.Text
import QuietBox.Failure
import QuietBox.Format.Spec
import QuietBox.Format.SpecText
import QuietBox.Format.Structure
import QuietBox.Generic.Boxing
import QuietBox.Generic.HostType
import QuietBox.Generic.TypeText
import QuietBox.History
import QuietBox.Kind
import QuietBox.Literal.Integer
import QuietBox.Literal.Quoting
import QuietBox.Literal.WordLiteral
import QuietBox.Main
import QuietBox.Memory.Basic
import QuietBox.Memory.Machine
import QuietBox.Numeral
import QuietBox.Program
import QuietBox.Prompt
import QuietBox.Proofs.Double.Canonical
import QuietBox.Proofs.Double.GridSearch
import QuietBox.Proofs.Double.Nearest
import QuietBox.Proofs.Double.NumericEquality
import QuietBox.Proofs.Double.Power
import QuietBox.Proofs.Double.Region
import QuietBox.Proofs.Double.RoundTrip
import QuietBox.Proofs.Double.StructuralReading
import QuietBox.Proofs.Double.Widening
import QuietBox.Proofs.Generic.Dispatch
import QuietBox.Proofs.Generic.SingleBoxing
import QuietBox.Proofs.Lookup
import QuietBox.Proofs.Memory.Borrowing
import QuietBox.Proofs.Memory.Steps
import QuietBox.Proofs.Program.Agreement
import QuietBox.Proofs.Program.CommandLine
import QuietBox.Proofs.Program.IntegerArguments
import QuietBox.Proofs.Program.RadixChoice
import QuietBox.Proofs.Program.Settings
import QuietBox.Proofs.Prompt.Session
import QuietBox.Proofs.Report.Assertions
import QuietBox.Proofs.Report.AutoKind
import QuietBox.Proofs.Report.DoubleRoundTrip
import QuietBox.Proofs.Report.IntegerLiterals
import QuietBox.Proofs.Report.KindSoundness
import QuietBox.Proofs.Report.LineReading
import QuietBox.Proofs.Report.Refusal
import QuietBox.Proofs.Report.Success
import QuietBox.Proofs.Report.TaggedRoundTrip
import QuietBox.Proofs.Report.TextLiterals
import QuietBox.Proofs.Report.WordLiterals
import QuietBox.Proofs.Report.WordText
import QuietBox.Proofs.Request.Grammar
import QuietBox.Proofs.Results
import QuietBox.Proofs.Text.Blanks
import QuietBox.Proofs.Text.CanonicalIntegers
import QuietBox.Proofs.Text.IntegerReading
import QuietBox.Proofs.Text.NumberCharacters
import QuietBox.Proofs.Text.NumeralReading
import QuietBox.Proofs.Text.PipedLines
import QuietBox.Proofs.Text.PositionalReading
import QuietBox.Proofs.Text.QuotedLiterals
import QuietBox.Proofs.Text.QuotedText
import QuietBox.Proofs.Text.ScientificReading
import QuietBox.Proofs.Text.Utf8Reading
import QuietBox.Proofs.Word.Accessors
import QuietBox.Proofs.Word.AddressAssertion
import QuietBox.Proofs.Word.Classification
import QuietBox.Proofs.Word.FieldUpdate
import QuietBox.Proofs.Word.FormatSpecs
import QuietBox.Proofs.Word.Masks
import QuietBox.Proofs.Word.Partition
import QuietBox.Proofs.Word.PlainText
import QuietBox.Proofs.Word.Reserved
import QuietBox.Proofs.Word.SpareBits
import QuietBox.Proofs.Word.StructuralText
import QuietBox.Radix
import QuietBox.Report
import QuietBox.Request
import QuietBox.Settings
import QuietBox.Tag
import QuietBox.Text.Backspace
import QuietBox.Text.Blank
import QuietBox.Text.Cluster
import QuietBox.Text.Cluster.Break
import QuietBox.Text.Cluster.Conjunct
import QuietBox.Text.Cluster.Pictograph
import QuietBox.Text.Extender
import QuietBox.Text.Lines
import QuietBox.Text.Quoted
import QuietBox.Text.Ranges
import QuietBox.Text.Unprintable
import QuietBox.Text.Utf8
import QuietBox.Word.Access
import QuietBox.Word.Basic
import QuietBox.Word.Boxing
import QuietBox.Word.Layout
import QuietBox.Word.Text
