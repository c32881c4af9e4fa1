import Appraisal.Action.Basic
import Appraisal.Action.Breakdown
import Appraisal.Action.Compute
import Appraisal.Action.Modifiers
import Appraisal.Binary.Codec
import Appraisal.Binary.Digest
import Appraisal.Binary.Formula
import Appraisal.Binary.Image
import Appraisal.Binary.Integer
import Appraisal.Binary.Rule
import Appraisal.CharSet.Basic
import Appraisal.CharSet.Folding
import Appraisal.CharSet.Listing
import Appraisal.Condition.Basic
import Appraisal.Condition.Eval
import Appraisal.Condition.Operator
import Appraisal.Condition.Patterns
import Appraisal.Context.Basic
import Appraisal.Context.Fields
import Appraisal.Formula.Arithmetic
import Appraisal.Formula.Builtin
import Appraisal.Formula.Call
import Appraisal.Formula.Complaint
import Appraisal.Formula.Diagnostic
import Appraisal.Formula.Error
import Appraisal.Formula.Eval
import Appraisal.Formula.Expr
import Appraisal.Formula.Fault
import Appraisal.Formula.Lexer
import Appraisal.Formula.Operator
import Appraisal.Formula.Parse
import Appraisal.Formula.Parser
import Appraisal.Formula.Phrase
import Appraisal.Formula.References
import Appraisal.Formula.Token
import Appraisal.Json.Basic
import Appraisal.Json.Reader
import Appraisal.Json.Record
import Appraisal.Json.Stream
import Appraisal.Json.Writer
import Appraisal.Number.Integer
import Appraisal.Number.Layout
import Appraisal.Number.Reading
import Appraisal.Number.Scaled
import Appraisal.Number.Shortest
import Appraisal.Outcome
import Appraisal.Pattern.Automaton
import Appraisal.Pattern.Basic
import Appraisal.Pattern.Bracket
import Appraisal.Pattern.Escape
import Appraisal.Pattern.Extent
import Appraisal.Pattern.Reader
import Appraisal.Pattern.Scan
import Appraisal.Pattern.Simplify
import Appraisal.Pattern.Utf8
import Appraisal.Proofs.Action.Breakdown
import Appraisal.Proofs.Action.Isolation
import Appraisal.Proofs.Action.Keys
import Appraisal.Proofs.Action.Locality
import Appraisal.Proofs.Binary.Acceptance
import Appraisal.Proofs.Binary.Bounds
import Appraisal.Proofs.Binary.Codec
import Appraisal.Proofs.Binary.Corruption
import Appraisal.Proofs.Binary.Decoder
import Appraisal.Proofs.Binary.Delimited
import Appraisal.Proofs.Binary.Extent
import Appraisal.Proofs.Binary.Formula
import Appraisal.Proofs.Binary.Image
import Appraisal.Proofs.Binary.Payload
import Appraisal.Proofs.Binary.Rule
import Appraisal.Proofs.Condition.Combinators
import Appraisal.Proofs.Condition.Operators
import Appraisal.Proofs.Context.Insertion
import Appraisal.Proofs.Context.Leaves
import Appraisal.Proofs.Context.Listing
import Appraisal.Proofs.Context.Paths
import Appraisal.Proofs.Context.Spelling
import Appraisal.Proofs.Formula.Abort
import Appraisal.Proofs.Formula.Chains
import Appraisal.Proofs.Formula.Clamping
import Appraisal.Proofs.Formula.Completeness
import Appraisal.Proofs.Formula.Counter
import Appraisal.Proofs.Formula.Cutting
import Appraisal.Proofs.Formula.Derivation
import Appraisal.Proofs.Formula.Display
import Appraisal.Proofs.Formula.Division
import Appraisal.Proofs.Formula.Divisor
import Appraisal.Proofs.Formula.Extremes
import Appraisal.Proofs.Formula.Faults
import Appraisal.Proofs.Formula.FieldReads
import Appraisal.Proofs.Formula.Grammar
import Appraisal.Proofs.Formula.Limits
import Appraisal.Proofs.Formula.Lint
import Appraisal.Proofs.Formula.Locality
import Appraisal.Proofs.Formula.Names
import Appraisal.Proofs.Formula.Parts
import Appraisal.Proofs.Formula.Placement
import Appraisal.Proofs.Formula.Positions
import Appraisal.Proofs.Formula.Reach
import Appraisal.Proofs.Formula.Reading
import Appraisal.Proofs.Formula.RoundTrip
import Appraisal.Proofs.Formula.Rounding
import Appraisal.Proofs.Formula.Sandbox
import Appraisal.Proofs.Formula.Schema
import Appraisal.Proofs.Formula.Spelling
import Appraisal.Proofs.Formula.Tasks
import Appraisal.Proofs.Formula.WholeNumbers
import Appraisal.Proofs.Formula.Words
import Appraisal.Proofs.Formula.Writing
import Appraisal.Proofs.Number.Decimal
import Appraisal.Proofs.Number.FixedPoint
import Appraisal.Proofs.Number.Integer
import Appraisal.Proofs.Number.Magnitude
import Appraisal.Proofs.Number.Natural
import Appraisal.Proofs.Number.Nearest
import Appraisal.Proofs.Number.Order
import Appraisal.Proofs.Number.Packing
import Appraisal.Proofs.Number.Power
import Appraisal.Proofs.Number.Rounding
import Appraisal.Proofs.Number.Shortest
import Appraisal.Proofs.Number.Tens
import Appraisal.Proofs.Number.Whole
import Appraisal.Proofs.Outcome
import Appraisal.Proofs.RuleSet.Abort
import Appraisal.Proofs.RuleSet.Accounting
import Appraisal.Proofs.RuleSet.Admission
import Appraisal.Proofs.RuleSet.Agreement
import Appraisal.Proofs.RuleSet.Compile
import Appraisal.Proofs.RuleSet.Locality
import Appraisal.Proofs.RuleSet.Ordering
import Appraisal.Proofs.RuleSet.Patterns
import Appraisal.Proofs.Text.Lowercase
import Appraisal.Proofs.Value.Consistency
import Appraisal.Proofs.Value.Order
import Appraisal.Property.Age
import Appraisal.Property.Boundary
import Appraisal.Property.Category
import Appraisal.Property.Derived
import Appraisal.Property.Listed
import Appraisal.Property.Query
import Appraisal.Property.Script
import Appraisal.Rule.Basic
import Appraisal.Rule.Definition
import Appraisal.Rule.Evaluate
import Appraisal.Rule.Report
import Appraisal.RuleSet.Basic
import Appraisal.RuleSet.Reading
import Appraisal.Settings
import Appraisal.Table
import Appraisal.Text.Alphabetic
import Appraisal.Text.Cased
import Appraisal.Text.Character
import Appraisal.Text.Folding
import Appraisal.Text.Lowercase
import Appraisal.Text.Numeral
import Appraisal.Text.Split
import Appraisal.Value.Basic
import Appraisal.Value.Compare
