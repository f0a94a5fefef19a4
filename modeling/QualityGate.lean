import QualityGate.CommandLine.Execution
import QualityGate.Main
import QualityGate.Proofs.Check.Failure
import QualityGate.Proofs.Check.FailureStatus
import QualityGate.Proofs.Check.NoMatch
import QualityGate.Proofs.Check.Options
import QualityGate.Proofs.Check.QuantifiedValidation
import QualityGate.Proofs.Check.SearchMode
import QualityGate.Proofs.Check.Validation
import QualityGate.Proofs.Check.Wire
import QualityGate.Proofs.CommandLine.Execution
import QualityGate.Proofs.CommandLine.Override
import QualityGate.Proofs.Concatenation.Acceptance
import QualityGate.Proofs.Concatenation.Names
import QualityGate.Proofs.Condition.Bracket
import QualityGate.Proofs.Condition.Membership
import QualityGate.Proofs.Condition.Operand
import QualityGate.Proofs.Condition.Substitution
import QualityGate.Proofs.Condition.TokenEnd
import QualityGate.Proofs.Configuration.Concatenation
import QualityGate.Proofs.Configuration.Defect
import QualityGate.Proofs.Configuration.RoundTrip
import QualityGate.Proofs.Configuration.UnknownCheck
import QualityGate.Proofs.Deadline
import QualityGate.Proofs.Expression.Conversion
import QualityGate.Proofs.Expression.Lexemes
import QualityGate.Proofs.Expression.MapEntries
import QualityGate.Proofs.Gate.Entries
import QualityGate.Proofs.Gate.Registry
import QualityGate.Proofs.Gate.Schedule
import QualityGate.Proofs.Gate.Verdict
import QualityGate.Proofs.Quantifier.Complement
import QualityGate.Proofs.Quantifier.Detection
import QualityGate.Proofs.Quantifier.ElementCondition
import QualityGate.Proofs.Quantifier.QuotedText
import QualityGate.Proofs.Quantifier.Stop
import QualityGate.Proofs.Quantifier.TermCondition
import QualityGate.Proofs.Quantifier.Value
import QualityGate.Proofs.Report.Colour
import QualityGate.Proofs.Report.Document
