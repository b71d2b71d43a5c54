import DatedMoney.Main
import DatedMoney.Notation.Fields
import DatedMoney.Proofs.Checking.Draft
import DatedMoney.Proofs.Checking.Faults
import DatedMoney.Proofs.Checking.Gates
import DatedMoney.Proofs.CommandLine.Target
import DatedMoney.Proofs.Conversion.Carried
import DatedMoney.Proofs.Conversion.Chain
import DatedMoney.Proofs.Conversion.Comparison
import DatedMoney.Proofs.Conversion.EntryPoints
import DatedMoney.Proofs.Conversion.Report
import DatedMoney.Proofs.Conversion.SameYear
import DatedMoney.Proofs.Decimal.Arithmetic
import DatedMoney.Proofs.Decimal.Grouping
import DatedMoney.Proofs.Decimal.Order
import DatedMoney.Proofs.Decimal.Printed
import DatedMoney.Proofs.Decimal.Sum
import DatedMoney.Proofs.Index.Accuracy
import DatedMoney.Proofs.Index.Interpolation
import DatedMoney.Proofs.Index.Monotone
import DatedMoney.Proofs.Index.Pairs
import DatedMoney.Proofs.Index.Reference
import DatedMoney.Proofs.Method.Limit
import DatedMoney.Proofs.Method.Linearity
import DatedMoney.Proofs.Method.PathIndependence
import DatedMoney.Proofs.Method.Refusal
import DatedMoney.Proofs.Method.Rescale
import DatedMoney.Proofs.Notation.Acceptance
import DatedMoney.Proofs.Notation.Amount
import DatedMoney.Proofs.Notation.CanonicalAmount
import DatedMoney.Proofs.Notation.Derivable
import DatedMoney.Proofs.Notation.Fields
import DatedMoney.Proofs.Notation.Legible
import DatedMoney.Proofs.Notation.NormalForm
import DatedMoney.Proofs.Notation.Position
import DatedMoney.Proofs.Notation.RoundTrip
import DatedMoney.Proofs.Notation.Written
import DatedMoney.Proofs.Registry.History
import DatedMoney.Proofs.Service.Congruence
import DatedMoney.Proofs.Service.Outcome
import DatedMoney.Proofs.Service.Rate
import DatedMoney.Proofs.Service.Resubmission
import DatedMoney.Proofs.Session
import DatedMoney.Proofs.Session.Amount
import DatedMoney.Proofs.Shelf
import DatedMoney.Proofs.Text.DecimalDigit
import DatedMoney.Proofs.Text.Numeral
import DatedMoney.Proofs.Value.Record
import DatedMoney.Service.Answer
import DatedMoney.Session
import DatedMoney.Shelf
