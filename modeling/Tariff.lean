import Tariff.Billing
import Tariff.Binary64
import Tariff.Catalog
import Tariff.Charge
import Tariff.Command
import Tariff.Command.Arguments
import Tariff.Date
import Tariff.Decimal
import Tariff.Json
import Tariff.Json.Reading
import Tariff.Json.Written
import Tariff.Main
import Tariff.Numeral
import Tariff.Order
import Tariff.Proofs.Billing.Accounting
import Tariff.Proofs.Billing.Additivity
import Tariff.Proofs.Billing.Consistency
import Tariff.Proofs.Billing.Evaluation
import Tariff.Proofs.Billing.Export
import Tariff.Proofs.Billing.FanOut
import Tariff.Proofs.Billing.Pieces
import Tariff.Proofs.Billing.Reference
import Tariff.Proofs.Billing.Splitting
import Tariff.Proofs.Billing.WellFormed
import Tariff.Proofs.Binary64
import Tariff.Proofs.Catalog.Children
import Tariff.Proofs.Catalog.Loading
import Tariff.Proofs.Catalog.Names
import Tariff.Proofs.Catalog.Places
import Tariff.Proofs.Catalog.Validation
import Tariff.Proofs.Charge
import Tariff.Proofs.Charge.Sign
import Tariff.Proofs.Charge.Spelling
import Tariff.Proofs.Charge.Tier
import Tariff.Proofs.Csv
import Tariff.Proofs.Decimal.Exact
import Tariff.Proofs.Decimal.Point
import Tariff.Proofs.Decimal.Positive
import Tariff.Proofs.Decimal.Representable
import Tariff.Proofs.Decimal.Sign
import Tariff.Proofs.Decimal.Text
import Tariff.Proofs.Decimal.Written
import Tariff.Proofs.Json.Reading
import Tariff.Proofs.Json.Written
import Tariff.Proofs.Metrics
import Tariff.Proofs.Order.Numeric
import Tariff.Proofs.Report.Books
import Tariff.Proofs.Report.Earnings
import Tariff.Proofs.Report.Exact
import Tariff.Proofs.Report.History
import Tariff.Proofs.Report.Posting
import Tariff.Proofs.Report.Rebuilding
import Tariff.Proofs.Report.Totals
import Tariff.Proofs.Report.Verdicts
import Tariff.Proofs.Rule.Comparison
import Tariff.Proofs.Rule.Containment
import Tariff.Proofs.Rule.Interval
import Tariff.Proofs.Rule.Json
import Tariff.Proofs.Rule.Matching
import Tariff.Proofs.Service.Json
import Tariff.Proofs.Sku.Lines
import Tariff.Proofs.Sku.Merging
import Tariff.Proofs.Sku.Names
import Tariff.Proofs.Sku.Payload
import Tariff.Proofs.Sku.Spelling
import Tariff.Proofs.Sku.Totals
import Tariff.Proofs.Table
import Tariff.Proofs.Text.Casing
import Tariff.Proofs.Text.Upper
import Tariff.Report
import Tariff.Rule
import Tariff.Rule.Matching
import Tariff.Service
import Tariff.Settings
import Tariff.Sku
import Tariff.Table
import Tariff.Text
import Tariff.Text.CasingTable
import Tariff.Text.QuotingTable
