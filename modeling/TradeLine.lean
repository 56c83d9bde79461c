import TradeLine.Action
import TradeLine.Address
import TradeLine.Amount
import TradeLine.Arguments.Basic
import TradeLine.Arguments.Scan
import TradeLine.Command
import TradeLine.Decimal.Basic
import TradeLine.Decimal.Binary64
import TradeLine.Decimal.Layout
import TradeLine.Decimal.Reader
import TradeLine.Decimal.Shortest
import TradeLine.Invalid
import TradeLine.Json.Basic
import TradeLine.Json.Writer
import TradeLine.Line.Form
import TradeLine.Line.Parse
import TradeLine.Log.Event
import TradeLine.Log.Filter
import TradeLine.Main
import TradeLine.Output.Format
import TradeLine.Output.Table
import TradeLine.Program
import TradeLine.Proofs.AddressAgreement
import TradeLine.Proofs.AddressFamilies
import TradeLine.Proofs.ArgumentSteps
import TradeLine.Proofs.BatchLines
import TradeLine.Proofs.CanonicalLine
import TradeLine.Proofs.CommandInvariant
import TradeLine.Proofs.EnvelopeAccount
import TradeLine.Proofs.ExactLiteral
import TradeLine.Proofs.FileOfLines
import TradeLine.Proofs.JoinedFiles
import TradeLine.Proofs.LineGrammar
import TradeLine.Proofs.LogOfLines
import TradeLine.Proofs.NumberReading
import TradeLine.Proofs.NumberWriting
import TradeLine.Proofs.OneValueALine
import TradeLine.Proofs.OptionPlaces
import TradeLine.Proofs.ParseOutcome
import TradeLine.Proofs.PrettyLayout
import TradeLine.Proofs.ReadBack
import TradeLine.Proofs.Rounding
import TradeLine.Proofs.RunEnding
import TradeLine.Proofs.Runs
import TradeLine.Proofs.ShortestDecimal
import TradeLine.Proofs.SurfaceVariants
import TradeLine.Proofs.TableLines
import TradeLine.Proofs.TableRows
import TradeLine.Proofs.TwoRenderings
import TradeLine.Proofs.Utf8Reading
import TradeLine.Rejection
import TradeLine.Report.Basic
import TradeLine.Report.Envelope
import TradeLine.Report.RequestId
import TradeLine.Report.Tasks
import TradeLine.Text.Alphanumeric
import TradeLine.Text.Basic
import TradeLine.Text.Hidden
import TradeLine.Text.Quoted
import TradeLine.Text.Utf8
import TradeLine.UnitName
import TradeLine.Wire.Decode
import TradeLine.Wire.Encode
