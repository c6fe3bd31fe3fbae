import MarkupGate.Json.Reader
import MarkupGate.Report.Format
import MarkupGate.Proofs.Catalog.Disabling
import MarkupGate.Proofs.Catalog.Reordering
import MarkupGate.Proofs.Config.Layer
import MarkupGate.Proofs.Config.RoundTrip
import MarkupGate.Proofs.Fix.Interference
import MarkupGate.Proofs.Fix.Lazy
import MarkupGate.Proofs.Fix.Locality
import MarkupGate.Proofs.Fix.Regression
import MarkupGate.Proofs.Fix.Result
import MarkupGate.Proofs.Fix.Reworded
import MarkupGate.Proofs.Fix.Spans
import MarkupGate.Proofs.Json.RoundTrip
import MarkupGate.Proofs.Markup.InnerText
import MarkupGate.Proofs.Markup.Opaque
import MarkupGate.Proofs.Markup.Writing
import MarkupGate.Proofs.Page.Secret
import MarkupGate.Proofs.Pipeline
import MarkupGate.Proofs.Report.RoundTrip
import MarkupGate.Proofs.Safety.Faultless
import MarkupGate.Proofs.Validation.Inputs
import MarkupGate.Proofs.Validation.Lines
import MarkupGate.Proofs.Validation.Subset
