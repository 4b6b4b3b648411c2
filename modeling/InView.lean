import InView.Binary64.Bits
import InView.Session
import InView.Proofs.Binary64.Order
import InView.Proofs.Visibility
import InView.Proofs.Visibility.Monotone
import InView.Proofs.Check
import InView.Proofs.Session.Run
import InView.Proofs.Session.Order
import InView.Proofs.Session.History
import InView.Proofs.Check.Record
import InView.Proofs.Check.Filter
import InView.Proofs.HostError
import InView.Proofs.Check.Failure
import InView.Proofs.Json.Accepts
import InView.Proofs.Json.Continuation
import InView.Proofs.Json.Numeral
import InView.Proofs.Json.Literal
import InView.Proofs.Json.Container
import InView.Proofs.Json.Ignored
import InView.Proofs.Layout.Grammar
import InView.Proofs.Decimal.Shortest
import InView.Proofs.Json.Scale
import InView.Proofs.Json.Reread
import InView.Proofs.Json.Writer
import InView.Proofs.Layout.Storage
import InView.Proofs.Layout.Storable
import InView.Proofs.Layout.Finite
import InView.Proofs.Layout.Equality
import InView.Proofs.Session.Equality
import InView.Proofs.Binary64.Pixels
import InView.Proofs.Layout.Scroll
import InView.Proofs.Binary64.Nearest
import InView.Proofs.Json.Exact
import InView.Proofs.Json.Spelled
import InView.Proofs.Layout.Faithful
import InView.Proofs.Layout.Built
import InView.Proofs.Layout.Violation
import InView.Proofs.Layout.Kind
import InView.Proofs.Layout.Position
import InView.Proofs.Layout.Truncated
import InView.Proofs.Json.Members
import InView.Proofs.Layout.Fields
import InView.Proofs.Json.Escape
import InView.Proofs.Layout.Keys
import InView.Proofs.Layout.Notation
import InView.Proofs.Json.Brief
import InView.Proofs.Layout.Compact
