import QueryFlow.Main
import QueryFlow.Proofs.Document.Execution
import QueryFlow.Proofs.Document.RoundTrip
import QueryFlow.Proofs.Engine.Binding
import QueryFlow.Proofs.Engine.Paths
import QueryFlow.Proofs.Engine.Structural
import QueryFlow.Proofs.Pipeline.Cancellation
import QueryFlow.Proofs.Pipeline.Width
import QueryFlow.Proofs.Plan.Interchange
import QueryFlow.Proofs.Schema.Inclusion
import QueryFlow.Proofs.Union.Branches
import QueryFlow.Proofs.Value.Order
import QueryFlow.Proofs.Plan.Explain
import QueryFlow.Proofs.Document.Alike
import QueryFlow.Proofs.Document.Nesting
import QueryFlow.Proofs.Document.Respelling
import QueryFlow.Proofs.Pipeline.FilterCount
