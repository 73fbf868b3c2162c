import SqlGateway.Account
import SqlGateway.Gateway.Script
import SqlGateway.Http.Transport
import SqlGateway.Procedure
import SqlGateway.Storage
import SqlGateway.Proofs.Chain.Calls
import SqlGateway.Proofs.Chain.Memo
import SqlGateway.Proofs.Chain.Range
import SqlGateway.Proofs.Envelope
import SqlGateway.Proofs.Gateway.AdHoc
import SqlGateway.Proofs.Gateway.Conversation
import SqlGateway.Proofs.Gateway.Overlap
import SqlGateway.Proofs.Gateway.Rejection
import SqlGateway.Proofs.Gateway.Telemetry
import SqlGateway.Proofs.Grammar
import SqlGateway.Proofs.Http.Connect
import SqlGateway.Proofs.Http.Failure
import SqlGateway.Proofs.Http.Report
import SqlGateway.Proofs.Http.Response
import SqlGateway.Proofs.Query.Alphabet
import SqlGateway.Proofs.Query.Binding
import SqlGateway.Proofs.Query.Determinacy
import SqlGateway.Proofs.Query.Form
import SqlGateway.Proofs.Query.Pairs
import SqlGateway.Proofs.Query.Precedence
import SqlGateway.Proofs.Query.Record
import SqlGateway.Proofs.Query.Target
import SqlGateway.Proofs.Settings
import SqlGateway.Proofs.Stored
import SqlGateway.Proofs.Text.Numbers
import SqlGateway.Proofs.Url.Endpoint
import SqlGateway.Proofs.Value.Literal
import SqlGateway.Proofs.Value.Wire
