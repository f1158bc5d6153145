import ChatGateway.Activity.Build
import ChatGateway.Endpoint
import ChatGateway.Json.Reader
import ChatGateway.Log.Sink
import ChatGateway.Outcome
import ChatGateway.Proofs.Discriminator
import ChatGateway.Ready
import ChatGateway.User.Projection
import ChatGateway.Proofs.Fits
import ChatGateway.Proofs.Json
import ChatGateway.Proofs.Keyed
import ChatGateway.Proofs.Copies
import ChatGateway.Proofs.Layout
import ChatGateway.Proofs.Reading
import ChatGateway.Proofs.Decoding
import ChatGateway.Proofs.Canonical
import ChatGateway.Proofs.RoundTrip
import ChatGateway.Proofs.Nested
import ChatGateway.Proofs.Merge
import ChatGateway.Proofs.Slots
import ChatGateway.Proofs.Changes
import ChatGateway.Proofs.Recoding
import ChatGateway.Proofs.Agreement
import ChatGateway.Proofs.Widening
import ChatGateway.Proofs.Formed
import ChatGateway.Proofs.Projection
import ChatGateway.Proofs.Places
import ChatGateway.Proofs.Locality
import ChatGateway.Proofs.Missing
import ChatGateway.Proofs.Supplements
import ChatGateway.Proofs.Completion
import ChatGateway.Proofs.MissingCode
import ChatGateway.Proofs.Trace
import ChatGateway.Proofs.ReadyTrace
import ChatGateway.Proofs.Showing
import ChatGateway.Proofs.Reports
import ChatGateway.Proofs.Indifference
import ChatGateway.Proofs.Encoding
import ChatGateway.Proofs.Cut
import ChatGateway.Proofs.Host
import ChatGateway.Proofs.Link
import ChatGateway.Proofs.Uri
import ChatGateway.Proofs.Streaming
import ChatGateway.Proofs.Flags
import ChatGateway.Proofs.Collection
import ChatGateway.Proofs.Nulls
import ChatGateway.Proofs.Buttons
import ChatGateway.Proofs.Enumeration
import ChatGateway.Proofs.Settings
import ChatGateway.Proofs.Checks
import ChatGateway.Proofs.Rendering
