import NativeBoundary.Callback.Script
import NativeBoundary.Direct.Call
import NativeBoundary.Gateway.Shared
import NativeBoundary.Lending.Context
import NativeBoundary.Loading.Session
import NativeBoundary.Log.Writer
import NativeBoundary.Overrides
import NativeBoundary.Owner.Lifetime
import NativeBoundary.Proofs.Run.Standing
import NativeBoundary.Reference.Table
import NativeBoundary.Settings.Session
import NativeBoundary.Proofs.Ownership.Ledger
import NativeBoundary.Proofs.Ownership.ExactlyOnce
import NativeBoundary.Proofs.Scopes.Depth
import NativeBoundary.Proofs.Scopes.Discipline
import NativeBoundary.Proofs.Scopes.Confined
import NativeBoundary.Proofs.Scopes.ClosureCalls
import NativeBoundary.Proofs.Histories.Methods
import NativeBoundary.Proofs.Histories.Lives
import NativeBoundary.Proofs.Histories.Making
import NativeBoundary.Proofs.Histories.Isolation
import NativeBoundary.Proofs.Histories.Answers
import NativeBoundary.Proofs.Fingerprints.Edits
import NativeBoundary.Proofs.Admission.Guarded
import NativeBoundary.Proofs.Sharing.FirstReturn
import NativeBoundary.Proofs.Layering.Precedence
import NativeBoundary.Proofs.Lending.Exchanges
import NativeBoundary.Proofs.Admission.Clients
import NativeBoundary.Proofs.Slots.Refusals
import NativeBoundary.Proofs.Opening.Requests
import NativeBoundary.Proofs.Projects.Nearest
import NativeBoundary.Proofs.Layering.Faults
import NativeBoundary.Proofs.Projects.Spelling
import NativeBoundary.Proofs.Scopes.Swallowed
import NativeBoundary.Proofs.Ownership.AfterDestroy
import NativeBoundary.Proofs.Lending.Texts
import NativeBoundary.Proofs.Opening.Resolution
import NativeBoundary.Proofs.Scopes.Mapping
import NativeBoundary.Proofs.Ownership.Statuses
import NativeBoundary.Proofs.Wire.Options
import NativeBoundary.Proofs.Wire.Copies
import NativeBoundary.Proofs.Wire.Nulls
import NativeBoundary.Proofs.Layering.Algebra
import NativeBoundary.Proofs.Documents.Acceptance
import NativeBoundary.Proofs.Projects.Entrances
import NativeBoundary.Proofs.Projects.Reuse
import NativeBoundary.Proofs.Records.Runs
import NativeBoundary.Proofs.Spans.Milliseconds
