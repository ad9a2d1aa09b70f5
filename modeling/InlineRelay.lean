import InlineRelay.Gateway.Line
import InlineRelay.Main
import InlineRelay.Rehearsal
import InlineRelay.Script
import InlineRelay.Proofs.Composition
import InlineRelay.Proofs.Gateway.Agreement
import InlineRelay.Proofs.Gateway.Delivery
import InlineRelay.Proofs.Itinerary
import InlineRelay.Proofs.Query
import InlineRelay.Proofs.FirstMatch
import InlineRelay.Proofs.Pattern.Search
import InlineRelay.Proofs.Reencoding
import InlineRelay.Proofs.Result.Grammar
import InlineRelay.Proofs.Result.Preservation
import InlineRelay.Proofs.Result.Resubmission
import InlineRelay.Proofs.SelfReference
import InlineRelay.Proofs.Submittable
import InlineRelay.Proofs.Pattern.Literal
import InlineRelay.Proofs.Isolation
import InlineRelay.Proofs.Result.Resubmittable
import InlineRelay.Proofs.Gateway.Attribution
import InlineRelay.Proofs.Position
import InlineRelay.Proofs.Rendering
import InlineRelay.Proofs.Reports
import InlineRelay.Proofs.Games
import InlineRelay.Proofs.Updates
import InlineRelay.Proofs.Settings
import InlineRelay.Proofs.Startup
import InlineRelay.Proofs.Webhook
import InlineRelay.Proofs.Json.Passing
import InlineRelay.Proofs.Text.Utf8
import InlineRelay.Proofs.Gateway.Classification
