import EntityEngine.Bench
import EntityEngine.Json.Reader
import EntityEngine.Json.Writer
import EntityEngine.Registry
import EntityEngine.Samples.Counter
import EntityEngine.Samples.Order
import EntityEngine.Samples.Script
import EntityEngine.Proofs.Conversation
import EntityEngine.Proofs.Interpretation
import EntityEngine.Proofs.Verdict
import EntityEngine.Proofs.Serving
import EntityEngine.Proofs.Discourse
import EntityEngine.Proofs.Contexts
import EntityEngine.Proofs.Transmission
import EntityEngine.Proofs.Rehearsal
import EntityEngine.Proofs.Erasure
import EntityEngine.Proofs.Journal
import EntityEngine.Proofs.Recovery
import EntityEngine.Proofs.Answers
import EntityEngine.Proofs.Policies
import EntityEngine.Proofs.Course
import EntityEngine.Proofs.Handling
import EntityEngine.Proofs.Traffic
import EntityEngine.Proofs.Delivery
import EntityEngine.Proofs.Reservation
import EntityEngine.Proofs.Crowd
import EntityEngine.Proofs.Exclusion
import EntityEngine.Proofs.Settling
import EntityEngine.Proofs.Renewal
import EntityEngine.Proofs.Wire
import EntityEngine.Proofs.Mirror
import EntityEngine.Proofs.Attribution
import EntityEngine.Proofs.Tombstones
import EntityEngine.Proofs.Inspection
import EntityEngine.Proofs.Separation
import EntityEngine.Proofs.Remembrance
import EntityEngine.Proofs.Absence
import EntityEngine.Proofs.Passivation
import EntityEngine.Proofs.Replacement
import EntityEngine.Proofs.Awaiting
import EntityEngine.Proofs.Precedence
import EntityEngine.Proofs.Spans
import EntityEngine.Proofs.Refusals
import EntityEngine.Proofs.Emptiness
import EntityEngine.Proofs.Chaining
import EntityEngine.Proofs.Rejections
import EntityEngine.Proofs.Reporting
import EntityEngine.Proofs.Calling
import EntityEngine.Proofs.Pairing
import EntityEngine.Proofs.Returning
import EntityEngine.Proofs.Hosting
import EntityEngine.Proofs.Landmarks
import EntityEngine.Proofs.Configuration
