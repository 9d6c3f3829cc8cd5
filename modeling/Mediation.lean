import Mediation.Json.Reader
import Mediation.Proofs.Coordinator.Suspensions
import Mediation.Proofs.Guard.Budget
import Mediation.Proofs.Registry.Ledger
import Mediation.Scenario.Coordinator
import Mediation.Scenario.Delivery
import Mediation.Scenario.Document
import Mediation.Scenario.Loopback
import Mediation.Scenario.Reading
import Mediation.Proofs.Delivery.Containment
import Mediation.Proofs.Registry.Trails
import Mediation.Proofs.Coordinator.Identities
import Mediation.Proofs.Registry.Keys
import Mediation.Proofs.Coordinator.Bystanders
import Mediation.Proofs.Coordinator.Hearing
import Mediation.Proofs.Coordinator.EarlyReplies
import Mediation.Proofs.Coordinator.Flights
import Mediation.Proofs.Coordinator.Sending
import Mediation.Proofs.Coordinator.Returning
import Mediation.Proofs.Coordinator.Settling
import Mediation.Proofs.Coordinator.Conversations
import Mediation.Proofs.Coordinator.Timers
import Mediation.Proofs.Coordinator.Openings
import Mediation.Proofs.Coordinator.Completion
import Mediation.Proofs.Coordinator.OwnReplies
import Mediation.Proofs.Exchange.Documents
import Mediation.Proofs.Guard.Limits
import Mediation.Proofs.Delivery.Rollback
import Mediation.Proofs.Delivery.Continuity
import Mediation.Proofs.Coordinator.SoleSweeper
import Mediation.Proofs.Coordinator.Handbacks
import Mediation.Proofs.Coordinator.AddressWaits
import Mediation.Proofs.Delivery.Causes
import Mediation.Proofs.Delivery.Redeliveries
import Mediation.Proofs.Delivery.Exhaustion
import Mediation.Proofs.Station.Replay
import Mediation.Proofs.Station.Draining
import Mediation.Proofs.Station.Refusals
import Mediation.Proofs.Registry.Gauge
import Mediation.Proofs.Delivery.Flattening
import Mediation.Proofs.Policy.Delays
import Mediation.Proofs.Registry.Sweeps
import Mediation.Proofs.Registry.Awaiting
