import MessageSync.Json.Report
import MessageSync.Locks
import MessageSync.Node
import MessageSync.Packet.Decode
import MessageSync.Peer.Scenario
import MessageSync.Store.Damage
import MessageSync.Store.Memory
import MessageSync.Proofs.Store.Memory
import MessageSync.Proofs.Engine.Basic
import MessageSync.Proofs.Engine.Contacts
import MessageSync.Proofs.Engine.Batches
import MessageSync.Proofs.Engine.Messages
import MessageSync.Proofs.Engine.Secrets
import MessageSync.Proofs.Engine.Operation
import MessageSync.Proofs.Store.Consistent
import MessageSync.Proofs.Store.Mirror
import MessageSync.Proofs.Store.Answer
import MessageSync.Proofs.Engine.Frame
import MessageSync.Proofs.Engine.Alike
import MessageSync.Proofs.Engine.Mirror
import MessageSync.Proofs.Engine.Backend
import MessageSync.Proofs.Visibility
import MessageSync.Proofs.Engine.Origin
import MessageSync.Proofs.Store.Outgoing
import MessageSync.Proofs.Store.Exact
import MessageSync.Proofs.OutstandingBatches
import MessageSync.Proofs.SenderView
import MessageSync.Proofs.Cbor.Basic
import MessageSync.Proofs.Cbor.Record
import MessageSync.Proofs.Packet
import MessageSync.Proofs.Delivery
import MessageSync.Proofs.Window
import MessageSync.Proofs.Store.Secrets
import MessageSync.Proofs.Replay
import MessageSync.Proofs.Cbor.Local
import MessageSync.Proofs.Truncation
import MessageSync.Proofs.WrittenBatches
import MessageSync.Proofs.Store.Storable
import MessageSync.Proofs.Store.Reflect
import MessageSync.Proofs.Engine.Reflect
import MessageSync.Proofs.Equivalence
import MessageSync.Proofs.Store.Sendable
import MessageSync.Proofs.Sendability
import MessageSync.Proofs.Eligibility
import MessageSync.Proofs.Store.SameFor
import MessageSync.Proofs.Engine.SameFor
import MessageSync.Proofs.Store.Agreement
import MessageSync.Proofs.HiddenGroups
import MessageSync.Proofs.SampleMessage
import MessageSync.Proofs.Store.Exchange
import MessageSync.Proofs.Peer
import MessageSync.Proofs.Convergence
import MessageSync.Proofs.Atomicity
import MessageSync.Proofs.StaleAcks
import MessageSync.Proofs.Connections
import MessageSync.Proofs.Engine.Parts
import MessageSync.Proofs.Topic.Basic
import MessageSync.Proofs.Topic.Backend
import MessageSync.Proofs.Gossip
import MessageSync.Proofs.Engine.Outstanding
import MessageSync.Proofs.Store.Milestones
import MessageSync.Proofs.Engine.Reports
import MessageSync.Proofs.BatchEvents
import MessageSync.Proofs.FailureEvents
import MessageSync.Proofs.Engine.Race
import MessageSync.Proofs.Lifecycle
import MessageSync.Proofs.Races
import MessageSync.Proofs.HeardSearches
import MessageSync.Proofs.OutstandingRecords
import MessageSync.Proofs.Store.Arrivals
import MessageSync.Proofs.Store.Holdings
import MessageSync.Proofs.DeliveryOrder
import MessageSync.Proofs.Engine.Named
import MessageSync.Proofs.Store.Anchored
import MessageSync.Proofs.Engine.Anchored
import MessageSync.Proofs.Engine.Holdings
import MessageSync.Proofs.ContactRemoval
import MessageSync.Proofs.Store.Concerns
import MessageSync.Proofs.ContactFrame
import MessageSync.Proofs.GossipDelivery
import MessageSync.Proofs.BatchIntegrity
import MessageSync.Proofs.Store.Keyring
import MessageSync.Proofs.RotationPeriods
import MessageSync.Proofs.SecretPeriods
import MessageSync.Proofs.Requests
import MessageSync.Proofs.RequestFlags
import MessageSync.Proofs.OfferRound
import MessageSync.Proofs.LockOrder
import MessageSync.Proofs.UsedNumbers
import MessageSync.Proofs.Store.Closing
import MessageSync.Proofs.Acknowledgement
import MessageSync.Proofs.NextBatch
import MessageSync.Proofs.LostBatches
import MessageSync.Proofs.Cleaning
import MessageSync.Proofs.OwedAcks
import MessageSync.Proofs.LastWriter
import MessageSync.Proofs.Cbor.Apart
import MessageSync.Proofs.ContentAddresses
import MessageSync.Proofs.WriterRuns
import MessageSync.Proofs.SecretUse
import MessageSync.Proofs.RequestFlags
