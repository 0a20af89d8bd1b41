import MessageSync.Packet.Basic

/-!
# Configuration

How long a batch may stay unacknowledged, how much one offer and one ack may list, and
how much a node stores. Durations are in milliseconds.
-/

namespace MessageSync

/-- The configuration of the engine. -/
@[ext]
structure SyncConfig where
  /-- After how long an unacknowledged batch counts as lost. -/
  retransmitAfter : Nat := 60000
  maxOfferIds : Nat := Packet.mostOffered
  maxAckIds : Nat := Packet.mostAcked
deriving DecidableEq

/-- The configuration of the cleaner. -/
@[ext]
structure CleanerConfig where
  /-- How long the cleaner waits between two passes. -/
  interval : Nat := 10000
  /-- How many bytes of messages may be stored. -/
  maxStoredBytes : Nat := 512 * 1024 * 1024
  /-- How many bytes are freed beyond what is over the limit. -/
  targetFreeBytes : Nat := 16 * 1024 * 1024
deriving DecidableEq

/-- The configuration of a node. -/
@[ext]
structure NodeConfig where
  sync : SyncConfig := {}
  cleaner : CleanerConfig := {}
deriving DecidableEq

end MessageSync
