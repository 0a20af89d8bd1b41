import MessageSync.Ident
import MessageSync.Window

/-!
# Transport secrets

A contact and this node share a secret for every rotation period of a transport. It
carries the counter of outgoing connections and the replay window of incoming ones
for that period. Times are in milliseconds.
-/

namespace MessageSync

/-- The secret of one contact, transport and period. -/
@[ext]
structure Secret where
  contact : ContactId
  transport : TransportId
  /-- The start of the first period. -/
  epoch : Int64
  /-- The greatest expected difference between the clocks of the two sides. -/
  clockDiff : Int64
  /-- The greatest expected latency of the transport. -/
  latency : Int64
  /-- Which of the two sides this node is. -/
  alice : Bool
  period : UInt64
  bytes : Bytes
  /-- The last outgoing connection number that was handed out. -/
  outgoing : UInt64
  window : Window
deriving DecidableEq

/-- The place of a secret: contact, transport and period. -/
abbrev SecretKey := ContactKey (PeriodKey UInt64)

namespace Secret

/-- Where a secret is kept. -/
def key (s : Secret) : SecretKey := ⟨s.contact, ⟨s.transport, s.period⟩⟩

/-- The secret of another period: side and timing are kept, while the counter and the
window start anew. -/
def rotate (s : Secret) (period : UInt64) (bytes : Bytes) : Secret :=
  { s with period, bytes, outgoing := 0, window := .fresh }

/-- The length of a rotation period, at least one. -/
def rotationPeriod (s : Secret) : Int64 := max (2 * s.clockDiff + s.latency) 1

/-- The number of the period that `now` falls into; zero up to the epoch. -/
def periodAt (s : Secret) (now : Int64) : UInt64 :=
  if now ≤ s.epoch then 0 else ((now - s.epoch) / s.rotationPeriod).toUInt64

/-- How a secret is shown in a record; its bytes are left out. -/
def debug (s : Secret) : String :=
  "TemporarySecret \x7b contact: " ++ s.contact.debug ++ ", transport: " ++ s.transport.debug
    ++ ", period: " ++ toString s.period.toNat ++ ", alice: " ++ toString s.alice
    ++ ", outgoing: " ++ toString s.outgoing.toNat ++ ", window: " ++ s.window.debug
    ++ ", .. \x7d"

end Secret

end MessageSync
