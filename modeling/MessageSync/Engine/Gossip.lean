import MessageSync.Engine.Basic

/-!
# Gossip

Contacts tell each other which groups they are subscribed to and how they can be reached.
The update with the latest timestamp wins.
-/

namespace MessageSync.Engine

variable {σ : Type} [Store σ]

open Act

/-! ## Telling -/

/-- Tells a contact the subscriptions of this node. -/
def generateSubscriptions (c : ContactId) : Act σ SubscriptionUpdate :=
  transaction do
    Txn.requireContact c
    let groups ← Txn.query Store.subscriptions
    let timestamp ← Txn.query Store.subscriptionsTimestamp
    let update : SubscriptionUpdate := ⟨groups, timestamp⟩
    Txn.send (.subscriptions update)
    return update

/-- Tells a contact the transport properties of this node. -/
def generateTransports (c : ContactId) : Act σ TransportUpdate :=
  transaction do
    Txn.requireContact c
    let (properties, timestamp) ← Txn.query Store.localTransports
    let update : TransportUpdate := ⟨properties, timestamp⟩
    Txn.send (.transports update)
    return update

/-! ## Listening -/

/-- Takes over the subscriptions of a contact; false if they are no news. -/
def receiveSubscriptions (c : ContactId) (update : SubscriptionUpdate) : Act σ Bool := do
  if Packet.mostGroups < update.groups.length then
    throw (.violation (.tooManyGroups update.groups.length))
  else
    let applied ← askAbout c (Store.setSubscriptions c update.groups update.timestamp)
    if applied then emit (.subscriptionsUpdated c)
    return applied

/-- Takes over the transport properties of a contact; false if they are no news. -/
def receiveTransports (c : ContactId) (update : TransportUpdate) : Act σ Bool := do
  if Packet.mostProperties < update.properties.size then
    throw (.violation (.tooManyProperties update.properties.size))
  else
    let applied ← askAbout c (Store.setTransports c update.properties update.timestamp)
    if applied then emit (.transportsUpdated c)
    return applied

/-! ## What is known -/

/-- The groups that a contact is subscribed to. -/
def contactSubscriptions (c : ContactId) : Act σ (List Group) :=
  askAbout c (Store.contactSubscriptions c)

/-- The transport properties of a contact. -/
def contactTransports (c : ContactId) : Act σ Properties :=
  askAbout c (Store.contactTransports c)

/-- Replaces the transport properties of this node. -/
def setLocalTransports (transports : Properties) : Act σ Unit := do
  ask (Store.setLocalTransports transports (← clock))
  emit .localTransportsUpdated

/-- The transport properties of this node. -/
def localTransports : Act σ Properties := do
  return (← ask Store.localTransports).1

end MessageSync.Engine
