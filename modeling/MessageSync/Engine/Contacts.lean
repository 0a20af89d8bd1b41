import MessageSync.Engine.Basic

/-!
# Contacts, subscriptions and ratings

The operations on what the user of a node decides: whom it knows, which groups it reads
and how far it trusts authors.
-/

namespace MessageSync.Engine

variable {σ : Type} [Store σ]

open Act

/-! ## Contacts -/

/-- Adds a contact with these transport properties. -/
def addContact (transports : Properties) : Act σ ContactId := do
  let c ← ask (Store.addContact transports)
  emit (.contactAdded c)
  return c

/-- Removes a contact and all that is kept for it. -/
def removeContact (c : ContactId) : Act σ Unit := do
  askAbout c (Store.removeContact c)
  emit (.contactRemoved c)

/-- All contacts in order. -/
def contacts : Act σ (List ContactId) := ask Store.contacts

/-! ## Subscriptions of this node -/

/-- Subscribes to a group; false if that is already so. -/
def subscribe (g : Group) : Act σ Bool := do
  let added ← ask (Store.addSubscription g (← clock))
  if added then emit .localSubscriptionsUpdated
  return added

/-- Ends a subscription and deletes the messages of the group; false if there is none. -/
def unsubscribe (g : GroupId) : Act σ Bool := do
  let removed ← ask (Store.removeSubscription g (← clock))
  if removed then emit .localSubscriptionsUpdated
  return removed

/-- The groups that this node is subscribed to. -/
def subscriptions : Act σ (List Group) := ask Store.subscriptions

/-! ## Ratings -/

/-- The rating of an author. -/
def rating (a : AuthorId) : Act σ Rating := ask (Store.rating a)

/-- Rates an author, and answers the rating before. What may be sent only changes when
the author becomes good, or no longer is. -/
def setRating (a : AuthorId) (rating : Rating) : Act σ Rating := do
  let old ← transaction do
    let old ← Txn.query (Store.setRating a rating)
    if old.isGood ≠ rating.isGood then
      discard (Txn.query (Store.setSendability a rating.isGood))
    return old
  if old ≠ rating then emit (.ratingChanged a rating)
  return old

end MessageSync.Engine
