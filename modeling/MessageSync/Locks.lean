/-!
# Locks on the domains of the store

An operation names the domains it touches and takes them all at once. `Locks.acquire`
takes them one at a time in the fixed order of the domains, so that no two operations
can wait for each other in a circle.
-/

namespace MessageSync

/-! ## Domains -/

/-- A part of the store that is locked as a whole, in the order of locking. -/
inductive Domain where
  | contact
  | message
  | messageStatus
  | rating
  | subscription
  | transport
deriving DecidableEq

namespace Domain

/-- All domains in the order of locking. -/
def all : List Domain := [contact, message, messageStatus, rating, subscription, transport]

/-- The place of a domain in the order. -/
def rank : Domain → Nat
  | contact => 0
  | message => 1
  | messageStatus => 2
  | rating => 3
  | subscription => 4
  | transport => 5

/-- The name of a domain. -/
def name : Domain → String
  | contact => "Contact"
  | message => "Message"
  | messageStatus => "MessageStatus"
  | rating => "Rating"
  | subscription => "Subscription"
  | transport => "Transport"

/-- The domain of this name. -/
def ofName? (text : String) : Option Domain := all.find? fun d => d.name = text

end Domain

/-! ## Sets of domains -/

/-- Domains to lock together. -/
structure LockSet where
  /-- One bit for each domain. -/
  bits : BitVec 6
deriving DecidableEq

namespace LockSet

/-- The set without domains. -/
def empty : LockSet := ⟨0⟩

/-- Whether a domain is in the set. -/
def contains (s : LockSet) (d : Domain) : Bool := s.bits.getLsbD d.rank

/-- The set with one more domain. -/
def insert (s : LockSet) (d : Domain) : LockSet := ⟨s.bits ||| (1#6 <<< d.rank)⟩

/-- The set of the domains in a list. -/
def ofList (ds : List Domain) : LockSet := ds.foldl insert empty

/-- Whether the set has no domains. -/
def isEmpty (s : LockSet) : Bool := s.bits = 0

/-- The domains of the set in the order of locking. -/
def inOrder (s : LockSet) : List Domain := Domain.all.filter s.contains

/-- How a set is shown in a record. -/
def debug (s : LockSet) : String :=
  "\x7b" ++ ", ".intercalate (s.inOrder.map Domain.name) ++ "\x7d"

end LockSet

/-! ## Locks -/

/-- The locks of all domains, each free or held by the owner with this number. -/
structure Locks where
  holder : Domain → Option Nat

namespace Locks

/-- All locks free. -/
def free : Locks := ⟨fun _ => none⟩

/-- Takes one lock, if it is free. -/
def take (l : Locks) (owner : Nat) (d : Domain) : Option Locks :=
  match l.holder d with
  | some _ => none
  | none => some ⟨fun e => if e = d then some owner else l.holder e⟩

/-- Takes the locks of a set one at a time, in the order of the domains. -/
def acquire (l : Locks) (owner : Nat) (s : LockSet) : Option Locks :=
  s.inOrder.foldlM (fun l d => l.take owner d) l

/-- Gives back all locks of an owner. -/
def release (l : Locks) (owner : Nat) : Locks :=
  ⟨fun d => if l.holder d = some owner then none else l.holder d⟩

end Locks

/-- The set of locks that an owner holds until it releases them. -/
structure LockGuard where
  set : LockSet
deriving DecidableEq

namespace LockGuard

/-- Whether the lock of a domain is held. -/
def holds (g : LockGuard) (d : Domain) : Bool := g.set.contains d

/-- How a guard is shown in a record. -/
def debug (g : LockGuard) : String := "LockGuard \x7b set: " ++ g.set.debug ++ " \x7d"

end LockGuard

end MessageSync
