import MessageSync.Store.Relational

/-!
# Damage to a relational store

The tables of a relational store can be changed by others, who need not keep to its
rules. `Relational.damage` writes one value into a column of every row of a table. The
library has to answer sensibly afterwards, whatever the value is.
-/

namespace MessageSync

/-- A value to write into a column of every row. -/
inductive Damage where
  | status (value : Int)
  | rating (value : Int)
  | contactTransports (value : Bytes)
  | localTransports (value : Bytes)
  /-- The bitmap of the replay window of a secret. -/
  | window (value : Bytes)
  /-- The identifier of a group that this node is subscribed to. -/
  | subscriptionId (value : Bytes)
  /-- The identifier of a batch to acknowledge. -/
  | batchToAckId (value : Bytes)
  /-- A row for one more version of the tables. -/
  | schema (value : Int)
deriving DecidableEq

/-- Gives new keys to all rows of a table, unless two rows get the same one. -/
def Table.rekey {κ ν : Type} [Ord κ] [Std.TransOrd κ] (t : Table κ ν) (f : κ → κ) :
    Option (Table κ ν) :=
  let moved := Table.insertAll ∅ (t.toList.map fun e => (f e.1, e.2))
  if moved.size = t.size then some moved else none

/-- Damages the tables, and answers how many rows changed. -/
def Relational.damage (s : Relational) : Damage → Except StoreError Nat × Relational
  | .status value =>
    (.ok s.statuses.size,
      { s with statuses := s.statuses.map fun _ row => { row with status := value } })
  | .rating value =>
    (.ok s.ratings.size, { s with ratings := s.ratings.map fun _ _ => value })
  | .contactTransports value =>
    (.ok s.contacts.size,
      { s with contacts := s.contacts.map fun _ row => { row with transports := value } })
  | .localTransports value => (.ok 1, { s with transports := value })
  | .window value =>
    (.ok s.secrets.size,
      { s with secrets := s.secrets.map fun _ row => { row with bitmap := value } })
  | .subscriptionId value =>
    match Table.rekey s.groups fun _ => value with
    | some groups => (.ok groups.size, { s with groups })
    | none => (.error .database, s)
  | .batchToAckId value =>
    match Table.rekey s.toAck fun k => ⟨k.contact, value⟩ with
    | some toAck => (.ok toAck.size, { s with toAck })
    | none => (.error .database, s)
  | .schema value =>
    if s.versions.contains value then (.error .database, s)
    else (.ok 1, { s with versions := s.versions.insert value () })

end MessageSync
