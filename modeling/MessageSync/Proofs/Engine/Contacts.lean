import MessageSync.Proofs.Engine.Basic

/-!
# Running operations on contacts, groups, ratings and gossip

What these operations come to over a store in memory: the answer, the changes of the
store, the events, and what is written.
-/

namespace MessageSync.Engine

open Act

variable (t : Turn Memory)

/-! ## Contacts -/

lemma addContact_apply (transports : Properties) :
    Engine.addContact transports t =
      (.ok ⟨t.engine.store.nextContact⟩,
        t.after [.addContact transports] [.contactAdded ⟨t.engine.store.nextContact⟩]) := rfl

lemma removeContact_apply (c : ContactId) :
    Engine.removeContact c t =
      if c ∈ t.engine.store.contacts then
        (.ok (), t.after [.removeContact c] [.contactRemoved c])
      else (.error (.noSuchContact c), t) := by
  simp only [Engine.removeContact, bind_apply, askAbout_apply]
  by_cases h : c ∈ t.engine.store.contacts
  · simp only [h, if_true]
    rfl
  · simp only [h, if_false]

/-! ## Subscriptions of this node -/

lemma subscribe_apply (g : Group) :
    Engine.subscribe g t =
      if g.id ∈ t.engine.store.subscriptions then (.ok false, t)
      else (.ok true, t.after [.subscribe g t.engine.now] [.localSubscriptionsUpdated]) := by
  have hask : ask (Store.addSubscription g t.engine.now) t =
      (.ok (t.engine.store.addSubscription g t.engine.now).1,
        t.after [.subscribe g t.engine.now] []) := ask_change rfl
  simp only [Engine.subscribe, bind_apply, clock_apply, hask]
  by_cases h : g.id ∈ t.engine.store.subscriptions
  · simp [Memory.addSubscription, h, Turn.after, Memory.changes, Memory.change]
  · simp [Memory.addSubscription, h, Turn.after, bind_apply]

lemma unsubscribe_apply (g : GroupId) :
    Engine.unsubscribe g t =
      if g ∈ t.engine.store.subscriptions then
        (.ok true, t.after [.unsubscribe g t.engine.now] [.localSubscriptionsUpdated])
      else (.ok false, t) := by
  have hask : ask (Store.removeSubscription g t.engine.now) t =
      (.ok (t.engine.store.removeSubscription g t.engine.now).1,
        t.after [.unsubscribe g t.engine.now] []) := ask_change rfl
  simp only [Engine.unsubscribe, bind_apply, clock_apply, hask]
  by_cases h : g ∈ t.engine.store.subscriptions
  · simp [Memory.removeSubscription, h, Turn.after, bind_apply]
  · simp [Memory.removeSubscription, h, Turn.after, Memory.changes, Memory.change]

/-! ## Ratings -/

lemma setRating_apply (a : AuthorId) (rating : Rating) :
    Engine.setRating a rating t =
      (.ok (t.engine.store.ratingOf a), t.after [.rate a rating]
        (if t.engine.store.ratingOf a ≠ rating then [.ratingChanged a rating] else [])) := by
  have hquery (s : Memory) (sink : Sink) : Txn.query (Store.setRating a rating) (s, sink) =
      (.ok (s.ratingOf a), ((s.setRating a rating).2, sink)) := rfl
  simp only [Engine.setRating, bind_apply, transaction, Txn.bind_apply, hquery]
  by_cases hgood : (t.engine.store.ratingOf a).isGood = rating.isGood
  · by_cases h : t.engine.store.ratingOf a = rating
    · simp [h, Turn.after, Memory.change, Memory.rate]
    · simp [hgood, h, Turn.after, Memory.change, Memory.rate, bind_apply]
  · have h : t.engine.store.ratingOf a ≠ rating := fun h => hgood (by rw [h])
    have hset (s : Memory) (sink : Sink) :
        (discard (Txn.query (Store.setSendability a rating.isGood)) : Txn Memory Unit) (s, sink) =
          (.ok (), ((s.setSendability a rating.isGood).2, sink)) := rfl
    simp [hgood, h, Turn.after, Memory.change, Memory.rate, bind_apply, Txn.bind_apply, hset]

/-! ## Gossip -/

/-- What comes of an operation that writes a packet and changes nothing. -/
def writing {α : Type} (t : Turn Memory) (packet : Packet) (a : α) :
    Except SyncError α × Turn Memory :=
  match t.sink.send packet with
  | (.ok (), sink) => (.ok a, { t with sink })
  | (.error e, sink) => (.error (.sink e), { t with sink })

lemma generateSubscriptions_apply (c : ContactId) :
    Engine.generateSubscriptions c t =
      let update : SubscriptionUpdate :=
        ⟨Group.ofTable t.engine.store.subscriptions, t.engine.store.subscriptionsAt⟩
      if c ∈ t.engine.store.contacts then writing t (.subscriptions update) update
      else (.error (.noSuchContact c), t) := by
  simp only [Engine.generateSubscriptions, transaction_requireContact]
  have hgroups (s : Memory) (sink : Sink) : Txn.query Store.subscriptions (s, sink) =
      (.ok (Group.ofTable s.subscriptions), (s, sink)) := rfl
  have hat (s : Memory) (sink : Sink) : Txn.query Store.subscriptionsTimestamp (s, sink) =
      (.ok s.subscriptionsAt, (s, sink)) := rfl
  split
  · simp only [transaction, Txn.bind_apply, hgroups, hat, Txn.send, Txn.write, writing]
    rcases t.sink.send _ with ⟨_ | _, sink⟩ <;> rfl
  · rfl

lemma generateTransports_apply (c : ContactId) :
    Engine.generateTransports c t =
      let update : TransportUpdate := ⟨t.engine.store.transports, t.engine.store.transportsAt⟩
      if c ∈ t.engine.store.contacts then writing t (.transports update) update
      else (.error (.noSuchContact c), t) := by
  simp only [Engine.generateTransports, transaction_requireContact]
  have hlocal (s : Memory) (sink : Sink) : Txn.query Store.localTransports (s, sink) =
      (.ok (s.transports, s.transportsAt), (s, sink)) := rfl
  split
  · simp only [transaction, Txn.bind_apply, hlocal, Txn.send, Txn.write, writing]
    rcases t.sink.send _ with ⟨_ | _, sink⟩ <;> rfl
  · rfl

lemma receiveSubscriptions_apply (c : ContactId) (update : SubscriptionUpdate) :
    Engine.receiveSubscriptions c update t =
      if Packet.mostGroups < update.groups.length then
        (.error (.violation (.tooManyGroups update.groups.length)), t)
      else
        match t.engine.store.contacts[c]? with
        | none => (.error (.noSuchContact c), t)
        | some r =>
          if update.timestamp ≤ r.groupsAt then (.ok false, t)
          else (.ok true, t.after [.share c update.groups update.timestamp]
            [.subscriptionsUpdated c]) := by
  unfold Engine.receiveSubscriptions
  split
  · rfl
  · simp only [bind_apply, askAbout_apply, Std.ExtTreeMap.mem_iff_isSome_getElem?]
    cases hr : t.engine.store.contacts[c]? with
    | none => rfl
    | some r =>
      by_cases hat : update.timestamp ≤ r.groupsAt
      · have hask : ask (Store.setSubscriptions c update.groups update.timestamp) t =
            (.ok false, t) := ask_same (by
          show t.engine.store.setSubscriptions _ _ _ = _
          simp [Memory.setSubscriptions, hr, hat])
        simp [hask, hat]
      · have hask : ask (Store.setSubscriptions c update.groups update.timestamp) t =
            (.ok true, t.after [.share c update.groups update.timestamp] []) := ask_change (by
          show t.engine.store.setSubscriptions _ _ _ = _
          simp [Memory.change, Memory.setSubscriptions, hr, hat])
        simp [hask, hat, bind_apply, Turn.after]

lemma receiveTransports_apply (c : ContactId) (update : TransportUpdate) :
    Engine.receiveTransports c update t =
      if Packet.mostProperties < update.properties.size then
        (.error (.violation (.tooManyProperties update.properties.size)), t)
      else
        match t.engine.store.contacts[c]? with
        | none => (.error (.noSuchContact c), t)
        | some r =>
          if update.timestamp ≤ r.transportsAt then (.ok false, t)
          else (.ok true, t.after [.setTransports c update.properties update.timestamp]
            [.transportsUpdated c]) := by
  unfold Engine.receiveTransports
  split
  · rfl
  · simp only [bind_apply, askAbout_apply, Std.ExtTreeMap.mem_iff_isSome_getElem?]
    cases hr : t.engine.store.contacts[c]? with
    | none => rfl
    | some r =>
      by_cases hat : update.timestamp ≤ r.transportsAt
      · have hask : ask (Store.setTransports c update.properties update.timestamp) t =
            (.ok false, t) := ask_same (by
          show t.engine.store.setTransports _ _ _ = _
          simp [Memory.setTransports, hr, hat])
        simp [hask, hat]
      · have hask : ask (Store.setTransports c update.properties update.timestamp) t =
            (.ok true, t.after [.setTransports c update.properties update.timestamp] []) :=
          ask_change (by
            show t.engine.store.setTransports _ _ _ = _
            simp [Memory.change, Memory.setTransports, hr, hat])
        simp [hask, hat, bind_apply, Turn.after]

lemma contactSubscriptions_apply (c : ContactId) :
    Engine.contactSubscriptions c t =
      if c ∈ t.engine.store.contacts then (.ok (t.engine.store.contactSubscriptions c), t)
      else (.error (.noSuchContact c), t) := askAbout_apply c _ t

lemma contactTransports_apply (c : ContactId) :
    Engine.contactTransports c t =
      if c ∈ t.engine.store.contacts then (.ok (t.engine.store.contactTransports c), t)
      else (.error (.noSuchContact c), t) := askAbout_apply c _ t

lemma setLocalTransports_apply (transports : Properties) :
    Engine.setLocalTransports transports t =
      (.ok (), t.after [.setLocalTransports transports t.engine.now]
        [.localTransportsUpdated]) := rfl

/-! ## Transport properties over any store -/

/-- What is told of the transport properties of this node, and to whom, is decided by two
queries that change nothing. -/
lemma generateTransports_runOn {σ : Type} [Store σ] {c : ContactId} {known : σ → Bool}
    {transports : σ → Except StoreError (Properties × Int64)}
    (hknown : ∀ s, Store.containsContact c s = (.ok (known s), s))
    (htransports : ∀ s, Store.localTransports s = (transports s, s)) (e : Engine σ) (sink : Sink) :
    (generateTransports c).runOn e sink =
      if known e.store then
        match transports e.store with
        | .error x => (.error (.storage x), ⟨e, [], sink⟩)
        | .ok told =>
          match sink.send (.transports ⟨told.1, told.2⟩) with
          | (.ok (), sink) => (.ok ⟨told.1, told.2⟩, ⟨e, [], sink⟩)
          | (.error x, sink) => (.error (.sink x), ⟨e, [], sink⟩)
      else (.error (.noSuchContact c), ⟨e, [], sink⟩) := by
  simp only [Act.runOn, generateTransports, Act.transaction, Txn.bind_apply, Txn.requireContact,
    Txn.query, hknown]
  cases known e.store with
  | false => rfl
  | true =>
    simp only [if_true, Txn.pure_apply, htransports]
    cases transports e.store with
    | error x => rfl
    | ok told =>
      simp only [Txn.send, Txn.write]
      rcases sink.send (.transports ⟨told.1, told.2⟩) with ⟨_ | _, sink'⟩ <;> rfl

end MessageSync.Engine
